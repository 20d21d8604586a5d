import Casebook.Console.Literal.Reading
import Casebook.Console.Styled
import Casebook.Text.Affix
import Casebook.Text.HalfRun
import Casebook.Text.Quoted

/-!
# Console markup

Text for the console may hold tags in brackets, which style what stands between them and
are not shown. An opening tag begins with a lower-case letter or one of three signs; a
closing tag begins with a slash and must close a tag that is open. A backslash in front of
a tag shows the tag as it is, and two show a backslash. Brackets around anything else are
shown.

A tag may have a value behind an equals sign, which counts as further words of the style.
The value of a closed tag whose name begins
with an at sign is a call: a name, and arguments in brackets that must be literals.
-/

namespace Casebook.Console

open Text

/-- A character that a tag may begin with. -/
def isTagStart (c : Char) : Bool :=
  ('a' ≤ c && c ≤ 'z') || c == '#' || c == '/' || c == '@'

/-- A point inside a tag. -/
def isTagPoint (p : Point) : Bool := p ≠ '[' && p ≠ ']'

/-- The tag in front, without its brackets, and what follows it. -/
def tagAt? : List Point → Option (List Point × List Point)
  | .char '[' :: p :: ps =>
    if !Point.passes isTagStart p then none
    else
      match ps.dropWhile isTagPoint with
      | .char ']' :: rest => some (p :: ps.takeWhile isTagPoint, rest)
      | _ => none
  | _ => none

theorem tagAt?_length {ps body rest : List Point} (h : tagAt? ps = some (body, rest)) :
    rest.length < ps.length := by
  unfold tagAt? at h
  split at h
  · split at h
    · simp at h
    · rename_i p ps _
      have hlen : (ps.dropWhile isTagPoint).length ≤ ps.length :=
        (List.dropWhile_suffix isTagPoint).length_le
      split at h
      · next heq =>
        simp only [Option.some.injEq, Prod.mk.injEq] at h
        rw [heq, h.2] at hlen
        simp only [List.length_cons] at hlen ⊢
        omega
      · simp at h
  · simp at h

/-- A piece of marked-up text. -/
inductive Piece
  | shown (points : List Point)
  /-- A tag without its brackets, and where it stands. -/
  | tag (body : Text) (position : Nat)
deriving Repr, DecidableEq

/-- Takes marked-up text apart; `position` is where it begins. -/
def piecesOf (position : Nat) (ps : List Point) : List Piece :=
  match ps with
  | [] => []
  | p :: rest =>
    let slashes := (p :: rest).takeWhile (· = Point.char '\\')
    let after := (p :: rest).dropWhile (· = Point.char '\\')
    have _bound : after.length ≤ (p :: rest).length := (List.dropWhile_suffix _).length_le
    match h : tagAt? after with
    | some (tag, tail) =>
      have := tagAt?_length h
      let backslashes := List.replicate (slashes.length / 2) (Point.char '\\')
      let next := piecesOf (position + slashes.length + tag.length + 2) tail
      if slashes.length % 2 = 1 then
        .shown (backslashes ++ Point.char '[' :: tag ++ [Point.char ']']) :: next
      else .shown backslashes :: .tag ⟨tag⟩ (position + slashes.length) :: next
    | none =>
      let isMark := p = Point.char '\\' && rest.head? = some (Point.char '[')
      .shown (if isMark then [] else [p]) :: piecesOf (position + 1) rest
termination_by ps.length
decreasing_by all_goals (simp only [List.length_cons] at *; omega)

/-- Why marked-up text was refused. -/
inductive MarkupFault
  | nothingToClose (position : Nat)
  | notOpen (tag : Text) (position : Nat)
  /-- The arguments of a tag are no expression. -/
  | noExpression (arguments value : Text) (fault : Literal.Fault)
  /-- The arguments of a tag are refused for another reason. -/
  | refused (value : Text) (refusal : Literal.Refusal)
  /-- The arguments of a tag have a set or map with an element of a kind that cannot be one. -/
  | badElement (value : Text) (kind : String)
  /-- The arguments of a tag are an expression and no literal. -/
  | noLiteral (value : Text)
  /-- The arguments of a tag have a map in which another is unpacked. -/
  | unpackedMap (value : Text)
  /-- The arguments of a tag have halves of surrogate pairs. -/
  | halves (value : Text) (run : HalfRun)
  | zeroCharacter (value : Text)
  | color (fault : ColorFault)
deriving Repr, DecidableEq

/-- The text reported for marked-up text that was refused. -/
def MarkupFault.message : MarkupFault → Text
  | .nothingToClose position => s!"closing tag '[/]' at position {position} has nothing to close"
  | .notOpen tag position =>
    "closing tag '[" ++ tag ++ s!"]' at position {position} doesn't match any open tag"
  | .noExpression arguments value fault =>
    s!"error parsing {quoted arguments} in {quoted value}; {fault.message}"
  | .refused value refusal => s!"error parsing {quoted value}; {refusal.message}"
  | .badElement value kind => s!"error parsing {quoted value}; unhashable type: '{kind}'"
  | .noLiteral value => s!"error parsing {quoted value}; malformed node or string"
  | .unpackedMap value => s!"error parsing {quoted value}; malformed node or string: None"
  | .halves value run => s!"error parsing {quoted value}; {run.message}"
  | .zeroCharacter value =>
    s!"error parsing {quoted value}; source code string cannot contain null bytes"
  | .color fault => fault.message

/-- An open tag: where its text begins, its name in the form in which names are compared, and
its value. -/
structure OpenTag where
  start : Nat
  name : Text
  value : Option Text
deriving Repr, DecidableEq

namespace OpenTag

/-- The value of a tag is a call. -/
def isCall (t : OpenTag) : Bool := begins "@" t.name

/-- The words of the style: the name, and the value as further words. -/
def words (t : OpenTag) : Text :=
  match t.value with
  | some value => t.name ++ " " ++ value
  | none => t.name

end OpenTag

/-- The name of a tag: what stands before an equals sign, if there is one. -/
def nameOf (tag : Text) : Text := ⟨tag.points.takeWhile (· ≠ Point.char '=')⟩

/-- What stands behind the first equals sign of a tag. -/
def valueOf (tag : Text) : Option Text :=
  match tag.points.dropWhile (· ≠ Point.char '=') with
  | _ :: value => some ⟨value⟩
  | [] => none

/-- A character of the name in a call. -/
def isCallName (c : Char) : Bool := isWordChar c || c = '.'

/-- The arguments in a call, with their brackets. What is no call counts as arguments. -/
def callArguments (call : Text) : Text :=
  match call.points.dropWhile (Point.passes isCallName) with
  | [] => "()"
  | .char '(' :: rest =>
    if rest.getLast? = some (Point.char ')') && !rest.contains (Point.char '\n') then
      ⟨Point.char '(' :: rest⟩
    else call
  | _ => call

/-- Checks the arguments in a value, which may have some levels. -/
def checkArguments (levels : Nat) (value : Text) : Except MarkupFault Unit :=
  let arguments := callArguments value.trim
  let isGap := Point.passes fun c => c = ' ' || c = '\t'
  match (Text.mk (arguments.points.dropWhile isGap)).characters with
  | .error run => .error (.halves value run)
  | .ok cs =>
    if cs.contains '\x00' then .error (.zeroCharacter value)
    else
      match Literal.read levels cs with
      | .error (.fault fault) => .error (.noExpression arguments value fault)
      | .error refusal => .error (.refused value refusal)
      | .ok (.badElement kind) => .error (.badElement value kind)
      | .ok .noLiteral => .error (.noLiteral value)
      | .ok .noKey => .error (.unpackedMap value)
      | .ok _ => .ok ()

/-- The span of a tag that is closed at an offset. Its arguments may have some levels; an empty
value is no call. -/
def OpenTag.closed (t : OpenTag) (levels stop : Nat) : Except MarkupFault Span := do
  if t.isCall then
    match t.value with
    | some value => if !value.isEmpty then checkArguments levels value
    | none => pure ()
    return ⟨t.start, stop, none⟩
  else return ⟨t.start, stop, some t.words⟩

/-- Takes the last open tag of a name. -/
def takeOpen (name : Text) : List OpenTag → Option (OpenTag × List OpenTag)
  | [] => none
  | t :: ts =>
    if t.name = name then some (t, ts) else (takeOpen name ts).map fun (u, us) => (u, t :: us)

/-- What is known while pieces are put together. -/
structure Reading where
  /-- The text in reverse order. -/
  points : List Point
  length : Nat
  /-- The open tags, the last one first. -/
  opened : List OpenTag
  /-- The spans of tags that were closed, the last one first. -/
  closed : List Span
deriving Repr

namespace Reading

/-- A control that the console drops: bell, backspace, vertical tab, form feed and carriage
return. -/
def isDropped (c : Char) : Bool := [7, 8, 11, 12, 13].contains c.toNat

/-- Adds shown text. -/
def add (r : Reading) (ps : List Point) : Reading :=
  let ps := ps.filter (!·.passes isDropped)
  { r with points := ps.reverse ++ r.points, length := r.length + ps.length }

/-- Opens a tag. -/
def enter (r : Reading) (tag : Text) : Except MarkupFault Reading := do
  let name ← (styleName (nameOf tag)).mapError .color
  return { r with opened := ⟨r.length, name, valueOf tag⟩ :: r.opened }

/-- Closes a tag. -/
def leave (r : Reading) (levels : Nat) (t : OpenTag) (opened : List OpenTag) :
    Except MarkupFault Reading := do
  return { r with opened, closed := (← t.closed levels r.length) :: r.closed }

/-- Goes on with a tag at a position. -/
def follow (r : Reading) (levels : Nat) (tag : Text) (position : Nat) :
    Except MarkupFault Reading := do
  match after? "/" (nameOf tag) with
  | none => r.enter tag
  | some name =>
    if name.trim.isEmpty then
      match r.opened with
      | t :: rest => r.leave levels t rest
      | [] => throw (.nothingToClose position)
    else
      match takeOpen (← (styleName name).mapError .color) r.opened with
      | some (t, rest) => r.leave levels t rest
      | none => throw (.notOpen tag position)

/-- Goes on with a piece. -/
def step (levels : Nat) (r : Reading) : Piece → Except MarkupFault Reading
  | .shown ps => .ok (r.add ps)
  | .tag body position => r.follow levels body position

/-- The styled text at the end. Tags that are still open style what follows them. Spans count
in the order of their starts, those of tags that were closed later first. -/
def styled (r : Reading) : Styled :=
  let atEnd := r.opened.reverse.map fun t => Span.mk t.start r.length (some t.words)
  ⟨r.points.reverse, (atEnd ++ r.closed).mergeSort (·.start ≤ ·.start)⟩

end Reading

/-- The styled text of marked-up text. The arguments of tags may have some levels. -/
def Styled.ofMarkup (levels : Nat) (markup : Text) : Except MarkupFault Styled := do
  return ((← (piecesOf 0 markup.points).foldlM (Reading.step levels) ⟨[], 0, [], []⟩)).styled

end Casebook.Console

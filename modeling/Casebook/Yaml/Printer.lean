import Casebook.Text.Base64
import Casebook.Text.Hex
import Casebook.Value.Basic
import Casebook.Yaml.Style

/-!
# Writing YAML

A document value is written as a block document: one entry or item a line, the items of a
sequence below a key as far to the left as the key. Keys that are empty, long, or of
several lines stand behind a question mark. Long lines are folded at blanks past the
line width.

A value that is written at several places gets an anchor where it is written first, and an alias
stands for it from then on. `Anchors.ofValue` numbers the anchors before anything is written.
-/

namespace Casebook.Yaml

/-- The labels of values that are written at several places, and their numbers. -/
abbrev Anchors := List (Nat × Nat)

/-- What has been written: the characters in reverse order, the column, whether a blank was
written last, and whether only indentation stands on the line. -/
structure Page where
  written : List Char
  column : Nat
  blank : Bool
  indented : Bool
  /-- The anchors of the document. -/
  anchors : Anchors
  /-- The labels of the values that have been written. -/
  labels : List Nat
deriving Repr

namespace Page

/-- The column behind which a line is folded. -/
def lineWidth : Nat := 4096

/-- Columns of indentation for each level. -/
def step : Nat := 2

def start (anchors : Anchors) : Page := ⟨[], 0, true, true, anchors, []⟩

def put (p : Page) (cs : List Char) : Page :=
  { p with written := cs.reverse ++ p.written, column := p.column + cs.length }

/-- Ends the line with the given character. -/
def endLine (p : Page) (c : Char) : Page :=
  { p with written := c :: p.written, column := 0, blank := true, indented := true }

/-- Goes to a column of indentation, on a new line unless nothing else is on this one. -/
def indent (p : Page) (column : Nat) : Page :=
  let p := if !p.indented || p.column > column || (p.column == column && !p.blank) then
    p.endLine '\n' else p
  if p.column < column then
    { p.put (List.replicate (column - p.column) ' ') with blank := true }
  else p

/-- Writes an indicator with a blank in front, unless there is one. -/
def indicator (p : Page) (cs : List Char) (blank indented : Bool) : Page :=
  let q := p.put (if p.blank then cs else ' ' :: cs)
  { q with blank := blank, indented := p.indented && indented }

/-- Writes an indicator without a blank in front. -/
def attach (p : Page) (cs : List Char) : Page :=
  { p.put cs with blank := false, indented := false }

/-- Text has been written last. -/
def inText (p : Page) : Page := { p with blank := false, indented := false }

/-! ## Scalars -/

/-- Puts the characters of a run in front of the rest into pieces: a piece is a run of
spaces, of line ends, or of other characters. -/
inductive Piece
  | word (cs : List Char)
  | spaces (n : Nat)
  | breaks (cs : List Char)
deriving Repr

/-- The pieces of a text, with one more character in front. -/
def Piece.cons (c : Char) (ps : List Piece) : List Piece :=
  if c == ' ' then
    match ps with
    | .spaces n :: rest => .spaces (n + 1) :: rest
    | ps => .spaces 1 :: ps
  else if Style.isFoldable c then
    match ps with
    | .breaks cs :: rest => .breaks (c :: cs) :: rest
    | ps => .breaks [c] :: ps
  else
    match ps with
    | .word cs :: rest => .word (c :: cs) :: rest
    | ps => .word [c] :: ps

def Piece.ofText (text : List Char) : List Piece := text.foldr Piece.cons []

/-- Writes spaces within a text: a single one past the line width becomes a line end, if
the text may be folded. -/
def spaces (p : Page) (n indent : Nat) (fold : Bool) : Page :=
  if n == 1 && p.column > lineWidth && fold then p.indent indent
  else p.put (List.replicate n ' ')

/-- Writes line ends within single quotes: one more line feed stands before line feeds. -/
def breaks (p : Page) (cs : List Char) (indent : Nat) : Page :=
  let p := if cs.head? == some '\n' then p.endLine '\n' else p
  (cs.foldl endLine p).indent indent

def isSingleSpace : Piece → Bool
  | .spaces 1 => true
  | _ => false

/-- Writes the pieces of a plain text. -/
def plainPieces (indent : Nat) (fold : Bool) (p : Page) : List Piece → Page
  | [] => p
  | .word cs :: rest => plainPieces indent fold (p.put cs) rest
  | .spaces n :: rest => plainPieces indent fold (p.spaces n indent fold).inText rest
  | .breaks cs :: rest => plainPieces indent fold (p.put cs) rest

/-- Writes a plain text with a blank in front, unless there is one. -/
def plain (p : Page) (text : List Char) (indent : Nat) (fold : Bool) : Page :=
  if text.isEmpty then p
  else
    let p := if p.blank then p else p.put [' ']
    plainPieces indent fold p.inText (Piece.ofText text)

/-- Writes the pieces between single quotes; `inner` says that a piece stands before. -/
def singlePieces (indent : Nat) (fold : Bool) (inner : Bool) (p : Page) : List Piece → Page
  | [] => p
  | .word cs :: rest =>
    singlePieces indent fold true
      (p.put (cs.flatMap fun c => if c == '\'' then ['\'', '\''] else [c])) rest
  | .spaces n :: rest =>
    singlePieces indent fold true (p.spaces n indent (fold && inner && !rest.isEmpty)) rest
  | .breaks cs :: rest => singlePieces indent fold true (p.breaks cs indent) rest

/-- Writes a text between single quotes, in which a quote is doubled. -/
def single (p : Page) (text : List Char) (indent : Nat) (fold : Bool) : Page :=
  let p := p.indicator ['\''] false false
  (singlePieces indent fold false p (Piece.ofText text)).attach ['\'']

/-- What stands behind a backslash for a character. -/
def letters : List (Char × Char) :=
  [('\x00', '0'), ('\x07', 'a'), ('\x08', 'b'), ('\t', 't'), ('\n', 'n'), ('\x0b', 'v'),
    ('\x0c', 'f'), ('\r', 'r'), ('\x1b', 'e'), ('"', '"'), ('\\', '\\'), ('\x85', 'N'),
    ('\xa0', '_'), ('\u2028', 'L'), ('\u2029', 'P')]

/-- A character that stands for itself between double quotes. -/
def isDoublePlain (c : Char) : Bool :=
  let n := c.toNat
  !(c == '"' || c == '\\' || c == '\u2028' || c == '\u2029' || c == '\uFEFF') &&
    ((0x20 ≤ n && n ≤ 0x7E) || (0xA0 ≤ n && n ≤ 0xFFFD))

/-- The escape of a code. -/
def escapeCode (n : Nat) : List Char :=
  let upper := fun cs : List Char => cs.map Char.toUpper
  if n ≤ 0xFF then '\\' :: 'x' :: upper (Text.hex 2 n)
  else if n ≤ 0xFFFF then '\\' :: 'u' :: upper (Text.hex 4 n)
  else '\\' :: 'U' :: upper (Text.hex 8 n)

/-- The escape of a point between double quotes, unless it stands for itself. -/
def escape? : Point → Option (List Char)
  | .half h => some (escapeCode h.code)
  | .char c =>
    if isDoublePlain c then none
    else
      match letters.lookup c with
      | some letter => some ['\\', letter]
      | none => some (escapeCode c.toNat)

/-- Goes to a new line within double quotes; a blank that comes next is escaped. -/
def foldDouble (p : Page) (indent : Nat) (next : Option Point) : Page :=
  let p := ((p.put ['\\']).indent indent).inText
  if next == some (.char ' ') then p.put ['\\'] else p

/-- Writes points between double quotes. `before` are the characters that are not
written yet, in reverse order, and `first` says that none stands before them. Past the
line width a line is folded before a blank and behind an escape, but not at either end. -/
def doublePoints (indent : Nat) (fold : Bool) (first : Bool) (before : List Char) (p : Page) :
    List Point → Page
  | [] => p.put before.reverse
  | point :: rest =>
    let escaped := escape? point
    let p := match escaped with
      | none => p
      | some cs => (p.put before.reverse).put cs
    let before := if escaped.isNone then before else []
    let mayFold := fold && !first && !rest.isEmpty && (point == ' ' || before.isEmpty)
    let full := if escaped.isNone then lineWidth else lineWidth + 1
    let goesOn := fun (p : Page) (before : List Char) =>
      let before := if escaped.isNone then point.char?.toList ++ before else before
      doublePoints indent fold false before p rest
    if mayFold && p.column + before.length > full then
      let next := if escaped.isNone then some point else rest.head?
      goesOn ((p.put before.reverse).foldDouble indent next) []
    else goesOn p before

/-- Writes a text between double quotes. -/
def double (p : Page) (t : Text) (indent : Nat) (fold : Bool) : Page :=
  let p := p.indicator ['"'] false false
  (doublePoints indent fold true [] p t.points).attach ['"']

/-- Writes a text in a style that allows it. A key on one line is not folded. -/
def scalar (p : Page) (style : Style) (t : Text) (indent : Nat) (key : Bool) : Page :=
  let cs := t.points.filterMap Point.char?
  match style with
  | .plain => p.plain cs indent (!key)
  | .single => p.single cs indent (!key)
  | .double => p.double t indent (!key)

end Page

/-! ## Values -/

/-- The text of a floating point number: a point stands in it also before an exponent. -/
def floatText (x : Number.Binary64) : String :=
  match x with
  | .nan => ".nan"
  | .infinite s => if s then "-.inf" else ".inf"
  | x =>
    let cs := (Number.Layout.message.render x).toList
    if cs.contains '.' then String.ofList cs
    else String.ofList (cs.flatMap fun c => if c == 'e' then ['.', '0', 'e'] else [c])

/-! ## Anchors -/

namespace Anchors

/-- The labels that were met so far, and the anchors of those that were met again. -/
structure Census where
  met : List Nat
  anchors : Anchors

/-- Numbers a label that is met again, unless it has a number. -/
def Census.number (c : Census) (label : Nat) : Census :=
  if (c.anchors.lookup label).isSome then c
  else { c with anchors := c.anchors ++ [(label, c.anchors.length + 1)] }

mutual

/-- Takes in a value: a label that was met before needs an anchor, and the value under it is not
looked at again. -/
def census (c : Census) : Value → Census
  | .shared label v | .loop label v =>
    if c.met.contains label then c.number label
    else census { c with met := label :: c.met } v
  | .again label _ => c.number label
  | .list items | .tuple items | .set items => censusOfItems c items
  | .map entries => censusOfEntries c entries
  | _ => c

def censusOfItems (c : Census) : List Value → Census
  | [] => c
  | v :: vs => censusOfItems (census c v) vs

def censusOfEntries (c : Census) : List (Value × Value) → Census
  | [] => c
  | (k, v) :: es => censusOfEntries (census (census c k) v) es

end

/-- The anchors that a document needs, numbered in the order in which they turn out to be
needed. -/
def ofValue (v : Value) : Anchors := (census ⟨[], []⟩ v).anchors

/-- The name of the anchor with a number. -/
def nameOf (n : Nat) : String := "id" ++ Calendar.padded 3 n

end Anchors

/-! ## Keys -/

/-- The tag and text of a value that is a scalar. -/
def scalarOf? : Value → Option (Tag × Text)
  | .null => some (.null, "null")
  | .bool b => some (.bool, if b then "true" else "false")
  | .int i => some (.int, (toString i : String))
  | .float x => some (.float, floatText x)
  | .text t => some (.text, t)
  | .date d => some (.timestamp, d.render)
  | .moment m => some (.timestamp, m.render)
  | .shared _ v => scalarOf? v
  | .bytes _ | .list _ | .tuple _ | .set _ | .map _ | .loop .. | .again .. => none

/-- How many characters the short name of a tag has. -/
def tagLength (t : Tag) : Nat :=
  ((Tag.named.find? (·.2 == t)).map (·.1.length)).getD 0 + 2

/-- How many characters anchor, tag and text of a key on one line may have. -/
def shortKey : Nat := 127

/-- The label of a value. -/
def labelOf? : Value → Option Nat
  | .shared label _ | .loop label _ | .again label _ => some label
  | _ => none

/-- Where the lines of a collection or scalar below a level are indented. -/
def below : Option Nat → Nat → Nat
  | none, outermost => outermost
  | some level, _ => level + Page.step

namespace Page

/-- Writes a scalar value below a level. -/
def scalarValue (p : Page) (level : Option Nat) (key : Bool) (tag : Tag) (t : Text) : Page :=
  let style := if tag == .text then Style.ofText t (Tag.implicit t != .text) key else .plain
  p.scalar style t (below level step) key

/-- The name of the anchor of a value, if it needs one, and whether it has been written. -/
def anchor? (p : Page) (v : Value) : Option (String × Bool) := do
  let label ← labelOf? v
  let n ← p.anchors.lookup label
  return (Anchors.nameOf n, p.labels.contains label)

/-- Writes the anchor of a value, or the alias that stands for it from then on, and says whether
it was the alias. -/
def mark (p : Page) (v : Value) : Page × Bool :=
  match p.anchor? v with
  | none => (p, false)
  | some (name, true) => (p.indicator ('*' :: name.toList) false false, true)
  | some (name, false) =>
    let p := { p with labels := (labelOf? v).toList ++ p.labels }
    (p.indicator ('&' :: name.toList) false false, false)

/-- A key that can stand on one line in front of its colon. -/
def isShortKey (p : Page) (key : Value) : Bool :=
  match p.anchor? key, scalarOf? key with
  | some (_, true), _ => true
  | anchor, some (tag, text) =>
    let name := (anchor.map fun a => a.1.length).getD 0
    name + tagLength tag + text.length ≤ shortKey && !text.isEmpty &&
      !text.points.any (Point.passes Style.isFoldable)
  | _, none => false

/-- Writes a key on one line, with its colon. -/
def keyOnLine (p : Page) (level : Nat) (key : Value) : Page :=
  let p := match p.mark key, scalarOf? key with
    | (p, false), some (tag, text) => p.scalarValue (some level) true tag text
    | (p, _), _ => p
  p.attach [':']

/-- Writes bytes as a block of their letters. -/
def bytes (p : Page) (level : Option Nat) (b : List UInt8) : Page :=
  let p := p.indicator "!!binary".toList false false
  if b.isEmpty then p.double "" (below level step) true
  else
    let p := (p.indicator ['|'] false false).endLine '\n'
    (Text.base64Lines b).foldl (fun p line => ((p.indent (below level step)).put line).endLine '\n') p

mutual

/-- Writes a value below a level; `inMap` says that it is a value of a map. -/
def value (level : Option Nat) (inMap : Bool) (p : Page) : Value → Page
  | .list [] | .tuple [] => (p.indicator ['['] true false).attach [']']
  | .map [] => (p.indicator ['{'] true false).attach ['}']
  | .set [] => ((p.indicator "!!set".toList false false).indicator ['{'] true false).attach ['}']
  | .list items | .tuple items =>
    let level := if inMap && !p.indented then level.getD 0 else below level 0
    valueItems level p items
  | .map entries => valueEntries (below level 0) p entries
  | .set items => valueMembers (below level 0) (p.indicator "!!set".toList false false) items
  | .bytes b => p.bytes level b
  | .null => p.scalarValue level false .null "null"
  | .bool b => p.scalarValue level false .bool (if b then "true" else "false")
  | .int i => p.scalarValue level false .int (toString i : String)
  | .float x => p.scalarValue level false .float (floatText x)
  | .text t => p.scalarValue level false .text t
  | .date d => p.scalarValue level false .timestamp d.render
  | .moment m => p.scalarValue level false .timestamp m.render
  | .shared label v =>
    match p.mark (.shared label v) with
    | (p, true) => p
    | (p, false) => value level inMap p v
  | .loop label v =>
    match p.mark (.loop label v) with
    | (p, true) => p
    | (p, false) => value level inMap p v
  | .again label isMap => (p.mark (.again label isMap)).1

/-- Writes the items of a sequence, one a line behind a hyphen. -/
def valueItems (level : Nat) (p : Page) : List Value → Page
  | [] => p
  | v :: vs =>
    let p := (p.indent level).indicator ['-'] false true
    valueItems level (value (some level) false p v) vs

/-- Writes the entries of a map, one a line with a colon behind the key. -/
def valueEntries (level : Nat) (p : Page) : List (Value × Value) → Page
  | [] => p
  | (k, v) :: es =>
    let p := p.indent level
    let p :=
      if p.isShortKey k then p.keyOnLine level k
      else
        let p := value (some level) true (p.indicator ['?'] false true) k
        (p.indent level).indicator [':'] false true
    valueEntries level (value (some level) true p v) es

/-- Writes the members of a set as keys without values. -/
def valueMembers (level : Nat) (p : Page) : List Value → Page
  | [] => p
  | k :: ks =>
    let p := p.indent level
    let p :=
      if p.isShortKey k then p.keyOnLine level k
      else
        let p := value (some level) true (p.indicator ['?'] false true) k
        (p.indent level).indicator [':'] false true
    valueMembers level (p.scalarValue (some level) false .null "null") ks

end

end Page

/-- The value as a document. -/
def write (v : Value) : List Char :=
  ((Page.value none false (Page.start (Anchors.ofValue v)) v).indent 0).written.reverse

end Casebook.Yaml

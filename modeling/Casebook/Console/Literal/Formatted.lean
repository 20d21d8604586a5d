import Casebook.Console.Literal.Escape
import Casebook.Console.Literal.Word

/-!
# Formatted texts

In a formatted text expressions stand in braces. Behind an expression may follow an equals sign,
a conversion, and a colon with a format, in which further expressions stand in braces. Two equal
braces side by side are one brace of the text, but not in a format.
-/

namespace Casebook.Console.Literal

/-- Why a text in a tag is refused. -/
inductive Refusal
  | fault (fault : Fault)
  /-- Reading it takes more steps within steps than there may be. -/
  | exhausted
  /-- It has a number of too many digits in a part of a formatted text. -/
  | hugeNumberInPart
  /-- It has more levels than there may be. -/
  | tooDeep
  /-- A whole number in it that does not fit into a real one is part of a complex one. -/
  | overflow
deriving Repr, DecidableEq

/-- The text reported for a text that is refused. -/
def Refusal.message : Refusal → String
  | .fault f => f.message
  | .exhausted => ""
  | .hugeNumberInPart => "Negative size passed to PyUnicode_New"
  | .tooDeep => "maximum recursion depth exceeded during ast construction"
  | .overflow => "int too large to convert to float"

/-- The text in front of the next part, and what follows it. -/
structure Prelude where
  text : List Char
  /-- The text ends with a brace that stands for itself. -/
  isBrace : Bool
  rest : List Char
deriving Repr, DecidableEq

namespace Prelude

/-- Text in front of a prelude. -/
def after (cs : List Char) (p : Prelude) : Prelude := { p with text := cs ++ p.text }

end Prelude

/-- The name of an escaped character up to its closing brace, and what follows. -/
def escapedName (cs : List Char) : List Char × List Char :=
  match cs with
  | '\x7b' :: rest =>
    let name := rest.takeWhile (· ≠ '\x7d')
    ('\x7b' :: name ++ (rest.drop name.length).take 1, rest.drop (name.length + 1))
  | c :: rest => ([c], rest)
  | [] => ([], [])

theorem length_escapedName (cs : List Char) : (escapedName cs).2.length ≤ cs.length := by
  unfold escapedName
  split <;> simp
  omega

/-- The text up to the next brace that does not stand for itself. Braces of an escape belong to
it, unless the text is raw. -/
def prelude (raw isFormat : Bool) : List Char → Except Fault Prelude
  | [] => .ok ⟨[], false, []⟩
  | c :: cs =>
    let atBrace := fun (before : List Char) (c : Char) (cs : List Char) =>
      if isFormat then Except.ok ⟨before, false, c :: cs⟩
      else if cs.head? = some c then .ok ⟨before ++ [c], true, cs.tail⟩
      else if c = '\x7d' then .error .loneBrace
      else .ok ⟨before, false, c :: cs⟩
    if !raw && c = '\\' then
      match cs with
      | [] => .ok ⟨[c], false, []⟩
      | 'N' :: next =>
        (prelude raw isFormat (escapedName next).2).map
          (·.after (c :: 'N' :: (escapedName next).1))
      | d :: next =>
        if d = '\x7b' || d = '\x7d' then atBrace [c] d next
        else (prelude raw isFormat next).map (·.after [c, d])
    else if c = '\x7b' || c = '\x7d' then atBrace [] c cs
    else (prelude raw isFormat cs).map (·.after [c])
termination_by cs => cs.length
decreasing_by
  all_goals simp only [List.length_cons]
  · exact Nat.lt_of_le_of_lt (length_escapedName next) (by omega)
  all_goals omega

/-- The expression in braces up to the mark behind it, and what follows. `quote` is the quote
of a text that is open in it, and whether three of them close it. -/
def partCode (quote : Option (Char × Bool)) (opened : List Char) :
    List Char → Except Fault (List Char × List Char)
  | [] =>
    match quote, opened with
    | some _, _ => .error .partOpenText
    | none, c :: _ => .error (.partUnmatched c)
    | none, [] => .error .openPart
  | c :: cs =>
    let go := fun (n : Nat) quote opened =>
      (partCode quote opened (cs.drop n)).map fun (code, rest) => (c :: cs.take n ++ code, rest)
    let isTriple := [c, c].isPrefixOf cs
    if c = '\\' then .error .partBackslash
    else
      match quote with
      | some (q, long) =>
        if c ≠ q then go 0 quote opened
        else if !long then go 0 none opened
        else if isTriple then go 2 none opened
        else go 0 quote opened
      | none =>
        if c = '\'' || c = '"' then
          if isTriple then go 2 (some (c, true)) opened else go 0 (some (c, false)) opened
        else if c = '[' || c = '\x7b' || c = '(' then
          if depthLimit ≤ opened.length then .error .partBrackets else go 0 none (c :: opened)
        else if c = '#' then .error .partComment
        else if opened.isEmpty && "!:\x7d=><".toList.contains c then
          if "!=><".toList.contains c && cs.head? = some '=' then go 1 none opened
          else if c = '>' || c = '<' then go 0 none opened
          else .ok ([], c :: cs)
        else if c = ']' || c = '\x7d' || c = ')' then
          match opened with
          | [] => .error (.partUnmatched c)
          | o :: outer =>
            if closing o = c then go 0 none outer else .error (.partMismatched c o)
        else go 0 none opened
termination_by cs => cs.length
decreasing_by all_goals (simp only [List.length_cons, List.length_drop]; omega)

/-- A blank around an expression in braces. -/
def isPartBlank (c : Char) : Bool := c = ' ' || c = '\t' || c = '\n' || c = '\x0c'

/-- A blank behind an equals sign in braces. -/
def isGap (c : Char) : Bool := isPartBlank c || c = '\x0b' || c = '\r'

/-- How many lines a text goes down. -/
def linesIn (cs : List Char) : Nat := cs.count '\n'

/-- How the parts of a formatted text are read: `shown` is a fault in them as it is reported, and
`part` reads an expression that begins on a line and tells how many levels it has. -/
structure PartReader where
  shown : Fault → Fault
  part : (line : Nat) → List Char → Except Refusal Nat

/-- Reads a formatted text up to its end, or a format up to its closing brace. Tells how many
levels it has, what follows it, and the line. `fuel` bounds the number of parts. -/
def formatted (r : PartReader) (raw : Bool) (fuel level line : Nat) (cs : List Char) :
    Except Refusal (Nat × Nat × List Char) :=
  match fuel with
  | 0 => .error (.fault (r.shown .openPart))
  | fuel + 1 => do
    let orFault := fun {α : Type} (e : Except Fault α) => e.mapError (Refusal.fault ∘ r.shown)
    let fail := fun {α : Type} (f : Fault) => (throw (.fault (r.shown f)) : Except Refusal α)
    let p ← orFault (prelude raw (level ≠ 0) cs)
    if !raw then
      match escapeFlaw? 0 p.text with
      | some flaw => fail flaw
      | none => pure ()
    let own := if p.text.isEmpty then 0 else 1
    let line := line + linesIn p.text
    let goOn := fun (depth line : Nat) (rest : List Char) => do
      let (more, line, rest) ← formatted r raw fuel level line rest
      return (max depth more, line, rest)
    if p.isBrace then goOn own line p.rest
    else
      match p.rest with
      | '\x7b' :: inner =>
        if 2 ≤ level then fail .partTooDeep
        let (code, rest) ← orFault (partCode none [] inner)
        let mark := rest.headD '\x7d'
        if code.all isPartBlank then
          fail (if mark = '\x7d' then .partEmpty else .partMissing mark)
        let depth ← r.part line ('(' :: code ++ [')', '\n'])
        let line := line + linesIn code
        let gap := if mark = '=' then '=' :: rest.tail.takeWhile isGap else []
        let line := line + linesIn gap
        let rest := rest.drop gap.length
        if rest.isEmpty then fail .openPart
        let rest ←
          match rest with
          | '!' :: [] => fail .openPart
          | '!' :: c :: next =>
            if c ≠ 's' && c ≠ 'r' && c ≠ 'a' then fail .partConversion
            pure next
          | rest => pure rest
        let (format, line, rest) ←
          match rest with
          | ':' :: [] => fail .openPart
          | ':' :: next =>
            let (depth, line, rest) ← formatted r raw fuel (level + 1) line next
            pure (depth + 1, line, rest)
          | rest => pure (0, line, rest)
        match rest with
        | '\x7d' :: next => goOn (max own (max depth format + 1)) line next
        | _ => fail .openPart
      | rest => return (own, line, rest)

end Casebook.Console.Literal

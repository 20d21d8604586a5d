import Casebook.Console.Literal.Fault

/-!
# Numbers in expressions

A number is written to the base ten, sixteen, eight or two, with a fraction, an exponent or the
mark of an imaginary number behind decimal digits. Single underscores may stand between digits.
Behind a number nothing may follow that goes on like a name, but for some words.
-/

namespace Casebook.Console.Literal

open Text

/-- A number that stands in an expression. -/
inductive Numeral
  /-- A whole number, and how many digits are read if it is written to the base ten. -/
  | whole (value digits : Nat)
  | real
  | imaginary
deriving Repr, DecidableEq

/-- A character that a name begins with. -/
def isNameStart (c : Char) : Bool := c.isAlpha || c = '_' || 128 ≤ c.toNat

/-- A character of a name. -/
def isNameChar (c : Char) : Bool := isNameStart c || c.isDigit

/-- A word that may stand right behind a number begins here. -/
def followsNumber (rest : List Char) : Bool :=
  let isWord := fun (word : String) =>
    word.toList.isPrefixOf rest && !(rest.drop word.length).head?.any isNameChar
  ["and", "else", "for", "or", "not"].any isWord ||
    ["if", "in", "is"].any (·.toList.isPrefixOf rest)

/-- What follows a number must not go on like a name, unless it is a word that may stand
there. -/
def endNumber (kind : String) (rest : List Char) : Except Fault (List Char) :=
  if rest.head?.any isNameChar && !followsNumber rest then .error (.badNumber kind) else .ok rest

/-- What follows a run of digits, of which underscores may stand one by one in between. -/
def digitTail (digit : Char → Bool) (kind : String) :
    Char → List Char → Except Fault (List Char)
  | _, [] => .ok []
  | last, c :: cs =>
    if digit c then digitTail digit kind c cs
    else if c = '_' then
      if last ≠ '_' && cs.head?.any digit then digitTail digit kind c cs
      else .error (.badNumber kind)
    else .ok (c :: cs)

/-- The number that digits of a base write. Underscores count for nothing. -/
def digitsValue (base : Nat) (cs : List Char) : Nat :=
  cs.foldl (fun n c => ((hexValue? c).map (base * n + ·)).getD n) 0

/-- Reads a number to a base behind its mark. -/
def basedNumber (digit : Char → Bool) (base : Nat) (kind : String) (cs : List Char) :
    Except Fault (Numeral × List Char) := do
  let cs := if cs.head? = some '_' then cs.tail else cs
  let wrong := fun (cs : List Char) => cs.head?.filter Char.isDigit
  if !cs.head?.any digit then
    match wrong cs with
    | some c => throw (.badDigit c kind)
    | none => throw (.badNumber kind)
  let rest ← digitTail digit kind '0' cs
  match wrong rest with
  | some c => throw (.badDigit c kind)
  | none =>
    return (.whole (digitsValue base (cs.take (cs.length - rest.length))) 0, ← endNumber kind rest)

/-- Reads the end of a number behind its mark of an imaginary one. -/
def imaginaryEnd (cs : List Char) : Except Fault (Numeral × List Char) := do
  return (.imaginary, ← endNumber "imaginary" cs)

/-- Reads what may follow the digits of a number that is `plain` without it: an exponent and
the mark of an imaginary number. -/
def numberEnd (plain : Numeral) (cs : List Char) : Except Fault (Numeral × List Char) := do
  let done := fun n cs => do
    let rest ← endNumber "decimal" cs
    return (n, rest)
  match cs with
  | [] => return (plain, [])
  | c :: next =>
    if c = 'j' || c = 'J' then imaginaryEnd next
    else if c = 'e' || c = 'E' then
      let signed := next.head?.any fun c => c = '+' || c = '-'
      let digits := if signed then next.tail else next
      if digits.head?.any Char.isDigit then
        match ← digitTail Char.isDigit "decimal" '0' digits with
        | 'j' :: rest | 'J' :: rest => imaginaryEnd rest
        | rest => done .real rest
      else if signed then throw (.badNumber "decimal")
      else done plain cs
    else done plain cs

/-- Reads what follows a point in a number. -/
def fraction (cs : List Char) : Except Fault (Numeral × List Char) := do
  numberEnd .real
    (← if cs.head?.any Char.isDigit then digitTail Char.isDigit "decimal" '0' cs else pure cs)

/-- Reads a number that begins with a digit. -/
def number (cs : List Char) : Except Fault (Numeral × List Char) := do
  match cs with
  | '0' :: 'x' :: rest | '0' :: 'X' :: rest =>
    basedNumber (fun c => (hexValue? c).isSome) 16 "hexadecimal" rest
  | '0' :: 'o' :: rest | '0' :: 'O' :: rest =>
    basedNumber (fun c => '0' ≤ c && c ≤ '7') 8 "octal" rest
  | '0' :: 'b' :: rest | '0' :: 'B' :: rest =>
    basedNumber (fun c => c = '0' || c = '1') 2 "binary" rest
  | cs =>
    let rest ← digitTail Char.isDigit "decimal" '0' cs
    let digits := (cs.take (cs.length - rest.length)).filter (· ≠ '_')
    let isZero := cs.head? = some '0'
    match rest with
    | '.' :: rest => fraction rest
    | rest =>
      let goesOn := rest.head?.any fun c => "eEjJ".toList.contains c
      if !goesOn && isZero && digits.any (· ≠ '0') then throw .leadingZeros
      let count := if isZero then 0 else digits.length
      numberEnd (.whole (if count ≤ digitLimit then digitsValue 10 digits else 0) count) rest

end Casebook.Console.Literal

import Casebook.Console.Literal.Fault
import Casebook.Text.Name

/-!
# Escapes in texts of expressions

A backslash in a text begins an escape, which may write a character by its code or its name. The
first escape that writes none is a flaw of the text. Positions count a character outside of ASCII
as the ten places of its longest escape.
-/

namespace Casebook.Console.Literal

open Text

/-- The places that a character takes when positions in a text are counted. -/
def places (c : Char) : Nat := if c.toNat < 128 then 1 else 10

/-- The largest code point. -/
def lastCode : Nat := 0x10FFFF

/-- The flaw of an escape by name, which begins at a position and has text behind its letter. -/
def nameFlaw? (position : Nat) (cs : List Char) : Option Fault :=
  let malformed := fun last => some (Fault.badEscape position last "malformed \\N character escape")
  match cs with
  | '\x7b' :: rest =>
    let name := rest.takeWhile (· ≠ '\x7d')
    let length := (name.map places).foldl (· + ·) 0
    if rest.length = name.length || name.isEmpty then malformed (position + 2 + length)
    else if isCharacterName name then none
    else some (.badEscape position (position + 3 + length) "unknown Unicode character name")
  | _ => malformed (position + 1)

/-- The first escape in a text that is no character. -/
def escapeFlaw? (position : Nat) : List Char → Option Fault
  | [] => none
  | '\\' :: c :: cs =>
    let digits := (cs.takeWhile fun c => (hexValue? c).isSome)
    let coded := fun (n : Nat) (form : String) =>
      if digits.length < n then
        some (Fault.badEscape position (position + 1 + digits.length)
          ("truncated \\" ++ form ++ " escape"))
      else if (readHex? (digits.take n)).any (lastCode < ·) then
        some (.badEscape position (position + 1 + n) "illegal Unicode character")
      else none
    let flaw := match c with
      | 'x' => coded 2 "xXX"
      | 'u' => coded 4 "uXXXX"
      | 'U' => coded 8 "UXXXXXXXX"
      | 'N' => nameFlaw? position cs
      | _ => none
    match flaw with
    | some flaw => some flaw
    | none => escapeFlaw? (position + (if c.toNat < 128 then 2 else 16)) cs
  | c :: cs => escapeFlaw? (position + places c) cs

/-- The first escape in a text of bytes that is no byte. -/
def byteFlaw? (position : Nat) : List Char → Option Fault
  | [] => none
  | '\\' :: c :: cs =>
    if c = 'x' && ((cs.take 2).takeWhile fun c => (hexValue? c).isSome).length < 2 then
      some (.badByteEscape position)
    else byteFlaw? (position + 2) cs
  | _ :: cs => byteFlaw? (position + 1) cs

end Casebook.Console.Literal

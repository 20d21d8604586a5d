import Casebook.Text.Hex
import Casebook.Text.Printable
import Casebook.Text.Point

/-!
# Quoted texts

How a text is shown inside a message. It stands between single quotes, or between
double quotes if it holds a single quote and no double one. The quote and the backslash
are escaped by a backslash, tab, line feed and carriage return by a letter, and every
other unprintable character by its code point in hexadecimal.
-/

namespace Casebook.Text

/-- The quote that stands on both sides. -/
def quoteMark (t : Text) : Char :=
  if t.points.contains '\'' && !t.points.contains '"' then '"' else '\''

/-- A code in as many digits as its size needs. -/
def escapeCode (n : Nat) : List Char :=
  if n < 0x100 then '\\' :: 'x' :: hex 2 n
  else if n < 0x10000 then '\\' :: 'u' :: hex 4 n
  else '\\' :: 'U' :: hex 8 n

/-- One character as it is shown between quotes. -/
def escapeQuoted (quote c : Char) : List Char :=
  if c = quote || c = '\\' then ['\\', c]
  else if c = '\t' then ['\\', 't']
  else if c = '\n' then ['\\', 'n']
  else if c = '\r' then ['\\', 'r']
  else if isPrintable c then [c]
  else escapeCode c.toNat

/-- One point as it is shown between quotes. -/
def escapePoint (quote : Char) : Point → List Char
  | .char c => escapeQuoted quote c
  | .half h => escapeCode h.code

/-- The text in quotes, as characters. -/
def quotedChars (t : Text) : List Char :=
  let quote := quoteMark t
  quote :: t.points.flatMap (escapePoint quote) ++ [quote]

/-- The text in quotes. -/
def quoted (t : Text) : String := String.ofList (quotedChars t)

/-- One byte as it is shown between quotes: printable ASCII as itself. -/
def escapeByte (quote : Char) (b : UInt8) : List Char :=
  let c := Char.ofNat b.toNat
  if b < 0x7F then escapeQuoted quote c else '\\' :: 'x' :: hex 2 b.toNat

/-- Bytes in quotes, marked by a `b` in front. -/
def quotedBytes (bytes : List UInt8) : String :=
  let quote := quoteMark (ofChars (bytes.map fun b => Char.ofNat b.toNat))
  String.ofList ('b' :: quote :: bytes.flatMap (escapeByte quote) ++ [quote])

end Casebook.Text

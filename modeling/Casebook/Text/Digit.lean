/-!
# Decimal digits

The decimal digits of every script, their values, and the number that a run of
digits writes. A run longer than `numeralLimit` is refused, leading zeros counted.
-/

namespace Casebook.Text

/-- The code points of the digit zero of each script; the other nine digits follow it. -/
def digitZeros : List Nat :=
  [
    0x30, 0x660, 0x6F0, 0x7C0, 0x966, 0x9E6, 0xA66, 0xAE6, 0xB66, 0xBE6,
    0xC66, 0xCE6, 0xD66, 0xDE6, 0xE50, 0xED0, 0xF20, 0x1040, 0x1090, 0x17E0,
    0x1810, 0x1946, 0x19D0, 0x1A80, 0x1A90, 0x1B50, 0x1BB0, 0x1C40, 0x1C50, 0xA620,
    0xA8D0, 0xA900, 0xA9D0, 0xA9F0, 0xAA50, 0xABF0, 0xFF10, 0x104A0, 0x10D30, 0x11066,
    0x110F0, 0x11136, 0x111D0, 0x112F0, 0x11450, 0x114D0, 0x11650, 0x116C0, 0x11730, 0x118E0,
    0x11950, 0x11C50, 0x11D50, 0x11DA0, 0x16A60, 0x16AC0, 0x16B50, 0x1D7CE, 0x1D7D8, 0x1D7E2,
    0x1D7EC, 0x1D7F6, 0x1E140, 0x1E2F0, 0x1E950, 0x1FBF0]

/-- The value of a decimal digit of any script. -/
def digitValue? (c : Char) : Option Nat :=
  (digitZeros.find? fun z => z ≤ c.toNat && c.toNat < z + 10).map (c.toNat - ·)

/-- A decimal digit of any script. -/
def isDigit (c : Char) : Bool := (digitValue? c).isSome

/-- The value of a decimal digit, and zero for any other character. -/
def digitValue (c : Char) : Nat := (digitValue? c).getD 0

/-- The number written by a run of digits, most significant first. -/
def digitsValue (cs : List Char) : Nat :=
  cs.foldl (fun n c => 10 * n + digitValue c) 0

/-- How many digits a numeral may have. -/
def numeralLimit : Nat := 4300

/-- The least number of more digits than a numeral may have. -/
def numeralBound : Nat := Nat.pow 10 numeralLimit

/-- An integer that cannot be written as a numeral. -/
structure HugeInteger where
  value : Int
deriving Repr, DecidableEq

/-- The integer has more digits than a numeral may have. -/
def isHuge (i : Int) : Bool := numeralBound ≤ i.natAbs

/-- The text reported for an integer that is too long to be written. -/
def HugeInteger.message (_ : HugeInteger) : String :=
  s!"Exceeds the limit ({numeralLimit} digits) for integer string conversion; use " ++
    "sys.set_int_max_str_digits() to increase the limit"

/-- A numeral was refused for its length. -/
structure LongNumeral where
  digits : Nat
deriving Repr, DecidableEq

/-- The text reported for a numeral that is too long. -/
def LongNumeral.message (e : LongNumeral) : String :=
  s!"Exceeds the limit ({numeralLimit} digits) for integer string conversion: value has " ++
    s!"{e.digits} digits; use sys.set_int_max_str_digits() to increase the limit"

/-- The number written by a run of digits, if the run is short enough. -/
def readNumeral (cs : List Char) : Except LongNumeral Nat :=
  if cs.length ≤ numeralLimit then .ok (digitsValue cs) else .error ⟨cs.length⟩

end Casebook.Text

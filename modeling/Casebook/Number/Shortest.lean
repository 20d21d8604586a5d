import Casebook.Number.Binary64

/-!
# The shortest decimal of a binary number

The digits that a floating point number is written with: the fewest that read back as
the same number, and of those the nearest to it. `Layout` says how the digits and their
exponent become a text.
-/

namespace Casebook.Number

/-- `digits * 10 ^ exponent`. -/
structure Decimal where
  digits : Nat
  exponent : Int
deriving Repr, DecidableEq

namespace Binary64

/-- The largest power of ten, as its exponent, that is at most `num / den`. -/
def decimalExponent (num den : Nat) : Int :=
  if den ≤ num then (decimalLength (num / den) : Int) - 1
  else -(decimalLength ((den - 1) / num) : Int)

/-- The decimals that read back as a positive number: `centre`, `low` and `high` over
`den`, the ends included if `ends` is true. -/
structure Interval where
  low : Nat
  centre : Nat
  high : Nat
  den : Nat
  ends : Bool

/-- The numbers that are rounded to `mantissa * 2 ^ exponent`. -/
def interval (mantissa : Nat) (exponent : Int) : Interval :=
  let below := if mantissa = twoTo 52 && exponent > minExponent then 1 else 2
  let up := if exponent ≥ 2 then twoTo (exponent - 2).toNat else 1
  let den := if exponent ≥ 2 then 1 else twoTo (2 - exponent).toNat
  ⟨(4 * mantissa - below) * up, 4 * mantissa * up, (4 * mantissa + 2) * up, den,
    mantissa % 2 == 0⟩

/-- Whether `digits * 10 ^ exponent` lies in the interval. -/
def Interval.holds (i : Interval) (d : Decimal) : Bool :=
  let num := if 0 ≤ d.exponent then d.digits * tenTo d.exponent.toNat * i.den else d.digits * i.den
  let scale := if 0 ≤ d.exponent then 1 else tenTo (-d.exponent).toNat
  if i.ends then i.low * scale ≤ num && num ≤ i.high * scale
  else i.low * scale < num && num < i.high * scale

/-- The two neighbours of the centre on the grid of multiples of a power of ten, and
whether the upper one is nearer, a tie going to even digits. -/
def Interval.neighbours (i : Interval) (exponent : Int) : Decimal × Decimal × Bool :=
  let num := if 0 ≤ exponent then i.centre else i.centre * tenTo (-exponent).toNat
  let den := if 0 ≤ exponent then i.den * tenTo exponent.toNat else i.den
  let q := num / den
  let r := num % den
  (⟨q, exponent⟩, ⟨q + 1, exponent⟩, 2 * r > den || (2 * r == den && q % 2 == 1))

/-- The decimal in the interval that lies on the grid and is nearest to the centre. -/
def Interval.onGrid (i : Interval) (exponent : Int) : Option Decimal :=
  let (low, high, up) := i.neighbours exponent
  match i.holds low, i.holds high with
  | true, true => some (if up then high else low)
  | true, false => some low
  | false, true => some high
  | false, false => none

/-- A decimal without zeros at its end; `fuel` bounds how many are taken off. -/
def Decimal.trimmed : (fuel : Nat) → Decimal → Decimal
  | 0, d => d
  | fuel + 1, d =>
    if d.digits ≠ 0 && d.digits % 10 = 0 then trimmed fuel ⟨d.digits / 10, d.exponent + 1⟩ else d

/-- The shortest decimal that reads back as a positive number. -/
def shortest (mantissa : Nat) (exponent : Int) : Decimal :=
  let i := interval mantissa exponent
  let top := decimalExponent i.centre i.den
  let grids := (List.range 17).map fun (n : Nat) => top - n
  Decimal.trimmed 20 ((grids.findSome? i.onGrid).getD (i.neighbours (top - 16)).1)

end Binary64

/-- How the digits of a number become a text. -/
structure Layout where
  /-- The point may stand this many digits before the first digit, but no further. -/
  leastPoint : Int
  /-- The point may stand this many digits after the first digit's left, but no further. -/
  mostPoint : Int
  /-- The sign of a positive exponent is written. -/
  plus : Bool
  /-- An exponent has at least this many digits. -/
  exponentDigits : Nat
  infinity : String
  notANumber : String

namespace Layout

/-- As messages show numbers: positional from four zeros after the point up to sixteen
digits before it, and else an exponent with its sign and two digits. -/
def message : Layout := ⟨-3, 16, true, 2, "inf", "nan"⟩

/-- As a document dump shows numbers: positional from five zeros after the point up to
sixteen digits before it, and else an exponent with its sign; what is no number is null. -/
def dump : Layout := ⟨-4, 16, true, 1, "null", "null"⟩

def zeros (n : Nat) : String := String.ofList (List.replicate n '0')

/-- The digits with a point, of which `point` digits stand before it. -/
def positional (digits : String) (point : Int) : String :=
  let n := digits.length
  if point ≤ 0 then "0." ++ zeros (-point).toNat ++ digits
  else if n ≤ point.toNat then digits ++ zeros (point.toNat - n) ++ ".0"
  else String.ofList (digits.toList.take point.toNat) ++ "." ++
    String.ofList (digits.toList.drop point.toNat)

/-- The digits with the point after the first, and the exponent of ten. -/
def scientific (l : Layout) (digits : String) (exponent : Int) : String :=
  let body := match digits.toList with
    | [d] => String.ofList [d]
    | d :: ds => String.ofList (d :: '.' :: ds)
    | [] => ""
  let e := toString exponent.natAbs
  let sign := if exponent < 0 then "-" else if l.plus then "+" else ""
  body ++ "e" ++ sign ++ zeros (l.exponentDigits - e.length) ++ e

/-- The text of a number. -/
def render (l : Layout) : Binary64 → String
  | .nan => l.notANumber
  | .infinite s =>
    if s && l.infinity != "null" then "-" ++ l.infinity else l.infinity
  | .finite s m e =>
    let sign := if s then "-" else ""
    if m = 0 then sign ++ "0.0"
    else
      let d := Binary64.shortest m e
      let digits := toString d.digits
      let point := (digits.length : Int) + d.exponent
      sign ++ (if l.leastPoint ≤ point && point ≤ l.mostPoint then positional digits point
        else l.scientific digits (point - 1))

end Layout

end Casebook.Number

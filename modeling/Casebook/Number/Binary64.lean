/-!
# Binary floating point numbers

Numbers of the 64-bit binary format, kept as a mantissa and an exponent, so that every
rule about them is a rule about integers. `ofRatio` rounds a quotient to the nearest
number of the format, a half going to the even mantissa; reading decimals and the
arithmetic of mixed-radix numbers go through it.
-/

namespace Casebook.Number

/-- A power of two. -/
def twoTo (k : Nat) : Nat := Nat.pow 2 k

/-- A power of ten. -/
def tenTo (k : Nat) : Nat := Nat.pow 10 k

/-- A number of the 64-bit binary format. A finite one is `mantissa * 2 ^ exponent`, where
the exponent is the smallest of the format or the mantissa has 53 binary digits. -/
inductive Binary64
  | finite (negative : Bool) (mantissa : Nat) (exponent : Int)
  | infinite (negative : Bool)
  | nan
deriving Repr, DecidableEq

namespace Binary64

/-- The smallest exponent of the format. -/
def minExponent : Int := -1074

/-- The largest exponent of the format. -/
def maxExponent : Int := 971

/-- Zero with a sign. -/
def zero (negative : Bool) : Binary64 := .finite negative 0 minExponent

/-- `num * 2 ^ shift`, split into a numerator and a denominator. -/
def scale (num : Nat) (den : Nat) (shift : Int) : Nat × Nat :=
  if 0 ≤ shift then (num * twoTo shift.toNat, den) else (num, den * twoTo (-shift).toNat)

/-- The quotient rounded to the nearest integer, a half going to the even one. -/
def roundDiv (num den : Nat) : Nat :=
  let q := num / den
  let r := num % den
  if 2 * r > den || (2 * r == den && q % 2 == 1) then q + 1 else q

/-- The exponent that gives a positive quotient a mantissa of 53 binary digits, or the
smallest exponent of the format. -/
def exponentOf (num den : Nat) : Int :=
  let guess : Int := (num.log2 : Int) - den.log2 - 52
  let (n, d) := scale num den (-guess)
  let exact := if n / d < twoTo 52 then guess - 1 else guess
  max exact minExponent

/-- The number nearest to `num / den`. -/
def ofRatio (negative : Bool) (num den : Nat) : Binary64 :=
  if num = 0 then zero negative
  else
    let e := exponentOf num den
    let (n, d) := scale num den (-e)
    let m := roundDiv n d
    let (m, e) := if m = twoTo 53 then (twoTo 52, e + 1) else (m, e)
    if e > maxExponent then .infinite negative else .finite negative m e

/-- The number of decimal digits of a number; zero has none. -/
def decimalLength (n : Nat) : Nat := if n = 0 then 0 else (Nat.toDigits 10 n).length

/-- The number nearest to `digits * 10 ^ exponent`. -/
def ofDecimal (negative : Bool) (digits : Nat) (exponent : Int) : Binary64 :=
  let size := (decimalLength digits : Int) + exponent
  if digits = 0 || size < -330 then zero negative
  else if size > 310 then .infinite negative
  else if 0 ≤ exponent then ofRatio negative (digits * tenTo exponent.toNat) 1
  else ofRatio negative digits (tenTo (-exponent).toNat)

/-- The number nearest to an integer. -/
def ofInt (i : Int) : Binary64 := ofRatio (i < 0) i.natAbs 1

/-- The integer that the number is, if it is one. -/
def toInt? : Binary64 → Option Int
  | .finite negative m e =>
    let (n, d) := scale m 1 e
    if n % d = 0 then some (if negative then -((n / d : Nat) : Int) else ((n / d : Nat) : Int))
    else none
  | _ => none

def neg : Binary64 → Binary64
  | .finite s m e => .finite (!s) m e
  | .infinite s => .infinite (!s)
  | .nan => .nan

/-- The sum of two finite numbers as a signed numerator over a power of two. -/
def addFinite (s₁ : Bool) (m₁ : Nat) (e₁ : Int) (s₂ : Bool) (m₂ : Nat) (e₂ : Int) :
    Binary64 :=
  let e := min e₁ e₂
  let signed := fun (s : Bool) (m : Nat) (x : Int) =>
    let v : Int := (m * twoTo (x - e).toNat : Nat)
    if s then -v else v
  let total := signed s₁ m₁ e₁ + signed s₂ m₂ e₂
  if total = 0 then zero (s₁ && s₂)
  else
    let (n, d) := scale total.natAbs 1 e
    ofRatio (total < 0) n d

/-- The sum, rounded once. -/
def add : Binary64 → Binary64 → Binary64
  | .finite s₁ m₁ e₁, .finite s₂ m₂ e₂ => addFinite s₁ m₁ e₁ s₂ m₂ e₂
  | .nan, _ | _, .nan => .nan
  | .infinite s₁, .infinite s₂ => if s₁ = s₂ then .infinite s₁ else .nan
  | .infinite s, _ | _, .infinite s => .infinite s

/-- The product, rounded once. -/
def mul : Binary64 → Binary64 → Binary64
  | .finite s₁ m₁ e₁, .finite s₂ m₂ e₂ =>
    let (n, d) := scale (m₁ * m₂) 1 (e₁ + e₂)
    ofRatio (s₁ != s₂) n d
  | .nan, _ | _, .nan => .nan
  | .infinite s₁, .infinite s₂ => .infinite (s₁ != s₂)
  | .infinite s₁, .finite s₂ m _ | .finite s₂ m _, .infinite s₁ =>
    if m = 0 then .nan else .infinite (s₁ != s₂)

end Binary64

end Casebook.Number

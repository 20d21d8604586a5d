import Casebook.Text.Base64
import Casebook.Text.Blank
import Casebook.Text.Hex
import Casebook.Text.Lines
import Casebook.Text.Lower
import Casebook.Value.Basic
import Casebook.Yaml.Fault
import Casebook.Yaml.Tag

/-!
# Contents of YAML scalars

The value that the text of a scalar stands for under each tag.
-/

namespace Casebook.Yaml.Content

open Number

/-! ## Integers -/

/-- The value of a digit to a base of at most sixteen. -/
def digit? (base : Nat) (p : Point) : Option Nat :=
  p.char?.bind fun c => ((Text.digitValue? c).or (Text.hexValue? c)).filter (· < base)

/-- The letter that marks a base behind a zero. -/
def baseMark? (base : Nat) : Option Char :=
  [(2, 'b'), (8, 'o'), (16, 'x')].lookup base

/-- What follows the mark of a base, or the text itself if it has none. -/
def afterBaseMark (base : Nat) (ps : List Point) : List Point :=
  match ps with
  | .char zero :: .char mark :: rest =>
    if Text.digitValue? zero = some 0 && baseMark? base = some mark.toLower then rest else ps
  | ps => ps

/-- The number that digits to a base write, perhaps with the mark of the base in front, a sign
before that, and blanks around all. -/
def integer (base : Nat) (given : List Point) : Except Fault Int :=
  let body := (Text.mk given).trimmed Text.isNumeralBlank
  let (negative, marked) := match body.points with
    | .char '-' :: ds => (true, ds)
    | .char '+' :: ds => (false, ds)
    | ds => (false, ds)
  let digits := afterBaseMark base marked
  let values := (digits.map (digit? base)).takeWhile Option.isSome
  if base == 10 && values.length > Text.numeralLimit then .error (.longInteger values.length)
  else if values.isEmpty || values.length < digits.length then
    .error (.badInteger base ⟨given⟩)
  else
    let n : Nat := (values.filterMap id).foldl (fun n v => base * n + v) 0
    .ok (if negative then -(n : Int) else n)

/-- Takes one sign off the front of a number, which may not be empty. -/
def takeSign (t : Text) : Except Fault (Bool × List Point) :=
  match t.points with
  | [] => .error .emptyNumber
  | .char '-' :: rest => .ok (true, rest)
  | .char '+' :: rest => .ok (false, rest)
  | ps => .ok (false, ps)

/-- A number without the bars between its digits. -/
def withoutBars (t : Text) : Text := ⟨t.points.filter (· ≠ '_')⟩

/-- The value of parts to the base sixty, the last part first. -/
def ofSixties : List Int → Int
  | [] => 0
  | part :: parts => part + 60 * ofSixties parts

/-- The integer that a text stands for: binary, octal, hexadecimal, of parts to the base
sixty, or decimal. Bars between digits are left out. -/
def int (t : Text) : Except Fault Int := do
  let (negative, ps) ← takeSign (withoutBars t)
  let n ← match ps with
    | [] => throw .emptyNumber
    | .char '0' :: .char 'b' :: rest => integer 2 rest
    | .char '0' :: .char 'x' :: rest => integer 16 rest
    | [.char '0'] => pure 0
    | .char '0' :: _ => integer 8 ps
    | _ =>
      if ps.contains ':' then do
        let parts ← (Text.splitAt (Point.char ':') ps).mapM (integer 10)
        pure (ofSixties parts.reverse)
      else integer 10 ps
  return if negative then -n else n

/-! ## Floating point numbers -/

/-- Digits around an optional point: the number they write without the point, and how many
stand behind it. -/
def mantissa? (cs : List Char) : Option (Nat × Nat × List Char) :=
  let whole := cs.takeWhile Text.isDigit
  match cs.dropWhile Text.isDigit with
  | '.' :: rest =>
    let decimals := rest.takeWhile Text.isDigit
    if whole.isEmpty && decimals.isEmpty then none
    else some (Text.digitsValue (whole ++ decimals), decimals.length, rest.dropWhile Text.isDigit)
  | rest => if whole.isEmpty then none else some (Text.digitsValue whole, 0, rest)

/-- The exponent at the end of a number. -/
def exponent? : List Char → Option Int
  | [] => some 0
  | e :: rest =>
    if e == 'e' || e == 'E' then
      let (negative, digits) := match rest with
        | '-' :: ds => (true, ds)
        | '+' :: ds => (false, ds)
        | ds => (false, ds)
      if digits.isEmpty || !digits.all Text.isDigit then none
      else
        let n : Int := Text.digitsValue digits
        some (if negative then -n else n)
    else none

/-- The number that characters write, a sign in front. -/
def number? (cs : List Char) : Option Binary64 :=
  let (negative, cs) := match cs with
    | '-' :: cs => (true, cs)
    | '+' :: cs => (false, cs)
    | cs => (false, cs)
  if ["inf", "infinity"].any (·.toList == cs) then some (.infinite negative)
  else if cs == "nan".toList then some .nan
  else do
    let (digits, decimals, rest) ← mantissa? cs
    return Binary64.ofDecimal negative digits ((← exponent? rest) - decimals)

/-- The number that a decimal writes, blanks around it and a sign in front. -/
def decimal (given : List Point) : Except Fault Binary64 :=
  match ((Text.mk given).trimmed Text.isNumeralBlank).chars?.bind number? with
  | some x => .ok x
  | none => .error (.badFloat ⟨given⟩)

/-- The value of parts to the base sixty, the last part first, added up in that order. -/
def sumSixties (sum : Binary64) (base : Int) : List Binary64 → Except Fault Binary64
  | [] => .ok sum
  | part :: parts =>
    match Binary64.ofInt base with
    | .infinite _ => .error .hugeFactor
    | factor => sumSixties (sum.add (part.mul factor)) (base * 60) parts

/-- A text is one of some words. -/
def isWord (words : List String) (ps : List Point) : Bool :=
  words.any fun w => Text.mk ps == w

/-- The text is written as no number at all, in any case of its letters and with any sign. -/
def isNoNumber (t : Text) : Bool :=
  match takeSign (withoutBars t).lower with
  | .ok (_, ps) => isWord [".nan"] ps
  | .error _ => false

/-- The floating point number that a text stands for. -/
def float (t : Text) : Except Fault Binary64 := do
  let (negative, ps) ← takeSign (withoutBars t).lower
  let x ←
    if isWord [".inf"] ps then pure (.infinite false)
    else if isWord [".nan"] ps then pure .nan
    else if ps.contains ':' then do
      let parts ← (Text.splitAt (Point.char ':') ps).mapM decimal
      sumSixties (.zero false) 1 parts.reverse
    else decimal ps
  return if negative then x.neg else x

/-! ## Other scalars -/

/-- The truth value that a word stands for, in any case of its letters. -/
def bool (t : Text) : Except Fault Bool :=
  match Tag.truths.find? fun w => t.lower == w.1 with
  | some w => .ok w.2
  | none => .error (.badTruth t.lower)

/-- Six digits of a fraction of a second. -/
def microseconds (fraction : List Char) : Nat :=
  let six := fraction.take 6
  Text.digitsValue (six ++ List.replicate (6 - six.length) '0')

/-- The date or moment that a text stands for. -/
def timestamp (t : Text) : Except Fault Value :=
  match t.chars?.bind fun cs => Tag.fields? (Tag.withoutLineEnd cs) with
  | none => .error .badMoment
  | some f =>
    let n := Text.digitsValue
    let made : Except Calendar.Fault Value := match f.clock with
      | none => do return .date (← Date.ofFields (n f.year) (n f.month) (n f.day))
      | some (hour, minute, second) => do
        let offset := match f.offset with
          | some (west, hours, minutes) =>
            let span : Int := n hours * 60 + n minutes
            some (if west then -span else span)
          | none => if f.universal then some 0 else none
        return .moment (← Moment.ofFields (n f.year) (n f.month) (n f.day) (n hour) (n minute)
          (n second) (microseconds f.fraction) offset)
    made.mapError .calendar

/-- The bytes that a text of ASCII characters stands for. -/
def binary (t : Text) : Except Fault (List UInt8) :=
  match (t.chars?.filter (·.all (·.toNat < 128))).bind Text.readBase64? with
  | some bytes => .ok bytes
  | none => .error .malformed

/-- The value of a scalar. A tag of a collection, a key of its own, or no known tag is
refused. -/
def value (tag : Tag) (text : Text) : Except Fault Value :=
  match tag with
  | .null => .ok .null
  | .text => .ok (.text text)
  | .bool => (bool text).map .bool
  | .int => (int text).map .int
  | .float => (float text).map .float
  | .timestamp => timestamp text
  | .binary => (binary text).map .bytes
  | .sequence | .map | .set | .orderedMap | .pairs | .merge | .value | .unknown =>
    .error .malformed

end Casebook.Yaml.Content

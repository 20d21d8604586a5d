import Casebook.Text.Digit
import Casebook.Text.Hex
import Casebook.Value.Basic

/-!
# Reading JSON

A JSON text is read into a document value. The grammar is the strict one, with three
additions: `NaN`, `Infinity` and `-Infinity` are numbers. A number with a point or an
exponent is a floating point number and any other is an integer. A fault says what was
expected and where, counted in characters and in lines and columns.
-/

namespace Casebook.Json

open Number

/-- What is wrong with a text that is no JSON. -/
inductive Flaw
  | byteOrderMark
  | value
  | propertyName
  | colon
  | comma
  | unterminated
  | control
  | escape
  | unicodeEscape
  | extra
  | longNumeral (digits : Nat)
  /-- Too many lists or maps are inside of each other; the last one is a map. -/
  | tooDeep (isMap : Bool)
deriving Repr, DecidableEq

/-- A flaw and the text that begins where it is. -/
structure Stop where
  flaw : Flaw
  rest : List Char
deriving Repr

/-- A blank between the parts of a value. -/
def isSpace (c : Char) : Bool := c == ' ' || c == '\t' || c == '\n' || c == '\r'

/-- The text from its first character that is not blank. -/
def skip (cs : List Char) : List Char := cs.dropWhile isSpace

/-! ## Strings -/

/-- The four hexadecimal digits after a backslash and `u`. A string cannot end with them. -/
def fourDigits : List Char → Option (Nat × List Char)
  | a :: b :: c :: d :: e :: rest => (Text.readHex? [a, b, c, d]).map (·, e :: rest)
  | _ => none

/-- The character of a pair, if its second half follows, or else the first half alone. -/
def pairWith (high : Half) (rest : List Char) : Except Stop (Point × List Char) :=
  let alone := (Point.half high, rest)
  match rest with
  | '\\' :: 'u' :: digits =>
    if digits.length < 5 then .ok alone
    else
      match fourDigits digits with
      | none => .error ⟨.unicodeEscape, 'u' :: digits⟩
      | some (low, after) =>
        match Point.ofCode low with
        | .half low => if low.isHigh then .ok alone else .ok (.char (high.joined low), after)
        | .char _ => .ok alone
  | _ => .ok alone

/-- What the letter after a backslash stands for. -/
def letterEscape? : Char → Option Char
  | '"' => some '"'
  | '\\' => some '\\'
  | '/' => some '/'
  | 'b' => some '\x08'
  | 'f' => some '\x0c'
  | 'n' => some '\n'
  | 'r' => some '\r'
  | 't' => some '\t'
  | _ => none

/-- Reads the escape after a backslash. -/
def readEscape (letter : Char) (rest : List Char) : Except Stop (Point × List Char) :=
  if letter = 'u' then
    match fourDigits rest with
    | none => .error ⟨.unicodeEscape, letter :: rest⟩
    | some (n, after) =>
      match Point.ofCode n with
      | .half h => if h.isHigh then pairWith h after else .ok (.half h, after)
      | p => .ok (p, after)
  else
    match letterEscape? letter with
    | some c => .ok (.char c, rest)
    | none => .error ⟨.escape, '\\' :: letter :: rest⟩

theorem fourDigits_length {cs rest : List Char} {n : Nat}
    (h : fourDigits cs = some (n, rest)) : rest.length < cs.length := by
  unfold fourDigits at h
  split at h
  · simp only [Option.map_eq_some_iff, Prod.mk.injEq] at h
    obtain ⟨_, _, _, rfl⟩ := h
    simp only [List.length_cons]; omega
  · simp at h

theorem pairWith_length {high : Half} {cs rest : List Char} {p : Point}
    (h : pairWith high cs = .ok (p, rest)) : rest.length ≤ cs.length := by
  unfold pairWith at h
  split at h
  · split at h
    · simp only [Except.ok.injEq, Prod.mk.injEq] at h; exact Nat.le_of_eq (congrArg _ h.2.symm)
    · split at h
      · simp at h
      · next hd =>
        have := fourDigits_length hd
        split at h
        · split at h <;> simp only [Except.ok.injEq, Prod.mk.injEq] at h <;>
            (have e := congrArg List.length h.2; simp only [List.length_cons] at e ⊢; omega)
        · simp only [Except.ok.injEq, Prod.mk.injEq] at h
          exact Nat.le_of_eq (congrArg _ h.2.symm)
  · simp only [Except.ok.injEq, Prod.mk.injEq] at h; exact Nat.le_of_eq (congrArg _ h.2.symm)

/-- An escape leaves no more than stood after its letter. -/
theorem readEscape_length {letter : Char} {cs rest : List Char} {p : Point}
    (h : readEscape letter cs = .ok (p, rest)) : rest.length ≤ cs.length := by
  unfold readEscape at h
  split at h
  · split at h
    · simp at h
    · next hd =>
      have := fourDigits_length hd
      split at h
      · split at h
        · have := pairWith_length h; omega
        · simp only [Except.ok.injEq, Prod.mk.injEq] at h; have := congrArg List.length h.2; omega
      · simp only [Except.ok.injEq, Prod.mk.injEq] at h; have := congrArg List.length h.2; omega
  · split at h
    · simp only [Except.ok.injEq, Prod.mk.injEq] at h; exact Nat.le_of_eq (congrArg _ h.2.symm)
    · simp at h

/-- Reads a string up to its closing quote; `opening` is the text from its opening quote. -/
def readString (opening : List Char) (cs : List Char) : Except Stop (List Point × List Char) :=
  match cs with
  | [] => .error ⟨.unterminated, opening⟩
  | '"' :: rest => .ok ([], rest)
  | ['\\'] => .error ⟨.unterminated, opening⟩
  | '\\' :: letter :: rest =>
    match _h : readEscape letter rest with
    | .error stop => .error stop
    | .ok (p, after) => do
      let (points, rest) ← readString opening after
      return (p :: points, rest)
  | c :: rest => do
    if c.toNat < 32 then throw ⟨.control, c :: rest⟩
    let (points, rest) ← readString opening rest
    return (.char c :: points, rest)
termination_by cs.length
decreasing_by
  · have := readEscape_length (by assumption); simp only [List.length_cons]; omega
  · simp

/-! ## Numbers -/

def isAsciiDigit (c : Char) : Bool := '0' ≤ c && c ≤ '9'

/-- The digits of the whole part: one zero, or any run that does not begin with one. -/
def wholePart : List Char → Option (List Char × List Char)
  | '0' :: rest => some (['0'], rest)
  | cs =>
    match cs.takeWhile isAsciiDigit with
    | [] => none
    | digits => some (digits, cs.dropWhile isAsciiDigit)

/-- The digits after a point, if a digit follows the point. -/
def fractionPart : List Char → Option (List Char × List Char)
  | '.' :: c :: rest =>
    if isAsciiDigit c then
      some (c :: rest.takeWhile isAsciiDigit, rest.dropWhile isAsciiDigit)
    else none
  | _ => none

/-- The sign and digits of an exponent, if it has a digit. -/
def exponentPart : List Char → Option (Int × List Char)
  | e :: rest =>
    if e = 'e' || e = 'E' then
      let (negative, body) := match rest with
        | '-' :: body => (true, body)
        | '+' :: body => (false, body)
        | body => (false, body)
      match body.takeWhile isAsciiDigit with
      | [] => none
      | digits =>
        let n : Int := Text.digitsValue digits
        some (if negative then -n else n, body.dropWhile isAsciiDigit)
    else none
  | [] => none

/-- Reads a number; `start` is the text from its sign. -/
def readNumber (start : List Char) (negative : Bool) (cs : List Char) :
    Except Stop (Value × List Char) :=
  match wholePart cs with
  | none => .error ⟨.value, start⟩
  | some (whole, rest) =>
    let fraction := fractionPart rest
    let afterFraction := (fraction.map Prod.snd).getD rest
    let exponent := exponentPart afterFraction
    if fraction.isNone && exponent.isNone then
      match Text.readNumeral whole with
      | .ok n => .ok (.int (if negative then -(n : Int) else n), rest)
      | .error e => .error ⟨.longNumeral e.digits, start⟩
    else
      let decimals := (fraction.map Prod.fst).getD []
      let digits := Text.digitsValue (whole ++ decimals)
      let power := (exponent.map Prod.fst).getD 0 - decimals.length
      .ok (.float (Binary64.ofDecimal negative digits power),
        (exponent.map Prod.snd).getD afterFraction)

/-- The words that stand for a value, and the values. -/
def words : List (String × Value) :=
  [("null", .null), ("true", .bool true), ("false", .bool false),
    ("NaN", .float .nan), ("Infinity", .float (.infinite false)),
    ("-Infinity", .float (.infinite true))]

/-- Reads one of the words. -/
def readWord? (cs : List Char) : Option (Value × List Char) :=
  words.findSome? fun (word, v) =>
    if word.toList.isPrefixOf cs then some (v, cs.drop word.length) else none

/-! ## Values -/

mutual

/-- Reads one value at the front of the text; `fuel` bounds the steps, and `room` says how many
lists and maps may be inside of each other. -/
def readValue : (fuel : Nat) → (room : Nat) → List Char → Except Stop (Value × List Char)
  | 0, _, cs => .error ⟨.value, cs⟩
  | fuel + 1, room, cs =>
    match cs with
    | '"' :: rest => do
      let (points, rest) ← readString cs rest
      return (.text ⟨points⟩, rest)
    | '{' :: rest =>
      if room = 0 then .error ⟨.tooDeep true, cs⟩
      else
        match skip rest with
        | '}' :: rest => .ok (.map [], rest)
        | rest => readEntries fuel (room - 1) [] rest
    | '[' :: rest =>
      if room = 0 then .error ⟨.tooDeep false, cs⟩
      else
        match skip rest with
        | ']' :: rest => .ok (.list [], rest)
        | rest => readItems fuel (room - 1) [] rest
    | _ =>
      match readWord? cs with
      | some found => .ok found
      | none =>
        match cs with
        | '-' :: rest => readNumber cs true rest
        | _ => readNumber cs false cs

/-- Reads the items of a list after those read before, up to the closing bracket. -/
def readItems : (fuel : Nat) → (room : Nat) → List Value → List Char →
    Except Stop (Value × List Char)
  | 0, _, _, cs => .error ⟨.value, cs⟩
  | fuel + 1, room, before, cs => do
    let (item, rest) ← readValue fuel room cs
    let items := before ++ [item]
    match skip rest with
    | ']' :: rest => return (.list items, rest)
    | ',' :: rest => readItems fuel room items (skip rest)
    | rest => throw ⟨.comma, rest⟩

/-- Reads the entries of a map after those read before, up to the closing brace. -/
def readEntries : (fuel : Nat) → (room : Nat) → List (Value × Value) → List Char →
    Except Stop (Value × List Char)
  | 0, _, _, cs => .error ⟨.value, cs⟩
  | fuel + 1, room, before, cs =>
    match cs with
    | '"' :: rest => do
      let (key, rest) ← readString cs rest
      match skip rest with
      | ':' :: rest => do
        let (value, rest) ← readValue fuel room (skip rest)
        let entries := Value.putEntry before (.text ⟨key⟩) value
        match skip rest with
        | '}' :: rest => return (.map entries, rest)
        | ',' :: rest => readEntries fuel room entries (skip rest)
        | rest => throw ⟨.comma, rest⟩
      | rest => throw ⟨.colon, rest⟩
    | cs => .error ⟨.propertyName, cs⟩

end

/-- A flaw and where it is, counted in characters from the beginning. -/
structure Fault where
  flaw : Flaw
  position : Nat
  line : Nat
  column : Nat
deriving Repr, DecidableEq

/-- The fault of a text at a stop. -/
def Fault.ofStop (text : List Char) (stop : Stop) : Fault :=
  let position := text.length - stop.rest.length
  let before := text.take position
  ⟨stop.flaw, position, before.count '\n' + 1,
    (before.reverse.takeWhile (· ≠ '\n')).length + 1⟩

/-- What a flaw is called. -/
def Flaw.message : Flaw → String
  | .byteOrderMark => "Unexpected UTF-8 BOM (decode using utf-8-sig)"
  | .value => "Expecting value"
  | .propertyName => "Expecting property name enclosed in double quotes"
  | .colon => "Expecting ':' delimiter"
  | .comma => "Expecting ',' delimiter"
  | .unterminated => "Unterminated string starting at"
  | .control => "Invalid control character at"
  | .escape => "Invalid \\escape"
  | .unicodeEscape => "Invalid \\uXXXX escape"
  | .extra => "Extra data"
  | .longNumeral digits => Text.LongNumeral.message ⟨digits⟩
  | .tooDeep isMap =>
    let kind := if isMap then "object" else "array"
    s!"maximum recursion depth exceeded while decoding a JSON {kind} from a unicode string"

/-- The text reported for a fault; not every flaw has a place. -/
def Fault.message (f : Fault) : String :=
  match f.flaw with
  | .longNumeral _ | .tooDeep _ => f.flaw.message
  | flaw => s!"{flaw.message}: line {f.line} column {f.column} (char {f.position})"

/-- Reads a whole text as one value with blanks around it. At most so many lists and maps may be
inside of each other. -/
def readStop (levels : Nat) (cs : List Char) : Except Stop Value :=
  match cs with
  | '\uFEFF' :: _ => .error ⟨.byteOrderMark, cs⟩
  | _ => do
    let (value, rest) ← readValue (2 * cs.length + 2) levels (skip cs)
    match skip rest with
    | [] => return value
    | rest => throw ⟨.extra, rest⟩

/-- Reads a whole text as one value of limited depth. -/
def read (levels : Nat) (text : List Char) : Except Fault Value :=
  (readStop levels text).mapError (Fault.ofStop text)

end Casebook.Json

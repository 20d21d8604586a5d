import Casebook.Calendar
import Casebook.Text.Digit
import Casebook.Text.Quoted

/-!
# Faults of YAML documents

A document is refused because its text is malformed, or because a scalar does not hold
what its tag says. Reading halts at the first fault in its text; what stands behind the characters
that were looked at by then does not count.
-/

namespace Casebook.Yaml

/-- Why a document was refused. -/
inductive Fault
  /-- The text is no document, or no value can be made of it. -/
  | malformed
  /-- A date or moment has a field out of range. -/
  | calendar (fault : Calendar.Fault)
  /-- The text of an integer has no digits, or other characters among them. -/
  | badInteger (base : Nat) (text : Text)
  | longInteger (digits : Nat)
  | badFloat (text : Text)
  | badTruth (text : Text)
  | badMoment
  /-- Too many collections are inside of each other. -/
  | tooDeep
  /-- A date or moment is given by a map. -/
  | noMomentText
  /-- A factor to the base sixty is above all floating point numbers. -/
  | hugeFactor
  /-- A number has an empty text. -/
  | emptyNumber
  /-- An escaped code is above the last code point. -/
  | badCode
  /-- An escaped code is above all codes that are compared with the last code point. -/
  | hugeCode
deriving Repr, DecidableEq

/-- How many characters of a quoted text are shown with a bad integer. -/
def shownLimit : Nat := 200

/-- The largest code that is compared with the last code point. -/
def codeLimit : Nat := 0x7FFFFFFF

/-- The text reported for a fault; a malformed document is reported without one. -/
def Fault.message : Fault → String
  | .malformed => ""
  | .calendar f => f.message
  | .badInteger base text =>
    let shown := String.ofList ((Text.quoted text).toList.take shownLimit)
    s!"invalid literal for int() with base {base}: {shown}"
  | .longInteger digits => Text.LongNumeral.message ⟨digits⟩
  | .badFloat text => s!"could not convert string to float: {Text.quoted text}"
  | .badTruth text => Text.quoted text
  | .badMoment => "'NoneType' object has no attribute 'groupdict'"
  | .tooDeep => "maximum recursion depth exceeded while calling a Python object"
  | .noMomentText => "expected string or bytes-like object, got 'list'"
  | .hugeFactor => "int too large to convert to float"
  | .emptyNumber => "string index out of range"
  | .badCode => "chr() arg not in range(0x110000)"
  | .hugeCode => "Python int too large to convert to C int"

/-- Where reading halted: its fault, and how many characters had been looked at by then. -/
structure Halt where
  fault : Fault
  seen : Nat
deriving Repr, DecidableEq

end Casebook.Yaml

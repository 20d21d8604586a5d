import Casebook.Text.Digit
import Casebook.Value.Basic

/-!
# Values that are not written

A value is written as YAML unless an integer in it has too many digits or its parts are nested too
deep. The parts are looked at in the order of writing, each object once, and the first reason
counts.
-/

namespace Casebook.Yaml

/-- Why a value is not written. -/
inductive Refusal
  | hugeInteger (fault : Text.HugeInteger)
  /-- Too many values are inside of each other. -/
  | tooDeep
deriving Repr, DecidableEq

/-- The text reported for a value that is not written. -/
def Refusal.message : Refusal → String
  | .hugeInteger f => f.message
  | .tooDeep => "maximum recursion depth exceeded"

namespace Refusal

mutual

/-- Looks at a value that may have so many levels. `met` are the labels of the objects that were
looked at, and those that have been looked at then are returned. -/
def inspect (met : List Nat) : (levels : Nat) → Value → Except Refusal (List Nat)
  | levels, .shared label v | levels, .loop label v =>
    if met.contains label then .ok met else inspect (label :: met) levels v
  | _, .again .. => .ok met
  | 0, _ => .error .tooDeep
  | _ + 1, .int i => if Text.isHuge i then .error (.hugeInteger ⟨i⟩) else .ok met
  | levels + 1, .list items | levels + 1, .tuple items | levels + 1, .set items =>
    inspectItems met levels items
  | levels + 1, .map entries => inspectEntries met levels entries
  | _ + 1, _ => .ok met

def inspectItems (met : List Nat) (levels : Nat) : List Value → Except Refusal (List Nat)
  | [] => .ok met
  | v :: vs => do inspectItems (← inspect met levels v) levels vs

def inspectEntries (met : List Nat) (levels : Nat) :
    List (Value × Value) → Except Refusal (List Nat)
  | [] => .ok met
  | (k, v) :: es => do
    inspectEntries (← inspect (← inspect met levels k) levels v) levels es

end

end Refusal

/-- Why a value that may have so many levels is not written. -/
def refusal? (levels : Nat) (v : Value) : Option Refusal :=
  match Refusal.inspect [] levels v with
  | .error refusal => some refusal
  | .ok _ => none

end Casebook.Yaml

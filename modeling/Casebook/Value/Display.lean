import Casebook.Text.Digit
import Casebook.Text.Quoted
import Casebook.Value.Basic

/-!
# Texts of document values

How a value is shown inside a message. `Value.described` shows any value with its texts
in quotes; `Value.display` shows a value that stands alone, a text as itself. Where a value
stands inside itself, three points stand for it.
-/

namespace Casebook

namespace Value

/-- What is shown for a value within itself. -/
def ellipsis : Value → String
  | .map _ => "\x7b...\x7d"
  | .set _ => "set(...)"
  | .tuple _ => "(...)"
  | _ => "[...]"

mutual

/-- The value with its texts in quotes, inside of values with the given labels. -/
def describedIn (labels : List Nat) : Value → String
  | .null => "None"
  | .bool b => if b then "True" else "False"
  | .int i => toString i
  | .float x => Number.Layout.message.render x
  | .text t => Text.quoted t
  | .bytes b => Text.quotedBytes b
  | .date d => d.described
  | .moment m => m.described
  | .list items => "[" ++ ", ".intercalate (describedItems labels items) ++ "]"
  | .tuple [item] => "(" ++ describedIn labels item ++ ",)"
  | .tuple items => "(" ++ ", ".intercalate (describedItems labels items) ++ ")"
  | .set [] => "set()"
  | .set items => "\x7b" ++ ", ".intercalate (describedItems labels items) ++ "\x7d"
  | .map entries => "\x7b" ++ ", ".intercalate (describedEntries labels entries) ++ "\x7d"
  | .shared label v | .loop label v =>
    if labels.contains label then ellipsis v else describedIn (label :: labels) v
  | .again _ isMap => ellipsis (if isMap then .map [] else .list [])

def describedItems (labels : List Nat) : List Value → List String
  | [] => []
  | v :: vs => describedIn labels v :: describedItems labels vs

def describedEntries (labels : List Nat) : List (Value × Value) → List String
  | [] => []
  | (k, v) :: es =>
    (describedIn labels k ++ ": " ++ describedIn labels v) :: describedEntries labels es

end

/-- The value with its texts in quotes. -/
def described (v : Value) : String := describedIn [] v

/-- The value as a text of its own. -/
def display (v : Value) : Text :=
  match v.bare with
  | .text t => t
  | .date d => d.render
  | .moment m => m.render
  | _ => v.described

/-! ## Values that are not shown -/

mutual

/-- The first integer in a value that has too many digits to be written. -/
def hugeInteger? : Value → Option Int
  | .int i => if Text.isHuge i then some i else none
  | .list items | .tuple items | .set items => hugeIn? items
  | .map entries => hugeAmong? entries
  | .shared _ v | .loop _ v => hugeInteger? v
  | _ => none

def hugeIn? : List Value → Option Int
  | [] => none
  | v :: vs => (hugeInteger? v).or (hugeIn? vs)

def hugeAmong? : List (Value × Value) → Option Int
  | [] => none
  | (k, v) :: es => ((hugeInteger? k).or (hugeInteger? v)).or (hugeAmong? es)

end

/-- A text of a value, if the integers of the value can be written. -/
def shown? {α : Type} (text : Value → α) (v : Value) : Except Text.HugeInteger α :=
  match v.hugeInteger? with
  | some i => .error ⟨i⟩
  | none => .ok (text v)

end Value

end Casebook

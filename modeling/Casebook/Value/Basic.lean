import Casebook.Calendar
import Casebook.Number.Shortest
import Casebook.Text.Point

/-!
# Document values

What a document holds before it is checked against a model: scalars, lists and maps.
A map is a list of entries in the order in which their keys first appeared; putting a
value under a key that is there already replaces the value and keeps the place.

A document can let one value stand at several places, also inside itself. Such a value carries a
label. `Value.bare` takes the labels off the front of a value; what it finds is a value of its
kind, whatever the labels were.
-/

namespace Casebook

open Number

/-- A value of a document. -/
inductive Value
  | null
  | bool (b : Bool)
  | int (i : Int)
  | float (x : Binary64)
  | text (t : Text)
  | bytes (b : List UInt8)
  | date (d : Date)
  | moment (m : Moment)
  | list (items : List Value)
  /-- A sequence of fixed length, such as one entry of an ordered map. -/
  | tuple (items : List Value)
  | set (items : List Value)
  | map (entries : List (Value × Value))
  /-- A value that may stand at several places, at each of them under this label. -/
  | shared (label : Nat) (v : Value)
  /-- A list or map that stands inside itself, where its label stands again. -/
  | loop (label : Nat) (v : Value)
  /-- The list or map around this place that has the label. -/
  | again (label : Nat) (isMap : Bool)
deriving Repr, Inhabited

namespace Value

/-! ## Labels -/

mutual

/-- The value with another one wherever a label stands again. -/
def replace (label : Nat) (whole : Value) : Value → Value
  | .again l isMap => if l = label then whole else .again l isMap
  | .list items => .list (replaceItems label whole items)
  | .tuple items => .tuple (replaceItems label whole items)
  | .map entries => .map (replaceEntries label whole entries)
  | .shared l v => .shared l (replace label whole v)
  | .loop l v => .loop l (if l = label then v else replace label whole v)
  | v => v

def replaceItems (label : Nat) (whole : Value) : List Value → List Value
  | [] => []
  | v :: vs => replace label whole v :: replaceItems label whole vs

def replaceEntries (label : Nat) (whole : Value) : List (Value × Value) → List (Value × Value)
  | [] => []
  | (k, v) :: es => (k, replace label whole v) :: replaceEntries label whole es

end

/-- The value without labels in front. One that stands inside itself is put back there, so that
every value inside is complete. -/
def bare : Value → Value
  | .shared _ v => v.bare
  | .loop label v => replace label (.loop label v) v
  | v => v

/-! ## Keys -/

/-- The number that a value is, truth values counting as zero and one. -/
def number? : Value → Option (Int ⊕ Binary64)
  | .bool b => some (.inl (if b then 1 else 0))
  | .int i => some (.inl i)
  | .float x => some (match x.toInt? with
    | some i => .inl i
    | none => .inr x)
  | _ => none

/-- Whether two values are the same key of a map. Numbers of different kinds are the same
key if they are equal, and so are moments at different distances from universal time. -/
def sameKey (a b : Value) : Bool :=
  match a.bare, b.bare with
  | .null, .null => true
  | .text a, .text b => a == b
  | .bytes a, .bytes b => a == b
  | .date a, .date b => a == b
  | .moment a, .moment b => a.isSame b
  | a, b =>
    match a.number?, b.number? with
    | some (.inl m), some (.inl n) => m == n
    | some (.inr x), some (.inr y) => x == y && x != .nan
    | _, _ => false

/-- The value under a key. -/
def lookup? (entries : List (Value × Value)) (key : Value) : Option Value :=
  (entries.find? fun e => sameKey e.1 key).map Prod.snd

/-- The entries with a value put under a key. -/
def putEntry (entries : List (Value × Value)) (key value : Value) : List (Value × Value) :=
  if entries.any fun e => sameKey e.1 key then
    entries.map fun e => if sameKey e.1 key then (e.1, value) else e
  else entries ++ [(key, value)]

/-- The value of a field of a map, by its name. -/
def field? (name : String) (v : Value) : Option Value :=
  match v.bare with
  | .map entries => lookup? entries (.text name)
  | _ => none

/-- A value that can be a key: it holds nothing that can change. -/
def isKey : Value → Bool
  | .list _ | .set _ | .map _ | .again .. => false
  | .tuple items => items.attach.all fun ⟨v, _⟩ => v.isKey
  | .shared _ v | .loop _ v => v.isKey
  | _ => true

/-! ## Kinds -/

/-- A value that stands for nothing: null, false, zero, or empty. -/
def isEmpty : Value → Bool
  | .null => true
  | .bool b => !b
  | .int i => i == 0
  | .float x => x.toInt? == some 0
  | .text t => t.isEmpty
  | .bytes b => b.isEmpty
  | .list items | .tuple items | .set items => items.isEmpty
  | .map entries => entries.isEmpty
  | .date _ | .moment _ | .again .. => false
  | .shared _ v | .loop _ v => v.isEmpty

/-- The name of a value's kind, as messages give it. -/
def kindName : Value → String
  | .null => "NoneType"
  | .bool _ => "bool"
  | .int _ => "int"
  | .float _ => "float"
  | .text _ => "str"
  | .bytes _ => "bytes"
  | .date _ => "date"
  | .moment _ => "datetime"
  | .list _ => "list"
  | .tuple _ => "tuple"
  | .set _ => "set"
  | .map _ => "dict"
  | .shared _ v | .loop _ v => v.kindName
  | .again _ isMap => if isMap then "dict" else "list"

end Value

end Casebook

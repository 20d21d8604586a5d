import Casebook.Yaml.Object

/-!
# Values of YAML documents

The objects of a document are put together into one document value. An object that was asked for
more than once, and every object within it, is labelled with its place wherever it stands, so that
it can still be told which values are one and the same; within itself only its label stands.
-/

namespace Casebook.Yaml

namespace Making

/-- A scalar that keeps its identity when it is written; the others do not. -/
def keepsIdentity : Value → Bool
  | .date _ | .moment _ => true
  | _ => false

/-- The values that were put together so far, of objects that stand at several places. -/
abbrev Known := Array (Option Value)

/-- A value, and the places of the objects around it that stand in it again. -/
structure Part where
  value : Value
  around : List Nat

/-- Adds places to places, each once. -/
def union (places more : List Nat) : List Nat :=
  more.foldl (fun ps p => if ps.contains p then ps else p :: ps) places

/-- The value of the object at a place, within objects at other places; `shared` says that one of
them stands at several places. `depth` bounds how many of them there are. -/
def valueAt (m : Making) : (depth : Nat) → (within : List Nat) → (shared : Bool) →
    (place : Nat) → StateM Known Part
  | 0, _, _, _ => return ⟨.null, []⟩
  | depth + 1, within, shared, place => do
    let shared := shared || m.repeated.getD place false
    match (← get).getD place none, m.objects.getD place none with
    | some v, _ => return ⟨v, []⟩
    | none, none => return ⟨.null, []⟩
    | none, some (.scalar v _) =>
      return ⟨if shared && keepsIdentity v then .shared place v else v, []⟩
    | none, some o =>
      if within.contains place then return ⟨.again place (o.isMap), [place]⟩
      let parts ← o.places.mapM (valueAt m depth (place :: within) shared)
      let around := parts.foldl (fun ps part => union ps part.around) []
      let v := o.valueWith (parts.map Part.value)
      let v :=
        if around.contains place then .loop place v
        else if shared then .shared place v
        else v
      let around := around.filter (· ≠ place)
      if around.isEmpty && m.repeated.getD place false then
        modify fun known => known.setIfInBounds place (some v)
      return ⟨v, around⟩

/-- The value of the object at a place. -/
def value (m : Making) (place : Nat) : Value :=
  let n := m.objects.size
  ((m.valueAt (n + 1) [] false place).run (Array.replicate n none)).1.value

end Making

/-- The value of a document, given the graph of its nodes. -/
def Graph.value (g : Graph) : Except Fault Value := do return (← g.make).value g.root

end Casebook.Yaml

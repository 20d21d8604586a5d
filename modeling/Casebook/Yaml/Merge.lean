import Casebook.Yaml.Node

/-!
# Merge keys of YAML maps

The entries under the merge key of a map come to stand in front of the map's own entries, those
of a later map in a list of maps before those of an earlier one. A map is flattened when its value
is made and stays flattened. A key that stands for the value of its map is an ordinary text from
then on.
-/

namespace Casebook.Yaml

/-- The nodes of a document, by their places. -/
abbrev Nodes := Array Node

namespace Nodes

def at? (ns : Nodes) (place : Nat) : Node := ns.getD place .empty

def tagAt (ns : Nodes) (place : Nat) : Tag := (ns.at? place).tag

/-- The entries of a map; other nodes have none. -/
def entriesAt (ns : Nodes) (place : Nat) : List (Nat × Nat) :=
  match (ns.at? place).body with
  | .map entries => entries
  | _ => []

/-- The node is a map. -/
def isMapAt (ns : Nodes) (place : Nat) : Bool :=
  match (ns.at? place).body with
  | .map _ => true
  | _ => false

def setEntries (ns : Nodes) (place : Nat) (entries : List (Nat × Nat)) : Nodes :=
  ns.modify place fun n => { n with body := .map entries }

def setTag (ns : Nodes) (place : Nat) (tag : Tag) : Nodes :=
  ns.modify place fun n => { n with tag }

/-- A key that says something about the map around it. -/
def isSpecial (ns : Nodes) (key : Nat) : Bool :=
  ns.tagAt key == .merge || ns.tagAt key == .value

/-- The first entry with a special key from an index on, and its index. -/
def special? (ns : Nodes) (entries : List (Nat × Nat)) (index : Nat) :
    Option (Nat × Nat × Nat) :=
  match (entries.drop index).findIdx? fun e => ns.isSpecial e.1 with
  | none => none
  | some n => (entries[index + n]?).map fun e => (index + n, e)

/-- Flattens a map from an index on, after the entries that were merged before. Every step that
does not end it does away with one special key, so `fuel` need not be more than their number. -/
def flattenFrom : (fuel : Nat) → (place index : Nat) → (merged : List (Nat × Nat)) → Nodes →
    Except Fault Nodes
  | 0, _, _, _, _ => .error .malformed
  | fuel + 1, place, index, merged, ns =>
    let entries := ns.entriesAt place
    match ns.special? entries index with
    | none => .ok (if merged.isEmpty then ns else ns.setEntries place (merged ++ entries))
    | some (i, key, value) =>
      if ns.tagAt key == .value then
        flattenFrom fuel place (i + 1) merged (ns.setTag key .text)
      else
        let ns := ns.setEntries place (entries.eraseIdx i)
        match (ns.at? value).body with
        | .map _ => do
          let ns ← flattenFrom fuel value 0 [] ns
          flattenFrom fuel place i (merged ++ ns.entriesAt value) ns
        | .sequence items => do
          let (ns, later) ← items.foldlM (fun (ns, later) item =>
            if ns.isMapAt item then do
              let ns ← flattenFrom fuel item 0 [] ns
              return (ns, ns.entriesAt item ++ later)
            else throw .malformed) (ns, ([] : List (Nat × Nat)))
          flattenFrom fuel place i (merged ++ later) ns
        | .scalar _ => .error .malformed

/-- How many entries all maps have. -/
def entryCount (ns : Nodes) : Nat :=
  ns.toList.foldr (fun n sum => match n.body with
    | .map entries => entries.length + sum
    | _ => sum) 0

/-- Flattens a map. -/
def flatten (ns : Nodes) (place : Nat) : Except Fault Nodes :=
  if (ns.entriesAt place).any fun e => ns.isSpecial e.1 then
    flattenFrom (ns.entryCount + 1) place 0 [] ns
  else .ok ns

/-- The text of a scalar, or of the value that stands for a map, in so many steps. -/
def textWithin (ns : Nodes) : (steps : Nat) → (place : Nat) → Except Fault Text
  | 0, _ => .error .tooDeep
  | steps + 1, place =>
    match (ns.at? place).body with
    | .scalar text => .ok text
    | .map entries =>
      match entries.find? fun e => ns.tagAt e.1 == .value with
      | some e => textWithin ns steps e.2
      | none => .error .malformed
    | .sequence _ => .error .malformed

/-- The text of a scalar, or of the value that stands for a map. A map on the way is met once,
unless the value of a map leads to the map itself. -/
def textAt (ns : Nodes) (place : Nat) : Except Fault Text := textWithin ns (ns.size + 1) place

end Nodes

end Casebook.Yaml

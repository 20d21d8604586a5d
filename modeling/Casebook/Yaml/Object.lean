import Casebook.Value.SetOrder
import Casebook.Yaml.Content
import Casebook.Yaml.Merge

/-!
# Objects of YAML documents

Every node that the root leads to becomes an object: a scalar value, or a collection that names
the objects in it. A collection begins empty and is filled later, one after the other in the order
in which they were begun, so of several faults the one nearest to the root is reported, and of
those the first. A node that is asked for again is the same object.
-/

namespace Casebook.Yaml

/-- What a node stands for; what is in a collection is named by the places of its nodes. -/
inductive Object
  /-- A value. Objects of one identity are one and the same, whatever their values. -/
  | scalar (v : Value) (identity : Nat)
  | list (items : List Nat)
  | set (members : List Nat)
  | map (entries : List (Nat × Nat))
  /-- A list of pairs, which are objects of their own. -/
  | pairs (items : List Nat)
  | pair (key value : Nat)
deriving Inhabited

namespace Object

/-- The value of a collection from the values in it, which come in the order of the places. -/
def valueWith (values : List Value) : Object → Value
  | .scalar v _ => v
  | .list _ | .pairs _ => .list values
  | .set _ => .set values
  | .map entries => .map ((values.take entries.length).zip (values.drop entries.length))
  | .pair .. => .tuple values

/-- The places of what is in a collection; of entries all keys come first. -/
def places : Object → List Nat
  | .scalar .. => []
  | .list items | .pairs items | .set items => items
  | .map entries => entries.map Prod.fst ++ entries.map Prod.snd
  | .pair key value => [key, value]

/-- The object is a map. -/
def isMap : Object → Bool
  | .map _ => true
  | _ => false

end Object

/-- The objects that were made so far. -/
structure Making where
  nodes : Nodes
  /-- The objects by the places of their nodes. Behind them stand pairs, which have no node. -/
  objects : Array (Option Object)
  /-- Which of them were asked for more than once. -/
  repeated : Array Bool
  /-- The collections that have to be filled yet, the last first. -/
  unfilled : List Nat

/-- A step that makes objects or is refused. -/
abbrev Make := StateT Making (Except Fault)

namespace Make

def refuse {α : Type} : Make α := throw .malformed

/-- The value of a scalar node, or of a map that a value stands for. -/
def scalar (place : Nat) : Make Value := do
  let ns := (← get).nodes
  let text ← ns.textAt place
  match ns.tagAt place with
  | .timestamp => if ns.isMapAt place then throw .noMomentText else Content.value .timestamp text
  | tag => Content.value tag text

/-- The identity of a scalar: the node's own, but all that is written as no number is one. -/
def identityOf (ns : Nodes) (place : Nat) : Value → Nat
  | .float .nan =>
    if ((ns.textAt place).toOption.map Content.isNoNumber).getD false then ns.size else place
  | _ => place

/-- The empty collection that a tag begins. -/
def emptyOf? : Tag → Option Object
  | .sequence => some (.list [])
  | .map => some (.map [])
  | .set => some (.set [])
  | .orderedMap | .pairs => some (.pairs [])
  | _ => none

def keep (place : Nat) (o : Object) : Make Unit :=
  modify fun m => { m with objects := m.objects.setIfInBounds place (some o) }

/-- Asks for the object of a node, which is made unless it is there. -/
def ask (place : Nat) : Make Unit := do
  let m ← get
  if (m.objects.getD place none).isSome then
    set { m with repeated := m.repeated.setIfInBounds place true }
  else
    match emptyOf? (m.nodes.tagAt place) with
    | some o =>
      keep place o
      modify fun m => { m with unfilled := place :: m.unfilled }
    | none =>
      let v ← scalar place
      keep place (.scalar v (identityOf m.nodes place v))

/-- The value of a node that stands for a key. -/
def keyAt (objects : Array (Option Object)) (place : Nat) : Value :=
  match objects.getD place none with
  | some (.scalar v _) => v
  | _ => .null

/-- The nodes stand for the same key. -/
def sameKey (objects : Array (Option Object)) (a b : Nat) : Bool :=
  match objects.getD a none, objects.getD b none with
  | some (.scalar v i), some (.scalar w j) => i == j || Value.sameKey v w
  | _, _ => false

/-- The node stands for something that can be a key. -/
def isKey (objects : Array (Option Object)) (place : Nat) : Bool :=
  match objects.getD place none with
  | some (.scalar ..) => true
  | _ => false

/-- Puts an entry into those of a map: under a key that is there already the value is replaced. -/
def putEntry (entries : List (Nat × Nat)) (e : Nat × Nat) : Make (List (Nat × Nat)) := do
  ask e.1
  if !isKey (← get).objects e.1 then refuse
  ask e.2
  let objects := (← get).objects
  return if entries.any fun f => sameKey objects f.1 e.1 then
    entries.map fun f => if sameKey objects f.1 e.1 then (f.1, e.2) else f
  else entries ++ [e]

/-- The entries of a map node, flattened. -/
def entries (place : Nat) : Make (List (Nat × Nat)) := do
  let m ← get
  if !m.nodes.isMapAt place then refuse
  let nodes ← m.nodes.flatten place
  set { m with nodes }
  (nodes.entriesAt place).foldlM putEntry []

/-- The place of a new pair, for which a map of one entry stands. -/
def pair (place : Nat) : Make Nat := do
  match ((← get).nodes.at? place).body with
  | .map [e] =>
    ask e.1
    ask e.2
    let m ← get
    set { m with objects := m.objects.push (some (.pair e.1 e.2)) }
    return m.objects.size
  | _ => refuse

/-- Fills a collection. -/
def fill (place : Nat) : Make Unit := do
  let m ← get
  match m.objects.getD place none, (m.nodes.at? place).body with
  | some (.list _), .sequence items =>
    items.forM ask
    keep place (.list items)
  | some (.pairs _), .sequence items => keep place (.pairs (← items.mapM pair))
  | some (.map _), _ => keep place (.map (← entries place))
  | some (.set _), _ =>
    let members := (← entries place).map Prod.fst
    keep place (.set (SetOrder.arrange (keyAt (← get).objects) members))
  | _, _ => refuse

/-- Fills all collections that are left, and those that turn up in them. Each round fills what the
round before began, so there are no more rounds than nodes. -/
def fillAll : (rounds : Nat) → Make Unit
  | 0 => return ()
  | rounds + 1 => do
    let places := (← get).unfilled.reverse
    if places.isEmpty then return ()
    modify fun m => { m with unfilled := [] }
    places.forM fill
    fillAll rounds

end Make

/-- The objects of a document. -/
def Graph.make (g : Graph) : Except Fault Making := do
  let n := g.nodes.size
  let start : Making := ⟨g.nodes, Array.replicate n none, Array.replicate n false, []⟩
  let (_, m) ← (do
    Make.ask g.root
    Make.fillAll (n + 1)).run start
  return m

end Casebook.Yaml

import Casebook.Disk.Change
import Casebook.Fault
import Casebook.Sequence.Patch
import Casebook.Table
import Casebook.Yaml.Printer

/-!
# Accepted results

The lines that were accepted for each case, by the name of the case, kept in a YAML file.
A case that is not there yet is accepted as it is. For one that is there, other lines are
a mismatch, or replace what was accepted if the store is updating. Names are never
removed, and they keep the order in which they came in. The file is written only after a
change.
-/

namespace Casebook.Snapshot

open Disk

structure Store where
  path : Path
  /-- Other lines replace what was accepted. -/
  updating : Bool
  /-- What was accepted, by name. A file may hold other values than lines. -/
  accepted : List (Text × List Value)
  /-- Something changed since the file was read or written. -/
  changed : Bool
deriving Repr

/-! ## Reading -/

/-- The values that are taken as lines: the items of a list, and nothing for a value that
stands for nothing. A text counts as its characters, a map as its keys. -/
def linesOf (v : Value) : Outcome (List Value) :=
  if v.isEmpty then .ok []
  else
    match v.bare with
    | .list items | .tuple items | .set items => .ok items
    | .map entries => .ok (entries.map Prod.fst)
    | .text t => .ok (t.points.map fun p => .text ⟨[p]⟩)
    | .bytes b => .ok (b.map fun n => .int n.toNat)
    | v => .error (.noLines v)

/-- What the entries of a file accept. -/
def acceptedOf : List (Value × Value) → Outcome (List (Text × List Value)) :=
  List.foldlM (fun accepted e => do
    let name ← (e.1.shown? Value.display).mapError .hugeInteger
    return Table.put name (← linesOf e.2) accepted) []

/-- What a document accepts. An empty one accepts nothing. -/
def ofDocument (v : Value) : Outcome (List (Text × List Value)) :=
  if v.isEmpty then .ok []
  else
    match v.bare with
    | .map entries => acceptedOf entries
    | v => .error (.noSnapshotMap v)

namespace Store

/-- The store of a file, read with so many steps under way; without the file it is empty. -/
def load (w : Workspace) (steps : Nat) (path : Path) (updating : Bool) : Outcome Store := do
  if ← (w.exists? path.text).mapError .disk then
    return ⟨path, updating, ← ofDocument (← w.readYaml (steps + 2) path.text), false⟩
  else return ⟨path, updating, [], false⟩

def get? (s : Store) (name : Text) : Option (List Value) := s.accepted.lookup name

def has (s : Store) (name : Text) : Bool := (s.get? name).isSome

/-! ## Checking -/

/-- Accepts lines for a name. -/
def accept (s : Store) (name : Text) (lines : List Text) : Store :=
  { s with accepted := Table.put name (lines.map Value.text) s.accepted, changed := true }

/-- The values are these lines. -/
def agree : List Value → List Text → Bool
  | [], [] => true
  | .text s :: vs, l :: ls => s == l && agree vs ls
  | _, _ => false

/-- The part of a value that can change and keeps it from being compared. -/
def changeable? : Value → Option Value
  | .tuple items => items.attach.findSome? fun ⟨v, _⟩ => changeable? v
  | v => if v.isKey then none else some v

def isText : Value → Bool
  | .text _ => true
  | _ => false

/-- The lines that values are. A first value that is no text is reported before one that
cannot be compared, and that before any other that is no text. -/
def texts (vs : List Value) : Outcome (List Text) :=
  let other := fun v => !isText v
  match vs.head?.filter other with
  | some v =>
    match v.hugeInteger? with
    | some i => .error (.hugeInteger ⟨i⟩)
    | none => .error (.noLine v)
  | none =>
    match vs.findSome? changeable? with
    | some v => .error (.notComparable v)
    | none =>
      match vs.find? other with
      | some v => .error (.noText v)
      | none => .ok (vs.map Value.display)

/-- What is reported for lines that do not agree with what was accepted. -/
def mismatch (accepted : List Value) (lines : List Text) : Outcome Text := do
  return "Snapshot mismatch:\n" ++ Sequence.patchText (← texts accepted) lines

/-- Compares lines with what was accepted: nothing, or the mismatch, and the store after
that. -/
def check (s : Store) (name : Text) (lines : List Text) : Outcome (Option Text × Store) :=
  match s.get? name with
  | none => .ok (none, s.accept name lines)
  | some accepted =>
    if agree accepted lines then .ok (none, s)
    else if s.updating then .ok (none, s.accept name lines)
    else do return (some (← mismatch accepted lines), s)

/-! ## Writing -/

/-- What was accepted, as a document value. -/
def toValue (s : Store) : Value :=
  .map (s.accepted.map fun e => (.text e.1, .list e.2))

/-- The text of the file. -/
def text (s : Store) : String := String.ofList (Yaml.write s.toValue)

/-- Writes the file if something changed, with so many steps under way, and says whether it did.
The folders around the file are made first, and those that were made stay. If what was accepted
cannot be written, the file is left empty. -/
def save (s : Store) (w : Workspace) (steps : Nat) : Outcome Bool × Store × Workspace :=
  if !s.changed then (.ok false, s, w)
  else
    match w.ensureFolders s.path.parent with
    | .error fault => (.error (.disk fault), s, w.leftByFolders s.path.parent)
    | .ok w =>
      let refusal := Yaml.refusal? (Depth.ofWrittenYaml steps) s.toValue
      let text := if refusal.isSome then "" else s.text
      match w.write s.path.text (Text.utf8 text), refusal with
      | .error fault, _ => (.error (.disk fault), s, w)
      | .ok w, some refusal => (.error (.notWritten refusal), s, w)
      | .ok w, none => (.ok true, { s with changed := false }, w)

end Store

end Casebook.Snapshot

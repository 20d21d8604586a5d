import Casebook.Sequence.Similar
import Casebook.Stub.Index

/-!
# Contents of stub files

The texts of stub files, each read from disk when it is first asked for and kept from
then on. A file is never read again once its text is known, and never because of a name
that the index does not place in a folder.
-/

namespace Casebook.Stub

open Disk

/-- The texts known so far, and how often the disk was asked for one. -/
structure Contents where
  texts : List (Text × Text)
  reads : Nat
deriving Repr, DecidableEq

/-- Why no text can be had for a name without a folder. -/
def unplacedReport (i : Index) (name : Text) : Report :=
  let reason : Text :=
    if i.has name then "synthetic file has no contents" else "not indexed"
  let similar := Sequence.similarNames name i.names Sequence.suggestionLimit
  let advice : List Text := if i.has name then [] else ["Check is_loadable_file() before calling load_file()"]
  ⟨"No path to load " ++ name ++ " contents from", [⟨"file index", false, some reason⟩],
    similar.map (fun t => Text.ofString s!"Did you mean {t.quoted}?") ++ advice⟩

namespace Contents

def empty : Contents := ⟨[], 0⟩

def text? (c : Contents) (name : Text) : Option Text := c.texts.lookup name

def has (c : Contents) (name : Text) : Bool := (c.text? name).isSome

def put (c : Contents) (name text : Text) : Contents :=
  { c with texts := Table.put name text c.texts }

/-- The same texts, counted anew. -/
def copy (c : Contents) : Contents := { c with reads := 0 }

/-- The text of a file on disk. -/
def readFile (w : Workspace) (path : Path) : Outcome Text := do
  decodeBytes (← (w.bytes path.text).mapError .disk)

/-- Reads a file from the folder that the index places it in, and keeps its text. -/
def fetch (c : Contents) (i : Index) (w : Workspace) (name : Text) :
    Outcome Text × Contents :=
  match i.origin? name with
  | some (.folder folder) =>
    let c := { c with reads := c.reads + 1 }
    match readFile w (folder.below name) with
    | .ok text => (.ok text, c.put name text)
    | .error fault => (.error fault, c)
  | _ => (.error (.unresolved (unplacedReport i name)), c)

/-- The text of a file: the one that is known, or else the one on disk. -/
def get (c : Contents) (i : Index) (w : Workspace) (name : Text) :
    Outcome Text × Contents :=
  match c.text? name with
  | some text => (.ok text, c)
  | none => c.fetch i w name

end Contents

end Casebook.Stub

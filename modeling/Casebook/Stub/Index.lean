import Casebook.Fault
import Casebook.Table

/-!
# Index of stub files

Which stub files there are, by name, and where the contents of each come from: from the
folder that the file was found in, or from whoever registered it by hand. Building an
index looks at names only; no file is read.
-/

namespace Casebook.Stub

open Disk

/-- Where the contents of a stub file come from. -/
inductive Origin
  /-- The file of that name in a folder. -/
  | folder (path : Path)
  /-- The file was registered by hand. -/
  | synthetic
deriving Repr, DecidableEq

/-- Stub files by name. -/
structure Index where
  entries : List (Text × Origin)
deriving Repr, DecidableEq

namespace Index

def empty : Index := ⟨[]⟩

def origin? (i : Index) (name : Text) : Option Origin := i.entries.lookup name

def has (i : Index) (name : Text) : Bool := (i.origin? name).isSome

def size (i : Index) : Nat := i.entries.length

/-- The names in the order of the alphabet. -/
def names (i : Index) : List Text := (i.entries.map Prod.fst).mergeSort Text.le

def insert (i : Index) (name : Text) (o : Origin) : Index := ⟨Table.put name o i.entries⟩

/-- Registers a file by hand, also in place of one from a folder. -/
def register (i : Index) (name : Text) : Index := i.insert name .synthetic

/-- The files right in a folder whose names have the suffix. -/
def filesIn (w : Workspace) (suffix : Text) (folder : Path) :
    Except Disk.Fault (List Text) := do
  let candidates := (← w.names folder.text).filter (Text.ends suffix ·)
  candidates.filterM fun name => w.isFile (folder.below name).text

/-- A folder that could not be searched. -/
def folderReport (folder : Path) (trouble : Trouble) : Report :=
  ⟨"Cannot index search directory " ++ folder.text,
    [⟨folder.text, false, some trouble.text⟩],
    ["Check the provider search_paths in your typesnap config"]⟩

/-- Adds the files of a folder; they take the place of files of the same name. -/
def addFolder (w : Workspace) (suffix : Text) (i : Index) (folder : Path) : Outcome Index :=
  match filesIn w suffix folder with
  | .ok names => .ok (names.foldl (fun i name => i.insert name (.folder folder)) i)
  | .error (.refused trouble _) => .error (.setup (folderReport folder trouble))
  | .error fault => .error (.disk fault)

/-- The index of folders; of two files of one name the one in the later folder counts. -/
def build (w : Workspace) (suffix : Text) (folders : List Path) : Outcome Index :=
  folders.foldlM (addFolder w suffix) empty

end Index

end Casebook.Stub

import Casebook.Digest
import Casebook.Mount.Name
import Casebook.Stub.Provider

/-!
# What the checker sees

The checker asks for files by path. Below the mount root it sees the provider's stub
files, and a folder wherever some stub file lies below one. At and below the real roots it
sees the disk, as it was when the checker first asked. All other paths lead nowhere,
whatever the disk holds there.

The questions about stub files are functions of the provider alone (`Provider.isFolder`,
`Provider.children`). What was seen of the disk is kept in `Memory` until it is flushed.
-/

namespace Casebook

open Disk

namespace Stub.Provider

/-- Some stub file lies below the folder; the empty name is the mount root, which is
always there. -/
def isFolder (p : Provider) (name : Text) : Bool :=
  name.isEmpty || p.names.any (Text.begins (name ++ "/") ·)

/-- The stub file or folder of a name is there. -/
def hasEntry (p : Provider) (name : Text) : Bool :=
  (!name.isEmpty && p.isLoadable name) || p.isFolder name

/-- A sorted list without repetitions. -/
def merged : List Text → List Text
  | [] => []
  | s :: ss =>
    match merged ss with
    | [] => [s]
    | t :: ts => if s = t then t :: ts else s :: t :: ts

/-- The entries right in a folder, in the order of the alphabet. -/
def children (p : Provider) (name : Text) : List Text :=
  let start : Text := if name.isEmpty then "" else name ++ "/"
  let below := p.names.filterMap (Text.after? start ·)
  merged ((below.map fun s => (Text.split '/' s).headD "").mergeSort Text.le)

end Stub.Provider

namespace Mount

/-- The name under which the checker's own folder is shown. No absolute path begins with
it, so nothing on the disk at hand is seen because of it. -/
def checkerFolder : String := "<mypy>"

/-- What was seen of the disk, by path as it was asked for. -/
structure Memory where
  /-- What paths lead to. -/
  entries : List (Text × Option Entry)
  /-- The names in folders, by the normal form of the path. -/
  listings : List (Text × Except Disk.Fault (List Text))
  bytes : List (Text × Except Disk.Fault (List UInt8))
  /-- Whether a path is spelled as the names on disk are, for files and for any paths. -/
  spelledFiles : List (Text × Bool)
  spelledPaths : List (Text × Bool)

def Memory.empty : Memory := ⟨[], [], [], [], []⟩

/-- The files that the checker sees. -/
structure View where
  provider : Stub.Provider
  /-- The mount root, in its normal form. -/
  root : Text
  /-- The real roots, absolute and in normal form. -/
  realRoots : List Text
  memory : Memory

/-- A question, answered from the view that may remember more afterwards. -/
abbrev Look (α : Type) := ExceptT Fault (StateM View) α

namespace View

/-- The view of a provider mounted at a root, with some folders of the disk, all of them
absolute and in normal form. -/
def make (p : Stub.Provider) (root : Text) (realRoots : List Text) : View :=
  ⟨p, normalise root, realRoots, .empty⟩

/-- The name of a path below the mount root; nothing if it lies elsewhere. -/
def name? (v : View) (path : Text) : Option Text := stubName? v.root path

/-- A path of the disk that may be looked at. -/
def isVisible (v : View) (here path : Text) : Bool :=
  v.realRoots.any (isAtOrBelow · (absolute here path))

/-- Forgets what was seen of the disk. -/
def flush (v : View) : View := { v with memory := .empty }

end View

/-! ## Looking at the disk -/

namespace Look

/-- Answers with what is remembered, or else looks and remembers. -/
def remembered {α : Type} (known : Memory → List (Text × α))
    (keep : List (Text × α) → Memory → Memory) (key : Text) (look : Look α) : Look α := do
  match (known (← get).memory).lookup key with
  | some a => return a
  | none =>
    let a ← look
    modify fun v => { v with memory := keep ((key, a) :: known v.memory) v.memory }
    return a

/-- A fault of the disk becomes part of the answer; a path that no disk can have is
refused at once. -/
def attempt {α : Type} (e : Except Disk.Fault α) : Look (Except Disk.Fault α) :=
  match e with
  | .error (.noPath flaw) => throw (.disk (.noPath flaw))
  | e => return e

/-- What a path of the disk leads to. -/
def entry? (w : Workspace) (path : Text) : Look (Option Entry) :=
  remembered Memory.entries (fun es m => { m with entries := es }) path do
    return (← attempt (w.stat path)).toOption

/-- The names in a folder of the disk. -/
def diskNames (w : Workspace) (path : Text) : Look (List Text) := do
  let path := normalise path
  let names ← remembered Memory.listings (fun ls m => { m with listings := ls }) path
    (attempt (w.names path))
  names.mapError Casebook.Fault.disk

/-- The bytes of a file of the disk; what the path leads to is remembered with them. -/
def diskBytes (w : Workspace) (path : Text) : Look (List UInt8) := do
  let bytes ← remembered Memory.bytes (fun bs m => { m with bytes := bs }) path do
    let _ ← entry? w path
    attempt (w.bytes path)
  bytes.mapError Casebook.Fault.disk

/-- The path is not there. -/
def missing {α : Type} (path : Text) : Look α := throw (.disk (.refused .missing path))

/-! ## Questions -/

/-- Answers for a stub file by its name, and for a path of the disk if it may be looked at. -/
def onPath {α : Type} (w : Workspace) (path : Text) (hidden : Look α)
    (stub : Stub.Provider → Text → Look α) (real : Look α) : Look α := do
  let v ← get
  match v.name? path with
  | some name => stub v.provider name
  | none => if v.isVisible w.hereText path then real else hidden

def isFile (w : Workspace) (path : Text) : Look Bool :=
  onPath w path (pure false)
    (fun p name => return !name.isEmpty && p.isLoadable name)
    (return (← entry? w path).any Entry.isFile)

def isFolder (w : Workspace) (path : Text) : Look Bool :=
  onPath w path (pure false)
    (fun p name => return p.isFolder name)
    (return (← entry? w path).any Entry.isFolder)

/-- Whether anything is there; with `realOnly` only what the checker may read from the
disk by itself counts. -/
def exists? (w : Workspace) (path : Text) (realOnly : Bool) : Look Bool :=
  onPath w path (pure false)
    (fun p name => return !realOnly && p.hasEntry name)
    (return (← entry? w path).isSome)

/-- The names in a folder; those of stub files are in the order of the alphabet. -/
def names (w : Workspace) (path : Text) : Look (List Text) :=
  onPath w path (missing path)
    (fun p name => if p.isFolder name then return p.children name else missing path)
    (diskNames w path)

/-- A stub file that is there and cannot be read. -/
def unreadableReport (name path : Text) (trouble : Trouble) : Report :=
  ⟨"Cannot read " ++ name, [⟨path, false, some trouble.text⟩],
    ["The file was indexed but is no longer readable; rebuild the provider"]⟩

/-- A stub file that is no text. -/
def undecodableReport (name : Text) (fault : Text.Utf8Fault) : Report :=
  ⟨"Cannot decode " ++ name, [⟨name, true, some s!"utf-8 decode failed at byte {fault.offset}"⟩],
    ["Save the file as UTF-8 or set the provider encoding"]⟩

/-- What reading a stub file that the provider has goes wrong with, as a fault of the
setup. -/
def stubFault (name : Text) : Casebook.Fault → Casebook.Fault
  | .disk (.refused trouble path) => .setup (unreadableReport name path trouble)
  | .undecodable fault => .setup (undecodableReport name fault)
  | fault => fault

/-- The contents of a stub file. -/
def load (w : Workspace) (name : Text) : Look (List UInt8) := do
  let v ← get
  let (text, provider) := v.provider.load w name
  set { v with provider }
  let bytes := Text.encode? (← text.mapError (stubFault name))
  bytes.mapError Casebook.Fault.unencodable

/-- The bytes of a file. -/
def read (w : Workspace) (path : Text) : Look (List UInt8) :=
  onPath w path (missing path)
    (fun p name =>
      if p.isLoadable name then load w name else missing path)
    (diskBytes w path)

/-- The digest of a file. -/
def digest (w : Workspace) (path : Text) : Look String := do
  return Digest.sha1 (← read w path)

/-! ## Spelling -/

/-- The names in a folder; none if they cannot be had. -/
def namesOrNone (w : Workspace) (path : Text) : Look (List Text) := do
  let v ← get
  match (names w path).run v with
  | (.error (.disk (.refused _ _)), v) => set v; return []
  | (.error fault, v) => set v; throw fault
  | (.ok names, v) => set v; return names

/-- Whether each name of a path, from `start` on, is spelled as the disk spells it; `depth`
bounds how many names there are. -/
def isSpelled (w : Workspace) (start : Text) : (depth : Nat) → Text → Look Bool
  | 0, _ => return true
  | depth + 1, path =>
    onPath w path (pure false)
      (fun p name => return p.hasEntry name)
      (remembered Memory.spelledPaths (fun ps m => { m with spelledPaths := ps }) path do
        let (folder, last) := splitLast path
        if !Text.begins start folder || last.isEmpty then return true
        if (← namesOrNone w folder).contains last then isSpelled w start depth folder
        else return false)

/-- Whether something is there and its path, from `start` on, is spelled as the disk
spells it. -/
def existsCase (w : Workspace) (path start : Text) : Look Bool :=
  isSpelled w start (path.length + 1) path

/-- Whether a file is there and its path, from `start` on, is spelled as the disk spells
it. -/
def isFileCase (w : Workspace) (path start : Text) : Look Bool :=
  onPath w path (pure false)
    (fun p name => return !name.isEmpty && p.isLoadable name)
    (do
      if !(← isFile w path) then return false
      remembered Memory.spelledFiles (fun fs m => { m with spelledFiles := fs }) path do
        let (folder, last) := splitLast path
        if last.isEmpty then return false
        if (← namesOrNone w folder).contains last then existsCase w folder start
        else return false)

end Look

end Mount

end Casebook

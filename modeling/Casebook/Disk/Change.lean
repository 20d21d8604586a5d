import Casebook.Disk.Walk

/-!
# Changes of the disk

Writing files, making folders and links, and removing entries. Each change gives the
workspace after it or the fault that prevented it.
-/

namespace Casebook.Disk.Workspace

/-- The workspace with an entry put at a location. -/
def put (w : Workspace) (location : Location) (e : Entry) : Workspace :=
  { w with root := w.root.put location e }

/-- Writes a file, making it or replacing what it held. A slash behind the name of a file that is
not there asks for a folder. -/
def write (w : Workspace) (path : Text) (bytes : List UInt8) : Except Fault Workspace := do
  if Text.ends "/" path && !path.isEmpty then
    let _ ← w.locate true (⟨(path.points.reverse.dropWhile (· == Point.char '/')).reverse⟩)
    throw (.refused .isFolder path)
  let spot ← w.locate true path
  match spot.entry with
  | some (.folder _) => throw (.refused .isFolder path)
  | _ =>
    if spot.slash then throw (.refused .isFolder path)
    else return w.put spot.location (.file bytes)

/-- Puts a new entry where nothing is. -/
def make (w : Workspace) (path : Text) (e : Entry) : Except Fault Workspace := do
  let spot ← w.locate false path
  match spot.entry with
  | some _ => throw (.refused .exists path)
  | none => return w.put spot.location e

/-- Makes one folder. -/
def makeFolder (w : Workspace) (path : Text) : Except Fault Workspace :=
  w.make path (.folder [])

/-- Makes a link. -/
def makeLink (w : Workspace) (path target : Text) : Except Fault Workspace :=
  w.make path (.link target)

/-- Makes one folder unless it is there; `retry` is tried if the folder around it is
missing. -/
def ensureFolder (w : Workspace) (p : Path)
    (retry : Except Fault Workspace → Except Fault Workspace) : Except Fault Workspace :=
  match w.makeFolder p.text with
  | .ok w => .ok w
  | .error (.refused .missing path) => retry (.error (.refused .missing path))
  | .error (.noPath flaw) => .error (.noPath flaw)
  | .error fault => do
    if ← w.isFolder p.text then return w
    throw fault

/-- Makes a folder and those around it; `depth` bounds how many there are. -/
def ensureFoldersWithin : (depth : Nat) → Workspace → Path → Except Fault Workspace
  | 0, w, p => w.ensureFolder p id
  | depth + 1, w, p =>
    w.ensureFolder p fun failed =>
      if p.parent = p then failed
      else do
        let w ← ensureFoldersWithin depth w p.parent
        w.ensureFolder p id

/-- Makes a folder and those around it, as far as they are missing. -/
def ensureFolders (w : Workspace) (p : Path) : Except Fault Workspace :=
  ensureFoldersWithin p.names.length w p

/-- What is there when a folder and those around it could not all be made: folders further out
may have been made before. -/
def leftByFoldersWithin : (depth : Nat) → Workspace → Path → Workspace
  | 0, w, _ => w
  | depth + 1, w, p =>
    match w.makeFolder p.text with
    | .error (.refused .missing _) =>
      if p.parent = p then w
      else
        match ensureFoldersWithin depth w p.parent with
        | .ok w => w
        | .error _ => leftByFoldersWithin depth w p.parent
    | _ => w

/-- What is there when `ensureFolders` failed. -/
def leftByFolders (w : Workspace) (p : Path) : Workspace :=
  leftByFoldersWithin p.names.length w p

/-- Removes a file or link, or a folder with all it holds. -/
def remove (w : Workspace) (path : Text) : Except Fault Workspace := do
  let _ ← w.statLink path
  let spot ← w.locate false path
  return { w with root := w.root.erase spot.location }

end Casebook.Disk.Workspace

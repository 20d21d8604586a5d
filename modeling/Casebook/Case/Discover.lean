import Casebook.Disk.Below
import Casebook.Fault

/-!
# Finding case files

A path that is a file stands for itself. One that is a folder stands for everything below
it whose name has the suffix of case files, in the order of paths; links to folders are
not followed below it, and every folder below it has to be listed. Other paths stand for
nothing.
-/

namespace Casebook.Case

open Disk

/-- The suffix of case files. -/
def caseSuffix : String := ".typecase"

/-- The paths of case files below an entry at a path. -/
def foundBelow (path : Path) (e : Entry) : List Path :=
  pathsBelow (fun name _ => Text.ends caseSuffix name) path e

/-- The first folder below an entry at a path that cannot be listed, because its own path is
too long. -/
def unlisted? (path : Path) (e : Entry) : Option Path :=
  (pathsBelow (fun _ e => e.isFolder) path e).find? fun p => nameLength p.text > pathLimit

/-- The case files that one path stands for. -/
def discoverAt (w : Workspace) (path : Path) : Except Disk.Fault (List Path) := do
  if ← w.isFile path.text then return [path]
  else if ← w.isFolder path.text then
    let e ← w.stat path.text
    match unlisted? path e with
    | some folder => throw (.refused .nameTooLong folder.text)
    | none => return (foundBelow path e).mergeSort Path.le
  else return []

/-- The case files that paths stand for, in the order of the paths. -/
def discover (w : Workspace) (paths : List Text) : Outcome (List Path) := do
  let found ← (paths.mapM fun path => discoverAt w (Path.ofText path)).mapError Fault.disk
  return found.flatten

end Casebook.Case

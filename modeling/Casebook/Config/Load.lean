import Casebook.Config.Basic
import Casebook.Fault

/-!
# Loading a configuration

The configuration of a project is in a YAML file in its folder; without one, everything is
as usual. Its paths are relative to the folder until they are resolved; `resolve` leaves
absolute paths as they are written.
-/

namespace Casebook.Config

open Disk

/-- The names that a configuration file may have, the first that is there being taken. -/
def fileNames : List Text :=
  ["typesnap.yaml", "typesnap.yml", ".typesnap.yaml", ".typesnap.yml"]

/-- The first of some paths where something is. -/
def firstThere (w : Workspace) : List Path → Except Disk.Fault (Option Path)
  | [] => .ok none
  | p :: ps => do if ← w.exists? p.text then return some p else firstThere w ps

/-- The configuration in a file, read with so many steps under way. -/
def loadFile (w : Workspace) (steps : Nat) (path : Path) : Outcome Config := do
  let v ← w.readYaml (steps + 1) path.text
  (Config.check (if v.isEmpty then .map [] else v)).orFault modelName

/-- The configuration of a project, from the given file or else from the one in the folder
of the project. It is read with so many steps under way. -/
def load (w : Workspace) (steps : Nat) (file : Option Path) (project : Path) : Outcome Config := do
  let candidates := match file with
    | some path => [path]
    | none => fileNames.map project.below
  match ← (firstThere w candidates).mapError .disk with
  | some path => loadFile w steps path
  | none => return .usual

/-- A path of a configuration, absolute and without links. -/
def resolvePath (w : Workspace) (project : Path) (path : Text) : Outcome Text :=
  if (Path.ofText path).isAbsolute then .ok path
  else do return (← (w.real (project.below path)).mapError .noRealPath).text

/-- The configuration with all its paths absolute. -/
def resolve (w : Workspace) (project : Path) (c : Config) : Outcome Config := do
  let absolute := resolvePath w project
  let searchPaths ← c.provider.searchPaths.mapM absolute
  let files ← c.provider.files.mapM fun f => do return (f.1, ← absolute f.2)
  let casePaths ← c.casePaths.mapM absolute
  let snapshotPath ← absolute c.snapshotPath
  return { c with provider := { c.provider with searchPaths, files }, casePaths, snapshotPath }

end Casebook.Config

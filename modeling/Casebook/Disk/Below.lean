import Casebook.Disk.Path
import Casebook.Disk.Tree

/-!
# What is below a folder

The paths of entries at any depth below a folder. A link below it stands for itself, also one
that leads to a folder.
-/

namespace Casebook.Disk

/-- The path of an entry of a folder. -/
def Path.child (folder : Path) (name : Text) : Path := ⟨folder.root, folder.names ++ [name]⟩

mutual

/-- The paths of the entries below an entry at a path whose name and kind pass a test. -/
def pathsBelow (test : Text → Entry → Bool) (path : Path) : Entry → List Path
  | .file _ => []
  | .link _ => []
  | .folder children => pathsAmong test path children

/-- The paths of those among the entries of a folder at a path, and below them. -/
def pathsAmong (test : Text → Entry → Bool) (folder : Path) : List (Text × Entry) → List Path
  | [] => []
  | (name, e) :: rest =>
    let itself := if test name e then [folder.child name] else []
    itself ++ pathsBelow test (folder.child name) e ++ pathsAmong test folder rest

end

end Casebook.Disk

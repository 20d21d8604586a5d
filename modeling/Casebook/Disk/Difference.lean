import Casebook.Disk.Tree

/-!
# What is new on a disk

The entries of a tree that an older tree does not have in the same place, folders before
what is in them. Making them, in order, on the older tree gives it all that is new.
-/

namespace Casebook.Disk

mutual

/-- What is new in an entry at a location, compared with what was there. -/
def newIn (old : Option Entry) (here : Location) : Entry → List (Location × Entry)
  | .file bytes =>
    match old with
    | some (.file before) => if bytes == before then [] else [(here, .file bytes)]
    | _ => [(here, .file bytes)]
  | .link target =>
    match old with
    | some (.link before) => if target == before then [] else [(here, .link target)]
    | _ => [(here, .link target)]
  | .folder children =>
    match old with
    | some (.folder before) => newAmong before here children
    | _ => (here, .folder []) :: newAmong [] here children

/-- What is new among the entries of a folder. -/
def newAmong (old : List (Text × Entry)) (folder : Location) :
    List (Text × Entry) → List (Location × Entry)
  | [] => []
  | (name, e) :: rest =>
    newIn (old.lookup name) (folder ++ [name]) e ++ newAmong old folder rest

end

end Casebook.Disk

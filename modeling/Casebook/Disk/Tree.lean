import Casebook.Text.Point

/-!
# The tree of a disk

Files, links and folders. A folder keeps its entries in the order in which they were
made; an entry is named by its location, the names that lead to it from the root.
-/

namespace Casebook.Disk

/-- What stands under a name. -/
inductive Entry
  | file (bytes : List UInt8)
  | link (target : Text)
  | folder (children : List (Text × Entry))
deriving Repr, Inhabited

/-- The names that lead to an entry from the root. -/
abbrev Location := List Text

namespace Entry

/-- The entries of a folder; other entries have none. -/
def children : Entry → List (Text × Entry)
  | .folder cs => cs
  | _ => []

def isFolder : Entry → Bool
  | .folder _ => true
  | _ => false

def isFile : Entry → Bool
  | .file _ => true
  | _ => false

def isLink : Entry → Bool
  | .link _ => true
  | _ => false

/-- The entry of a folder with the given name. -/
def child? (e : Entry) (name : Text) : Option Entry :=
  (e.children.find? (·.1 == name)).map Prod.snd

/-- The entry at a location, links standing for themselves. -/
def at? : Entry → Location → Option Entry
  | e, [] => some e
  | e, name :: rest => (e.child? name).bind fun c => c.at? rest

/-- The entries of a folder with one put under a name. -/
def putChild (name : Text) (new : Entry) (cs : List (Text × Entry)) : List (Text × Entry) :=
  if cs.any (·.1 == name) then cs.map fun c => if c.1 == name then (name, new) else c
  else cs ++ [(name, new)]

/-- The tree with an entry put at a location whose folder is there. -/
def put : Entry → Location → Entry → Entry
  | _, [], new => new
  | .folder cs, name :: rest, new =>
    let inner := ((cs.find? (·.1 == name)).map Prod.snd).getD (.folder [])
    .folder (putChild name (inner.put rest new) cs)
  | e, _ :: _, _ => e

/-- The tree without the entry at a location. -/
def erase : Entry → Location → Entry
  | .folder cs, [name] => .folder (cs.filter (·.1 != name))
  | .folder cs, name :: rest =>
    match (cs.find? (·.1 == name)).map Prod.snd with
    | some inner => .folder (putChild name (inner.erase rest) cs)
    | none => .folder cs
  | e, _ => e

end Entry

end Casebook.Disk

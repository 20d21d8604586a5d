import Casebook.Disk.Fault
import Casebook.Disk.Path
import Casebook.Disk.Tree
import Casebook.Text.Utf8

/-!
# Following a path

From a folder a path leads name by name to a location. A link on the way is replaced by
its target, at most forty of them on one path; two dots lead to the folder around the
one that was reached, behind links and all. `advance` goes as far as the next link, and
`follow` goes on from there. `real` finds the location that a path would have without
links, also where nothing is there yet.
-/

namespace Casebook.Disk

/-- A disk, and the folder that relative paths start from. -/
structure Workspace where
  root : Entry
  here : Location
deriving Repr, Inhabited

/-- How many links one path may follow. -/
def linkLimit : Nat := 40

/-- How many bytes a name may have. -/
def nameLimit : Nat := 255

/-- How many bytes a path may have. -/
def pathLimit : Nat := 4095

/-- How many bytes a point of a name takes. A half of a surrogate pair stands for one byte. -/
def pointSize : Point → Nat
  | .char c => c.utf8Size
  | .half _ => 1

/-- How many bytes a name or path takes. -/
def nameLength (name : Text) : Nat := name.points.foldr (fun p n => n + pointSize p) 0

/-- Where a path ends: the location, what is there, and whether a slash followed. -/
structure Spot where
  location : Location
  entry : Option Entry
  slash : Bool
deriving Repr, Inhabited

/-- How far a path leads without following a link. -/
inductive Stage
  | arrived (spot : Spot)
  /-- A link in the folder at a location, and the names after it. -/
  | link (folder : Location) (target : Text) (rest : List Text)
  | refused (trouble : Trouble)

/-- Goes from a folder along names up to the next link. A link at the very end is
followed if `last` is true. Nothing but slashes may come after a name that is missing,
and nothing at all after a file. -/
def advance (root : Entry) (last : Bool) (here : Location) : List Text → Stage
  | [] => .arrived ⟨here, root.at? here, false⟩
  | name :: rest =>
    if isIdle name then advance root last here rest
    else if name = ".." then advance root last here.dropLast rest
    else if nameLength name > nameLimit then .refused .nameTooLong
    else
      match (root.at? here).bind (·.child? name) with
      | none =>
        if rest.all (· == "") then .arrived ⟨here ++ [name], none, !rest.isEmpty⟩
        else .refused .missing
      | some (.folder _) => advance root last (here ++ [name]) rest
      | some (.file bytes) =>
        if rest.isEmpty then .arrived ⟨here ++ [name], some (.file bytes), false⟩
        else .refused .notFolder
      | some (.link target) =>
        if rest.isEmpty && !last then .arrived ⟨here ++ [name], some (.link target), false⟩
        else .link here target rest

/-- Goes from a folder along names, following at most so many links. -/
def follow (root : Entry) (last : Bool) : (links : Nat) → Location → List Text →
    Except Trouble Spot
  | links, here, names =>
    match advance root last here names with
    | .arrived spot => .ok spot
    | .refused trouble => .error trouble
    | .link folder target rest =>
      match links with
      | 0 => .error .tooManyLinks
      | links + 1 =>
        let start := if rootOf target = .relative then folder else []
        follow root last links start (Text.split '/' target ++ rest)

namespace Workspace

/-- Finds where a path ends; `last` says whether a link at its end is followed. -/
def locate (w : Workspace) (last : Bool) (path : Text) : Except Fault Spot :=
  match PathFlaw.ofText? path with
  | some flaw => .error (.noPath flaw)
  | none =>
    let found :=
      if path.isEmpty then .error .missing
      else if nameLength path > pathLimit then .error .nameTooLong
      else
        let start := if rootOf path = .relative then w.here else []
        follow w.root last linkLimit start (Text.split '/' path)
    found.mapError (.refused · path)

/-- What a path leads to, links followed. -/
def stat (w : Workspace) (path : Text) : Except Fault Entry := do
  match (← w.locate true path).entry with
  | some e => return e
  | none => throw (.refused .missing path)

/-- What a path leads to; a link at its end stands for itself. -/
def statLink (w : Workspace) (path : Text) : Except Fault Entry := do
  match (← w.locate false path).entry with
  | some e => return e
  | none => throw (.refused .missing path)

/-- A test of what a path leads to; it answers no where nothing is, and for a path that no
disk can have. -/
def test (w : Workspace) (p : Entry → Bool) (path : Text) : Except Fault Bool :=
  match w.stat path with
  | .ok e => .ok (p e)
  | .error (.noPath _) => .ok false
  | .error (.refused t path) => if t.isAbsence then .ok false else .error (.refused t path)

def exists? (w : Workspace) (path : Text) : Except Fault Bool := w.test (fun _ => true) path

def isFile (w : Workspace) (path : Text) : Except Fault Bool := w.test Entry.isFile path

def isFolder (w : Workspace) (path : Text) : Except Fault Bool := w.test Entry.isFolder path

/-- The bytes of a file. -/
def bytes (w : Workspace) (path : Text) : Except Fault (List UInt8) := do
  match ← w.stat path with
  | .file bytes => return bytes
  | _ => throw (.refused .isFolder path)

/-- The names in a folder, in no particular order. -/
def names (w : Workspace) (path : Text) : Except Fault (List Text) := do
  match ← w.stat path with
  | .folder children => return children.map Prod.fst
  | _ => throw (.refused .notFolder path)

/-- The text of the folder that relative paths start from. -/
def hereText (w : Workspace) : Text := "/" ++ Text.joined "/" w.here

end Workspace

end Casebook.Disk

import Casebook.Disk.Walk

/-!
# Real locations

The location that a path leads to when every link on it is replaced, also where nothing
is there yet: what is missing is no link and stays as it is written. A link that leads
back to itself is left in place, and following the path then fails.
-/

namespace Casebook.Disk

/-- Settles names one by one below a location. `link` settles a link, given its own
location, its folder and its target, and says whether it succeeded; after a failure the
other names are left as they are. -/
def settleNames (root : Entry) (link : Location → Location → Text → Location × Bool)
    (here : Location) : List Text → Location × Bool
  | [] => (here, true)
  | name :: rest =>
    if isIdle name then settleNames root link here rest
    else if name = ".." then settleNames root link here.dropLast rest
    else
      match root.at? (here ++ [name]) with
      | some (.link target) =>
        match link (here ++ [name]) here target with
        | (there, true) => settleNames root link there rest
        | (there, false) => (there ++ rest, false)
      | _ => settleNames root link (here ++ [name]) rest

/-- Settles names below a location; `opened` are the links that are being settled, and
`depth` bounds how many there may be. -/
def settle (root : Entry) : (depth : Nat) → (opened : List Location) → Location →
    List Text → Location × Bool
  | 0, _, here, names => settleNames root (fun link _ _ => (link, false)) here names
  | depth + 1, opened, here, names =>
    settleNames root
      (fun link folder target =>
        if opened.contains link then (link, false)
        else
          let start := if rootOf target = .relative then folder else []
          settle root depth (link :: opened) start (Text.split '/' target))
      here names

mutual

/-- How many links a tree holds. -/
def Entry.linkCount : Entry → Nat
  | .file _ => 0
  | .link _ => 1
  | .folder children => linkCounts children

def linkCounts : List (Text × Entry) → Nat
  | [] => 0
  | (_, e) :: rest => e.linkCount + linkCounts rest

end

/-- A path that has no real location. -/
inductive RealFault
  | noPath (flaw : PathFlaw)
  | loop (path : Text)
deriving Repr, DecidableEq

/-- The text reported for a path without a real location. -/
def RealFault.message : RealFault → String
  | .noPath flaw => flaw.message
  | .loop path => s!"Symlink loop from {Text.quoted path}"

/-- A name that a file can have. -/
def isPossible (name : Text) : Bool := (PathFlaw.ofText? name).isNone

/-- The absolute path, free of links and dots, that a path leads to. Names are settled up to the
first that no file can have; it is refused below the location that was reached. -/
def Workspace.real (w : Workspace) (p : Path) : Except RealFault Path :=
  let start := if p.isAbsolute then [] else w.here
  let possible := p.names.takeWhile isPossible
  let others := p.names.drop possible.length
  let (names, settled) := settle w.root (w.root.linkCount + 1) [] start possible
  let found := (Path.mk .slash (names ++ if settled then others.take 1 else others)).collapsed
  match w.locate true found.text with
  | .error (.noPath flaw) => .error (.noPath flaw)
  | .error (.refused .tooManyLinks _) => .error (.loop found.text)
  | _ => .ok found

end Casebook.Disk

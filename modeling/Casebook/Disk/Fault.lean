import Casebook.Text.HalfRun
import Casebook.Text.Quoted

/-!
# Faults of the disk

Why a path could not be followed, read or changed. A fault has a number, a short text,
and the path as it was given.
-/

namespace Casebook.Disk

/-- Why the disk refused. -/
inductive Trouble
  | missing
  | exists
  | notFolder
  | isFolder
  | nameTooLong
  | tooManyLinks
deriving Repr, DecidableEq

def Trouble.number : Trouble → Nat
  | .missing => 2
  | .exists => 17
  | .notFolder => 20
  | .isFolder => 21
  | .nameTooLong => 36
  | .tooManyLinks => 40

def Trouble.text : Trouble → String
  | .missing => "No such file or directory"
  | .exists => "File exists"
  | .notFolder => "Not a directory"
  | .isFolder => "Is a directory"
  | .nameTooLong => "File name too long"
  | .tooManyLinks => "Too many levels of symbolic links"

/-- A trouble that only says that nothing is there; a test for existence answers no. -/
def Trouble.isAbsence : Trouble → Bool
  | .missing | .notFolder | .tooManyLinks => true
  | _ => false

/-- Why no disk can have a path. -/
inductive PathFlaw
  /-- There are halves of surrogate pairs in it that stand for no byte. -/
  | halves (run : Text.HalfRun)
  | null
deriving Repr, DecidableEq

/-- Why no disk can have the path that a text writes. -/
def PathFlaw.ofText? (path : Text) : Option PathFlaw :=
  match Text.firstRun? Half.isRawByte 0 path.points with
  | some run => some (.halves run)
  | none => if path.points.contains '\x00' then some .null else none

/-- The text reported for a path that no disk can have. -/
def PathFlaw.message : PathFlaw → String
  | .halves run => run.message
  | .null => "embedded null byte"

/-- A path that the disk refused, or that no disk can have. -/
inductive Fault
  | refused (trouble : Trouble) (path : Text)
  | noPath (flaw : PathFlaw)
deriving Repr, DecidableEq

/-- The text reported for a fault. -/
def Fault.message : Fault → String
  | .refused t path => s!"[Errno {t.number}] {t.text}: {Text.quoted path}"
  | .noPath flaw => flaw.message

end Casebook.Disk

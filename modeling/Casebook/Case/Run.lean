import Casebook.Case.Basic
import Casebook.Checker.Frontend
import Casebook.Sequence.Patch
import Casebook.Snapshot.Store

/-!
# Running cases

A case is compiled with the stub files at hand, or with a fork of them if it brings files
of its own. The lines of the result are compared with what the case expects, or else with
what was accepted before. A broken setup makes an error of one case, and the run goes on;
any other fault ends it.
-/

namespace Casebook.Case

/-- How a case ended. -/
inductive Status
  | passed
  | failed
  /-- The case could not be compiled. -/
  | error
deriving Repr, DecidableEq

def Status.name : Status → String
  | .passed => "passed"
  | .failed => "failed"
  | .error => "error"

/-- The status of a name. -/
def Status.ofName (name : Text) : Outcome Status :=
  match [Status.passed, .failed, .error].find? fun s => name = s.name with
  | some s => .ok s
  | none => .error (.badStatus name)

/-- The result of one case. -/
structure Verdict where
  name : Text
  status : Status
  /-- What went wrong. -/
  message : Option Text
  /-- The lines that were reported. -/
  lines : List Text
  /-- What the compilation gave; nothing if the case could not be compiled. -/
  result : Option CompileResult
  /-- Why the case could not be compiled. -/
  fault : Option Casebook.Fault

/-- What a run works with and changes: the stub files, and what was accepted before. -/
structure Bench where
  provider : Stub.Provider
  accepted : Option Snapshot.Store

/-- How a source is compiled with the stub files of a provider. -/
abbrev Compiler := Disk.Workspace → Stub.Provider → Text → Checker.Compilation

/-- What is reported for lines other than the expected ones. -/
def mismatch (expected lines : List Text) : Text :=
  "Output mismatch:\n" ++ Sequence.patchText expected lines

/-- Compares the lines of a case with what it expects, or else with what was accepted. The
answer is a mismatch, or nothing. -/
def judge (c : CaseSpec) (lines : List Text) (accepted : Option Snapshot.Store) :
    Outcome (Option Text × Option Snapshot.Store) :=
  match c.expected, accepted with
  | some expected, _ =>
    .ok (if lines = expected then none else some (mismatch expected lines), accepted)
  | none, some store => do
    let (mismatch, store) ← store.check c.name lines
    return (mismatch, some store)
  | none, none => .ok (none, none)

/-- The verdict on a case that was compiled. -/
def Verdict.ofResult (c : CaseSpec) (r : CompileResult) (mismatch : Option Text) : Verdict :=
  let status := if mismatch.isNone then Status.passed else .failed
  ⟨c.name, status, mismatch, r.lines, some r, none⟩

/-- The verdict on a case that could not be compiled because of the setup; other faults are
no verdict. -/
def Verdict.ofFault (c : CaseSpec) (fault : Casebook.Fault) : Outcome Verdict :=
  match fault.setupName? with
  | some name => .ok ⟨c.name, .error, some (name ++ ": " ++ fault.message), [], none, some fault⟩
  | none => .error fault

/-- Runs one case. Files of its own go into a fork, and the provider does not change. -/
def run (compile : Compiler) (w : Disk.Workspace) (c : CaseSpec) (b : Bench) :
    Outcome Verdict × Bench :=
  let own := if c.files.isEmpty then .ok b.provider else b.provider.fork.addAll c.files
  match own with
  | .error fault => (.error fault, b)
  | .ok provider =>
    let done := compile w provider c.source
    let b := if c.files.isEmpty then { b with provider := done.provider } else b
    match done.result with
    | .error fault => (Verdict.ofFault c fault, b)
    | .ok result =>
      match judge c result.lines b.accepted with
      | .error fault => (.error fault, b)
      | .ok (mismatch, accepted) => (.ok (.ofResult c result mismatch), { b with accepted })

/-- Runs cases in order, one after the other. -/
def runAll (compile : Compiler) (w : Disk.Workspace) :
    List CaseSpec → Bench → Outcome (List Verdict) × Bench
  | [], b => (.ok [], b)
  | c :: cs, b =>
    match run compile w c b with
    | (.error fault, b) => (.error fault, b)
    | (.ok v, b) =>
      let (vs, b) := runAll compile w cs b
      (vs.map (v :: ·), b)

end Casebook.Case

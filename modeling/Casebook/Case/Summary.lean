import Casebook.Case.Run

/-!
# Summary of a run

One line for each case, with what went wrong below it, and at the end how many cases
passed, failed, or could not be compiled.
-/

namespace Casebook.Case

/-- The sign in front of a case. -/
def Status.sign : Status → String
  | .passed => "✓"
  | .failed => "✗"
  | .error => "!"

/-- Lines below the line of a case. -/
def indented (lines : List Text) : Text :=
  "\n" ++ Text.joined "\n" (lines.map fun line => "      " ++ line)

/-- What stands below a case: the lines of one that passed if `verbose` is set, and the
message of any other. -/
def Verdict.details (verbose : Bool) (v : Verdict) : Text :=
  match v.status with
  | .passed => if verbose && !v.lines.isEmpty then indented v.lines else ""
  | .failed | .error =>
    match v.message with
    | some m => if m.isEmpty then "" else indented (Text.split '\n' m)
    | none => ""

/-- The line of a case, and what stands below it. -/
def Verdict.line (verbose : Bool) (v : Verdict) : Text :=
  s!"  {v.status.sign} " ++ v.name ++ v.details verbose

/-- How many cases ended so. -/
def count (s : Status) (vs : List Verdict) : Nat := vs.countP (·.status == s)

/-- The counts of a run. -/
def tally (vs : List Verdict) : String :=
  s!"{count .passed vs} passed, {count .failed vs} failed, {count .error vs} errors " ++
    s!"({vs.length} total)"

/-- The summary of a run. -/
def summary (verbose : Bool) (vs : List Verdict) : Text :=
  Text.joined "\n" (vs.map (Verdict.line verbose)) ++ "\n" ++ tally vs

end Casebook.Case

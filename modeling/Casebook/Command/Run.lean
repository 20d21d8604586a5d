import Casebook.Case.Discover
import Casebook.Case.Load
import Casebook.Case.Summary
import Casebook.Command.Project

/-!
# Running case files

The command `run`: it finds the case files, runs their cases in order, writes the accepted
results if they changed, and shows a summary. It succeeds only if every case passed. The
accepted results are written once, after the last case.
-/

namespace Casebook.Command

open Disk

def updateFlag : Flag := ⟨"--update", some 'u', .switch⟩

def verboseFlag : Flag := ⟨"--verbose", some 'v', .switch⟩

def runForm : Form :=
  ⟨"run", [projectFlag, configFlag, updateFlag, verboseFlag, debugFlag],
    some ⟨"PATHS", true, false⟩⟩

/-- The cases in a file. A file that cannot be loaded ends the command. -/
def loadFile (file : Path) : Act CaseDocument := do
  match CaseDocument.load (← get).disk Depth.command file with
  | .ok d => return d
  | .error f =>
    Act.say ("[red]Error loading " ++ file.text ++ ":[/red] " ++ f.message)
    Act.exit 1

/-- Runs the cases of files, one file after the other. -/
def runFiles (compile : Case.Compiler) : List Path → Case.Bench →
    Act (List Case.Verdict × Case.Bench)
  | [], b => return ([], b)
  | file :: files, b => do
    let d ← loadFile file
    Act.say (s!"[dim]Running {d.cases.length} case(s) from " ++ file.text ++ "[/dim]")
    let (verdicts, b) := Case.runAll compile (← get).disk d.cases b
    let vs ← Act.orStop verdicts
    let (ws, b) ← runFiles compile files b
    return (vs ++ ws, b)

/-- Writes the accepted results if they changed. -/
def saveAccepted : Option Snapshot.Store → Act Unit
  | none => return ()
  | some store => do
    let (written, _, disk) := store.save (← get).disk Depth.command
    modify fun s => { s with disk }
    if ← Act.orStop written then
      Act.say ("[dim]Snapshots written to " ++ store.path.text ++ "[/dim]")

/-- Shows the summary of verdicts. -/
def showSummary (verbose : Bool) (vs : List Case.Verdict) : Act Unit := do
  let clean := vs.all (·.status == .passed)
  let title := if clean then "Cases Passed" else "Cases Failed"
  Act.display (Console.panel title (Case.summary verbose vs))
  if !clean then Act.exit 1

/-- The command `run`. -/
def run (build : Checker.Build) (g : Given) : Act Unit := do
  let p ← orReport (Project.load (← get).disk g)
  let words := g.words.map fun word => (Path.ofText word).text
  let places := if words.isEmpty then p.config.casePaths else words
  let files ← Act.orStop (Case.discover (← get).disk places)
  if files.isEmpty then
    Act.say "[yellow]No case files found[/yellow]"
    Act.exit 1
  let store ← Act.orStop (Snapshot.Store.load (← get).disk Depth.command (Path.ofText p.config.snapshotPath)
    (g.has updateFlag.long))
  let (vs, b) ← runFiles (p.frontend.compile build) files ⟨p.provider, some store⟩
  saveAccepted b.accepted
  showSummary (g.has verboseFlag.long) vs

end Casebook.Command

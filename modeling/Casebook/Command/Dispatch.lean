import Casebook.Command.Run
import Casebook.Command.Settings
import Casebook.Command.Snippet

/-!
# Command line

The first word of the command line names a command, and the rest are its arguments.
Arguments that are refused end the command line with a text about its usage.
-/

namespace Casebook.Command

open Disk

/-- The name of the program on the command line. -/
def programName : String := "cli"

def versionFlag : Flag := ⟨"--version", none, .switch⟩

/-- What stands before the name of a command. -/
def outerForm : Form := ⟨"", [versionFlag], none⟩

def versionText : String := "typesnap, version 0.1.0"

/-- A command: what it takes, and what it does. -/
structure Entry where
  form : Form
  act : Given → Act Unit

/-- All commands. -/
def entries (build : Checker.Build) : List Entry :=
  [⟨runForm, run build⟩, ⟨checkForm, check build⟩, ⟨compileForm, compile⟩,
    ⟨initForm, fun _ => init⟩, ⟨configForm, config⟩]

/-- The words that a command is called with. -/
def Form.call (f : Form) : String := s!"{programName} {f.name}"

/-- How a command is used. -/
def Form.usage (f : Form) : String :=
  s!"Usage: {f.call} [OPTIONS]" ++ (f.positional.map fun p => " " ++ p.shown).getD ""

def outerUsage : String := s!"Usage: {programName} [OPTIONS] COMMAND [ARGS]..."

/-- Reports a fault of usage. -/
def refuse {α : Type} (usage call : String) (fault : UsageFault) : Act α := do
  if !fault.isOfFlag then Act.write s!"{usage}\nTry '{call} --help' for help.\n\n"
  Act.echo ("Error: " ++ fault.message)
  Act.exit 2

def Form.refuse {α : Type} (f : Form) (fault : UsageFault) : Act α :=
  Command.refuse f.usage f.call fault

def refuseOuter {α : Type} (fault : UsageFault) : Act α :=
  refuse outerUsage programName fault

/-- Carries out a command with arguments. -/
def Entry.run (e : Entry) (arguments : List Text) : Act Unit := do
  match readArguments e.form arguments with
  | .error fault => e.form.refuse fault
  | .ok g =>
    if g.has helpFlag.long then Act.echo e.form.usage
    else
      match checkArguments (← get).disk e.form g with
      | .error (.usage fault) => e.form.refuse fault
      | .error (.disk fault) => throw (.fault (.disk fault))
      | .ok () => e.act g

/-- The flags before the name of the command, and the rest of the command line. -/
def outerArguments : List Text → List Text × List Text
  | [] => ([], [])
  | arg :: rest =>
    if arg = "--" then ([], rest)
    else if isFlag arg then
      let (flags, rest) := outerArguments rest
      (arg :: flags, rest)
    else ([], arg :: rest)

/-- Reads the flags before the name of the command, of which each ends the command line; the
rest of the arguments is returned. -/
def readOuter (arguments : List Text) : Act (List Text) := do
  let (flags, rest) := outerArguments arguments
  match readArguments outerForm flags with
  | .error fault => refuseOuter fault
  | .ok g =>
    if g.has versionFlag.long then
      Act.echo versionText
      Act.exit 0
    else if g.has helpFlag.long then
      Act.echo outerUsage
      Act.exit 0
    else return rest

/-- Calls the command of a name. A name that no command has may be a flag, which two dashes
kept from being read. -/
def call (build : Checker.Build) (name : Text) (arguments : List Text) : Act Unit := do
  let all := entries build
  match all.find? fun e => name = e.form.name with
  | some e => e.run arguments
  | none =>
    discard <| readOuter (name :: arguments)
    let names := all.map fun e => Text.ofString e.form.name
    refuseOuter (.noSuchCommand name (Sequence.similarNames name names Sequence.suggestionLimit))

/-- Carries out a command line. -/
def commandLine (build : Checker.Build) (arguments : List Text) : Act Unit := do
  match ← readOuter arguments with
  | name :: arguments => call build name arguments
  | [] =>
    if arguments.isEmpty then
      Act.echo outerUsage
      Act.exit 2
    else refuseOuter .noCommand

end Casebook.Command

import Casebook.Checker.Frontend
import Casebook.Command.Arguments
import Casebook.Command.Shell
import Casebook.Config.Load

/-!
# Project of a command

Most commands work on a project: a folder, its configuration with all paths absolute, the
stub files that it names, and a frontend for the checker.
-/

namespace Casebook.Command

open Disk

structure Project where
  config : Config
  provider : Stub.Provider
  frontend : Checker.Frontend

def projectFlag : Flag := ⟨"--project", some 'p', .existing⟩

def configFlag : Flag := ⟨"--config", some 'c', .existing⟩

/-- Accepted for the log that it would switch on. -/
def debugFlag : Flag := ⟨"--debug", none, .switch⟩

/-- The folder of the project: the one that was given, or the one at hand. -/
def projectFolder (w : Workspace) (g : Given) : Path :=
  (g.path? projectFlag.long).getD (Path.ofText w.hereText)

/-- Loads the project that arguments name. -/
def Project.load (w : Workspace) (g : Given) : Outcome Project := do
  let folder := projectFolder w g
  let config ← Config.resolve w folder (← Config.load w (Depth.command + 1) (g.path? configFlag.long) folder)
  let provider ← Stub.Provider.ofConfig w config.provider
  let frontend ← Checker.Frontend.make config.checker Mount.defaultRoot
  return ⟨config, provider, frontend⟩

/-- What can fail because of a broken setup; that is reported, and ends the command. -/
def orReport {α : Type} (o : Outcome α) : Act α :=
  match o with
  | .error (.setup r) => do
    Act.say ("[red]Configuration error:[/red] " ++ r.render)
    Act.exit 1
  | o => Act.orStop o

end Casebook.Command

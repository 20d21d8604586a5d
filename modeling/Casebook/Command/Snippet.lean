import Casebook.Case.Load
import Casebook.Command.Project
import Casebook.Json.Writer

/-!
# Single files

The commands for one file: `check` compiles a snippet and shows its diagnostics, and
`compile` reads a case file and writes it as JSON.
-/

namespace Casebook.Command

open Disk

def jsonFlag : Flag := ⟨"--json", none, .switch⟩

def checkForm : Form :=
  ⟨"check", [projectFlag, configFlag, jsonFlag, debugFlag], some ⟨"SNIPPET", false, true⟩⟩

/-- The one word of a command that takes one. -/
def fileOf (g : Given) : Path := Path.ofText (g.words.headD "")

/-- Compiles the snippet that arguments name. -/
def compileSnippet (build : Checker.Build) (w : Workspace) (g : Given) :
    Outcome CompileResult := do
  let p ← Project.load w g
  let source ← w.readChars (fileOf g).text
  (p.frontend.compile build w p.provider (.ofChars source)).result

/-- The command `check`. It succeeds if no error was reported. -/
def check (build : Checker.Build) (g : Given) : Act Unit := do
  let r ← orReport (compileSnippet build (← get).disk g)
  if g.has jsonFlag.long then Act.echo (← Act.orStop ((Json.pretty 0 r.toValue).mapError .unwritable))
  else if r.diagnostics.isEmpty then Act.say "[green]✓[/green] No diagnostics"
  else r.lines.forM Act.echo
  if !r.isClean then Act.exit 1

def outputFlag : Flag := ⟨"--output", some 'o', .path⟩

def compileForm : Form := ⟨"compile", [outputFlag], some ⟨"PATH", false, true⟩⟩

/-- The cases in a case file as JSON. -/
def caseFileAsJson (w : Workspace) (file : Path) : Outcome String := do
  (Json.pretty 0 (← CaseDocument.loadCaseFile w file).toValue).mapError .unwritable

/-- The command `compile`. -/
def compile (g : Given) : Act Unit := do
  match caseFileAsJson (← get).disk (fileOf g) with
  | .error f =>
    Act.say ("[red]Parse error:[/red] " ++ f.message)
    Act.exit 1
  | .ok json =>
    match g.path? outputFlag.long with
    | none => Act.echo json
    | some file =>
      Act.change fun w => w.write file.text (Text.utf8 json)
      Act.say ("[green]✓[/green] Compiled to " ++ file.text)

end Casebook.Command

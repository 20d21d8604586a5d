import Casebook.Command.Project
import Casebook.Json.Writer

/-!
# Settings of a project

The commands around the configuration: `init` sets up a project in the folder at hand, and
`config` shows the configuration in force.
-/

namespace Casebook.Command

open Disk

def initForm : Form := ⟨"init", [], none⟩

/-- The folders of a new project. -/
def initialFolders : List Text := ["stubs", "typecases"]

/-- The configuration file of a new project. -/
def initialConfig : String :=
  "# typesnap configuration
version: \"0.1\"

provider:
  # Directories scanned for .pyi stub files (later directories win on name clashes)
  search_paths:
    - stubs

  # Synthetic files: module file name -> file to read its contents from
  # files:
  #   my_library.pyi: src/my_library/__init__.pyi

checker:
  # Target Python version (defaults to the running interpreter)
  # python_version: \"3.12\"

  # Keep mypy notes in the collected diagnostics
  # include_notes: true

  # Extra mypy options
  # options:
  #   disallow_untyped_defs: true

# Directories to search for .typecase files
# case_paths:
#   - typecases

# Snapshots for cases without an [out] section
# snapshot_path: typecases/__snapshots__/snapshots.yaml
"

/-- Makes a folder of a new project. -/
def initFolder (here : Path) (name : Text) : Act Unit := do
  Act.change fun w => w.ensureFolders (here.below name)
  Act.say ("[green]✓[/green] Created " ++ name ++ "/")

/-- The command `init`. What is there already stays as it is. -/
def init : Act Unit := do
  let here := Path.ofText (← get).disk.hereText
  initialFolders.forM (initFolder here)
  let name := Config.fileNames.headD ""
  let file := here.below name
  if ← Act.orStop (((← get).disk.exists? file.text).mapError .disk) then
    Act.say ("[yellow]-[/yellow] " ++ name ++ " already exists")
  else
    Act.change fun w => w.write file.text (Text.utf8 initialConfig)
    Act.say ("[green]✓[/green] Created " ++ name)
  Act.say "\n[dim]typesnap initialized. Add stubs to stubs/ and cases to typecases/[/dim]"

def configForm : Form := ⟨"config", [projectFlag], none⟩

/-- The command `config`. -/
def config (g : Given) : Act Unit := do
  let w := (← get).disk
  let c ← Act.orStop (Config.load w Depth.command none (projectFolder w g))
  let json ← Act.orStop ((Json.pretty Config.fixedDepth c.toValue).mapError .unwritable)
  Act.display (Console.panel "typesnap Config" json)

end Casebook.Command

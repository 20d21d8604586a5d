import Casebook.Schema.Basic

/-!
# Configuration

What a project may set: where stub files are found, how the checker is run, where the
cases and the accepted results are kept. Everything has a usual value.
-/

namespace Casebook

open Schema

/-- The suffix of stub files. -/
def stubSuffix : String := ".pyi"

/-- Where stub files are found. -/
structure ProviderConfig where
  /-- Folders of stub files; a later one wins. -/
  searchPaths : List Text
  /-- Names of single files, and the paths that their contents are read from. -/
  files : List (Text × Text)
  suffix : Text
deriving Repr, DecidableEq

/-- How the checker is run. -/
structure CheckerConfig where
  /-- The version of the language to check for. -/
  version : Option Text
  /-- The name under which the snippet is reported. -/
  entryName : Text
  /-- Notes are kept. -/
  includeNotes : Bool
  /-- Further options by name. -/
  options : List (Text × Value)
deriving Repr

structure Config where
  version : Text
  provider : ProviderConfig
  checker : CheckerConfig
  casePaths : List Text
  snapshotPath : Text
deriving Repr

def ProviderConfig.usual : ProviderConfig := ⟨["stubs"], [], stubSuffix⟩

def CheckerConfig.usual : CheckerConfig := ⟨none, "main", true, []⟩

def Config.usual : Config :=
  ⟨"0.1", .usual, .usual, ["typecases"], "typecases/__snapshots__/snapshots.yaml"⟩

/-- One path alone stands for a list of it. -/
def paths : Check (List Text)
  | .text t => .good [t]
  | v => list text v

/-- A major version of three, a point, and digits of any script. -/
def isVersion (t : Text) : Bool :=
  match t.points with
  | .char '3' :: .char '.' :: digits => !digits.isEmpty && digits.all (Point.passes Text.isDigit)
  | _ => false

/-- A version, or a number whose text is one. -/
def versionText : Check (Option Text)
  | .null => .good none
  | v =>
    match v.shown? Value.display with
    | .error huge => .flaw (.rule huge.message) v
    | .ok t =>
      if isVersion t then .good (some t)
      else .flaw (.rule s!"python_version must look like '3.N', got {t.quoted}") v

def ProviderConfig.check : Check ProviderConfig :=
  model "ProviderConfig" fun v =>
    ProviderConfig.mk
      <$> fieldOr "search_paths" paths ProviderConfig.usual.searchPaths v
      <*> fieldOr "files" (map text) [] v
      <*> fieldOr "suffix" text stubSuffix v

def CheckerConfig.check : Check CheckerConfig :=
  model "CheckerConfig" fun v =>
    CheckerConfig.mk
      <$> fieldOr "python_version" versionText none v
      <*> fieldOr "entry_name" text CheckerConfig.usual.entryName v
      <*> fieldOr "include_notes" truth true v
      <*> fieldOr "options" (map any) [] v

/-- The name of the model of configurations. -/
def Config.modelName : String := "TypesnapConfig"

def Config.check : Check Config :=
  model Config.modelName fun v =>
    Config.mk
      <$> fieldOr "version" text Config.usual.version v
      <*> fieldOr "provider" ProviderConfig.check .usual v
      <*> fieldOr "checker" CheckerConfig.check .usual v
      <*> fieldOr "case_paths" paths Config.usual.casePaths v
      <*> fieldOr "snapshot_path" text Config.usual.snapshotPath v

/-- The configuration of a provider as a document value, fields in their order. -/
def ProviderConfig.toValue (c : ProviderConfig) : Value :=
  .map [(.text "search_paths", .list (c.searchPaths.map Value.text)),
    (.text "files", .map (c.files.map fun f => (.text f.1, .text f.2))),
    (.text "suffix", .text c.suffix)]

/-- The configuration of the checker as a document value, fields in their order. -/
def CheckerConfig.toValue (c : CheckerConfig) : Value :=
  .map [(.text "python_version", (c.version.map Value.text).getD .null),
    (.text "entry_name", .text c.entryName), (.text "include_notes", .bool c.includeNotes),
    (.text "options", .map (c.options.map fun o => (.text o.1, o.2)))]

/-- The maps around the value of an option in the configuration of the checker. -/
def CheckerConfig.fixedDepth : Nat := 2

/-- The configuration as a document value, fields in their order. -/
def Config.toValue (c : Config) : Value :=
  .map [(.text "version", .text c.version), (.text "provider", c.provider.toValue),
    (.text "checker", c.checker.toValue),
    (.text "case_paths", .list (c.casePaths.map Value.text)),
    (.text "snapshot_path", .text c.snapshotPath)]

/-- The maps around the value of an option in a configuration. -/
def Config.fixedDepth : Nat := CheckerConfig.fixedDepth + 1

end Casebook

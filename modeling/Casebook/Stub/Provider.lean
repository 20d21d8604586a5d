import Casebook.Config.Basic
import Casebook.Stub.Contents

/-!
# Providers of stub files

A provider has an index of stub files and their contents as far as they are known. Files
can be added by hand; such a file hides one on disk of the same name. A fork starts from
what its provider knows and goes its own way from there.
-/

namespace Casebook.Stub

open Disk

structure Provider where
  suffix : Text
  index : Index
  contents : Contents
deriving Repr, DecidableEq

namespace Provider

/-- The provider of the files in some folders. -/
def ofFolders (w : Workspace) (suffix : Text) (folders : List Path) : Outcome Provider := do
  return ⟨suffix, ← Index.build w suffix folders, .empty⟩

/-- Whether the contents of a name can be loaded. -/
def isLoadable (p : Provider) (name : Text) : Bool := p.index.has name

def names (p : Provider) : List Text := p.index.names

/-- The contents of a name, and the provider that knows them from now on. -/
def load (p : Provider) (w : Workspace) (name : Text) : Outcome Text × Provider :=
  let (text, contents) := p.contents.get p.index w name
  (text, { p with contents })

/-- The provider with a file put into it by hand. -/
def put (p : Provider) (name text : Text) : Provider :=
  { p with index := p.index.register name, contents := p.contents.put name text }

/-- Adds a file by hand; its name must not be empty. -/
def add (p : Provider) (name text : Text) : Outcome Provider :=
  if name.isEmpty then .error (.badFileName (.text name)) else .ok (p.put name text)

/-- Adds a file by hand whose name and contents may be anything; both must be texts. -/
def addValue (p : Provider) (name contents : Value) : Outcome Provider :=
  match name, contents with
  | .text name, .text text => p.add name text
  | .text name, contents =>
    .error (if name.isEmpty then .badFileName (.text name) else .badContents name contents)
  | name, _ => .error (.badFileName name)

/-- Adds files by hand, in order. -/
def addAll (p : Provider) (files : List (Text × Text)) : Outcome Provider :=
  files.foldlM (fun p f => p.add f.1 f.2) p

/-- A provider that starts from the same files. -/
def fork (p : Provider) : Provider := { p with contents := p.contents.copy }

/-- A configured file that could not be read. -/
def fileReport (name source : Text) (trouble : Trouble) : Report :=
  ⟨s!"Cannot read configured file {name.quoted}", [⟨source, false, some trouble.text⟩], []⟩

/-- The name and text of a configured file. -/
def readConfigured (w : Workspace) (file : Text × Text) : Outcome (Text × Text) :=
  match w.readChars (Path.ofText file.2).text with
  | .ok chars => .ok (file.1, .ofChars chars)
  | .error (.disk (.refused trouble _)) => .error (.setup (fileReport file.1 file.2 trouble))
  | .error fault => .error fault

/-- The provider that a configuration asks for. Configured files are read at once. -/
def ofConfig (w : Workspace) (c : ProviderConfig) : Outcome Provider := do
  let files ← c.files.mapM (readConfigured w)
  let p ← ofFolders w c.suffix (c.searchPaths.map Path.ofText)
  p.addAll files

end Provider

end Casebook.Stub

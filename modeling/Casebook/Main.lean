import Casebook.Checker.Script
import Casebook.Command.Dispatch
import Casebook.Disk.Difference

/-!
# Program

Reads the folder at hand, and the places that absolute arguments name, into a disk of the
library; carries out the command line with the scripted checker; writes what is new back,
and prints the output.
-/

namespace Casebook.Program

open Disk

/-- How deep folders are read. -/
def depthLimit : Nat := 64

/-- Reads what is at a path; `depth` bounds how deep folders are read. -/
def readEntry (depth : Nat) (path : String) : IO Entry := do
  let here ← IO.FS.realPath path
  if !(← here.isDir) then return .file (← IO.FS.readBinFile here).toList
  match depth with
  | 0 => return .folder []
  | depth + 1 =>
    let children ← (← here.readDir).toList.mapM fun e => do
      if (← e.path.symlinkMetadata).type == .symlink then
        return (Text.ofString e.fileName, Entry.link (← IO.FS.realPath e.path).toString)
      return (Text.ofString e.fileName, ← readEntry depth e.path.toString)
    return .folder children

/-- The tree with folders down to a location, and an entry there. -/
def plant (root : Entry) (location : Location) (e : Entry) : Entry :=
  let steps := (List.range location.length).map location.take
  let withFolders := steps.foldl
    (fun t l => if (t.at? l).isSome then t else t.put l (.folder [])) root
  withFolders.put location e

/-- Adds what is at a path to a disk. -/
def addPlace (root : Entry) (path : String) : IO Entry := do
  try return plant root (namesOf path) (← readEntry depthLimit path)
  catch _ => return root

/-- Shows a text. What is no character is left out. -/
def shown (t : Text) : String := String.ofList (t.points.filterMap Point.char?)

/-- Writes a new entry. -/
def writeEntry (change : Location × Entry) : IO Unit := do
  let path := shown ("/" ++ Text.joined "/" change.1)
  match change.2 with
  | .file bytes => IO.FS.writeBinFile path ⟨bytes.toArray⟩
  | .folder _ => IO.FS.createDirAll path
  | .link _ => return ()

/-- Carries out a command line; the exit code is returned. -/
def run (arguments : List String) : IO UInt32 := do
  let here := (← IO.currentDir).toString
  let places := here :: arguments.filter fun argument => Text.begins "/" argument
  let root ← places.foldlM addPlace (.folder [])
  let words := arguments.map Text.ofString
  let a := (Command.commandLine Checker.Script.build words).carryOut ⟨root, namesOf here⟩
  IO.print a.output
  (newIn (some root) [] a.disk.root).forM writeEntry
  a.fault.forM fun fault => IO.eprintln (shown fault.message)
  return UInt32.ofNat a.exit

end Casebook.Program

def main (arguments : List String) : IO UInt32 := Casebook.Program.run arguments

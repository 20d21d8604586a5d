import Casebook.Console.Panel
import Casebook.Disk.Change

/-!
# Shell of commands

A command works on a disk and writes output. It ends when it is done, with an exit code,
or at a fault that nobody handles; what was written and changed before stays.
-/

namespace Casebook.Command

open Disk

/-- What commands change. -/
structure Shell where
  disk : Workspace
  output : String

/-- Why a command ended before it was done. -/
inductive Stop
  | exit (code : Nat)
  | fault (fault : Fault)

/-- A step of a command. -/
abbrev Act (α : Type) := ExceptT Stop (StateM Shell) α

namespace Act

/-- Writes a text, unless there are halves of surrogate pairs in it. -/
def writeOr (refuse : Text.HalfRun → Fault) (text : Text) : Act Unit :=
  match text.characters with
  | .ok cs => modify fun s => { s with output := s.output ++ String.ofList cs }
  | .error run => throw (.fault (refuse run))

/-- Writes a text. -/
def write (text : Text) : Act Unit := writeOr .unencodable text

/-- Writes a text and ends the line. -/
def echo (line : Text) : Act Unit := write (line ++ "\n")

/-- What can fail; a fault ends the command. -/
def orStop {α : Type} (o : Outcome α) : Act α :=
  match o with
  | .ok a => return a
  | .error f => throw (.fault f)

/-- Shows a text that was laid out for the console. -/
def display (text : Outcome Text) : Act Unit := do writeOr .unprintable (← orStop text)

/-- Prints marked-up text. -/
def say (markup : Text) : Act Unit := display (Console.print markup)

def exit {α : Type} (code : Nat) : Act α := throw (.exit code)

/-- Changes the disk. -/
def change (f : Workspace → Except Disk.Fault Workspace) : Act Unit := do
  let disk ← orStop ((f (← get).disk).mapError .disk)
  modify fun s => { s with disk }

end Act

/-- What a command leaves. -/
structure Aftermath where
  exit : Nat
  output : String
  /-- A fault that nobody handled. -/
  fault : Option Fault
  disk : Workspace

/-- Carries out a command on a disk. -/
def Act.carryOut (act : Act Unit) (disk : Workspace) : Aftermath :=
  match act.run ⟨disk, ""⟩ with
  | (.ok (), s) => ⟨0, s.output, none, s.disk⟩
  | (.error (.exit code), s) => ⟨code, s.output, none, s.disk⟩
  | (.error (.fault f), s) => ⟨1, s.output, some f, s.disk⟩

end Casebook.Command

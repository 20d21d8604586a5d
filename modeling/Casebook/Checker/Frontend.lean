import Casebook.Checker.Session
import Casebook.Diagnostic.Message

/-!
# Compiling a snippet

A frontend holds what is the same for all compilations: the configuration of the checker
and the mount root. Each compilation has a view of its own and options of its own. The
result is the list of diagnostics that the checker's messages stand for, in order; it
does not matter how the messages were batched, nor whether the checker was blocked in the
end. Notes are left out at the very end, when every diagnostic has its kind.
-/

namespace Casebook.Checker

open Mount

structure Frontend where
  config : CheckerConfig
  /-- Where stub files are mounted. -/
  root : Text
deriving Repr

/-- What is known after a compilation: the result, the provider with all it has read, and
the checker's log. -/
structure Compilation where
  result : Outcome CompileResult
  provider : Stub.Provider
  events : List Event

namespace Frontend

/-- The name that frontends have in answers. -/
def name : String := "mypy"

/-- A frontend; its options must be good. -/
def make (config : CheckerConfig) (root : Text) : Outcome Frontend := do
  let _ ← Options.ofConfig config
  return ⟨config, root⟩

/-- The diagnostics that a configuration keeps. -/
def kept (c : CheckerConfig) (ds : List Diagnostic) : List Diagnostic :=
  if c.includeNotes then ds else ds.filter (·.severity != .note)

/-- The result that the messages of a session stand for. -/
def resultOf (f : Frontend) (here : Text) (t : Transcript) : Outcome CompileResult :=
  match t.ending with
  | .failed fault => .error fault
  | .finished | .blocked =>
    match Diagnostic.ofLines here t.view.root t.messages with
    | .ok ds => .ok ⟨kept f.config ds⟩
    | .error long => .error (.longNumeral long)

/-- The real roots of a compilation: the checker's own folder, and the one that its
options put beside it. -/
def realRoots (here : Text) (o : Options) : List Text :=
  Text.ofString checkerFolder :: o.stubFolder?.toList.map (Disk.absolute here)

/-- Compiles a source with the stub files of a provider. -/
def compile (build : Build) (f : Frontend) (w : Disk.Workspace) (p : Stub.Provider)
    (source : Text) : Compilation :=
  match Options.ofConfig f.config with
  | .error fault => ⟨.error fault, p, []⟩
  | .ok options =>
    let v := View.make p f.root (realRoots w.hereText options)
    let t := (build ⟨f.config.entryName, source, options, v.root, v.realRoots⟩).run w v
    ⟨f.resultOf w.hereText t, t.view.provider, t.events⟩

end Frontend

end Casebook.Checker

import Casebook.Value.Basic

/-!
# Diagnostics

What a type checker reports about one place, and the list of all that one compilation
reported. A diagnostic is written on one line, and the lists of errors, notes and so on
are views of the whole list.
-/

namespace Casebook

/-- How grave a diagnostic is. -/
inductive Severity
  | error
  | warning
  | note
deriving Repr, DecidableEq

/-- What a diagnostic is about: an import that was not resolved, or anything else. -/
inductive DiagnosticKind
  | moduleResolution
  | checking
deriving Repr, DecidableEq

def Severity.name : Severity → String
  | .error => "error"
  | .warning => "warning"
  | .note => "note"

def DiagnosticKind.name : DiagnosticKind → String
  | .moduleResolution => "module_resolution"
  | .checking => "checking"

/-- One report of the checker. -/
structure Diagnostic where
  file : Option Text
  line : Option Int
  column : Option Int
  severity : Severity
  message : Text
  code : Option Text
  kind : DiagnosticKind
deriving Repr, DecidableEq

namespace Diagnostic

/-- A diagnostic that is only a message. -/
def bare (message : Text) : Diagnostic :=
  ⟨none, none, none, .error, message, none, .checking⟩

/-- File, line and column as far as they are known; a line counts only with a file, and a
column only with a line. -/
def location (d : Diagnostic) : Text :=
  match d.file, d.line, d.column with
  | none, _, _ => ""
  | some f, none, _ => f ++ ": "
  | some f, some l, none => f ++ s!":{l}: "
  | some f, some l, some c => f ++ s!":{l}:{c}: "

/-- The code in brackets; an empty code is left out. -/
def codeText (d : Diagnostic) : Text :=
  match d.code with
  | none => ""
  | some c => if c.isEmpty then "" else "  [" ++ c ++ "]"

/-- The diagnostic as one text. -/
def render (d : Diagnostic) : Text :=
  d.location ++ d.severity.name ++ ": " ++ d.message ++ d.codeText

/-- The diagnostic as a document value, fields in their order. -/
def toValue (d : Diagnostic) : Value :=
  let text := fun (s : Option Text) => (s.map Value.text).getD .null
  let number := fun (i : Option Int) => (i.map Value.int).getD .null
  .map [(.text "file", text d.file), (.text "line", number d.line),
    (.text "column", number d.column), (.text "severity", .text d.severity.name),
    (.text "message", .text d.message), (.text "code", text d.code),
    (.text "kind", .text d.kind.name)]

end Diagnostic

/-- All that one compilation reported, in order. -/
structure CompileResult where
  diagnostics : List Diagnostic
deriving Repr, DecidableEq

namespace CompileResult

def withSeverity (r : CompileResult) (s : Severity) : List Diagnostic :=
  r.diagnostics.filter (·.severity == s)

def errors (r : CompileResult) : List Diagnostic := r.withSeverity .error

def notes (r : CompileResult) : List Diagnostic := r.withSeverity .note

/-- The errors about imports that were not resolved. -/
def moduleResolution (r : CompileResult) : List Diagnostic :=
  r.errors.filter (·.kind == .moduleResolution)

/-- The errors about anything else. -/
def checking (r : CompileResult) : List Diagnostic := r.errors.filter (·.kind == .checking)

/-- Nothing graver than a warning was reported. -/
def isClean (r : CompileResult) : Bool := r.errors.isEmpty

def lines (r : CompileResult) : List Text := r.diagnostics.map Diagnostic.render

def render (r : CompileResult) : Text := Text.joined "\n" r.lines

def toValue (r : CompileResult) : Value :=
  .map [(.text "diagnostics", .list (r.diagnostics.map Diagnostic.toValue))]

end CompileResult

end Casebook

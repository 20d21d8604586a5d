import Casebook.Diagnostic.Basic
import Casebook.Schema.Basic

/-!
# Models of diagnostics

What a document value must be like to stand for a diagnostic or a compilation's result.
-/

namespace Casebook

open Schema

/-- The severities by name. -/
def Severity.words : List (String × Severity) :=
  [Severity.error, .warning, .note].map fun s => (s.name, s)

/-- The kinds by name. -/
def DiagnosticKind.words : List (String × DiagnosticKind) :=
  [DiagnosticKind.moduleResolution, .checking].map fun k => (k.name, k)

/-- A diagnostic needs a message; all else may be left out. -/
def Diagnostic.check : Check Diagnostic :=
  model "Diagnostic" fun v =>
    Diagnostic.mk
      <$> fieldOr "file" (optional text) none v
      <*> fieldOr "line" (optional integer) none v
      <*> fieldOr "column" (optional integer) none v
      <*> fieldOr "severity" (oneOf Severity.words) .error v
      <*> field "message" text v
      <*> fieldOr "code" (optional text) none v
      <*> fieldOr "kind" (oneOf DiagnosticKind.words) .checking v

/-- A result is a list of diagnostics, and empty if it is left out. -/
def CompileResult.check : Check CompileResult :=
  model "CompileResult" fun v =>
    CompileResult.mk <$> fieldOr "diagnostics" (list Diagnostic.check) [] v

end Casebook

import Casebook.Value.Basic

/-!
# Cases

A case is a named snippet of source text, the extra files that it may import, and
perhaps the lines that the checker is expected to report. A document is a list of cases
in order.
-/

namespace Casebook

/-- A snippet to compile. Without expected lines, its result is compared with what was
accepted before. -/
structure CaseSpec where
  name : Text
  source : Text
  /-- Names and contents of the case's own files, in order. -/
  files : List (Text × Text)
  expected : Option (List Text)
deriving Repr, DecidableEq

/-- A list of cases, and the version of the form they are kept in. -/
structure CaseDocument where
  version : Text
  cases : List CaseSpec
deriving Repr, DecidableEq

/-- The version of a document that names none. -/
def CaseDocument.defaultVersion : String := "0.1"

/-- The case as a document value, fields in their order. -/
def CaseSpec.toValue (c : CaseSpec) : Value :=
  .map [(.text "name", .text c.name), (.text "source", .text c.source),
    (.text "files", .map (c.files.map fun f => (.text f.1, .text f.2))),
    (.text "expected", match c.expected with
      | some lines => .list (lines.map Value.text)
      | none => .null)]

/-- The document as a value, fields in their order. -/
def CaseDocument.toValue (d : CaseDocument) : Value :=
  .map [(.text "version", .text d.version), (.text "cases", .list (d.cases.map CaseSpec.toValue))]

end Casebook

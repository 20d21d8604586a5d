import Casebook.Case.Basic
import Casebook.Schema.Basic

/-!
# Models of cases

What a document value must be like to stand for a case or a list of cases.
-/

namespace Casebook

open Schema

/-- A case needs a name and a source. -/
def CaseSpec.check : Check CaseSpec :=
  model "CaseSpec" fun v =>
    CaseSpec.mk
      <$> field "name" text v
      <*> field "source" text v
      <*> fieldOr "files" (map text) [] v
      <*> fieldOr "expected" (optional (list text)) none v

/-- The name of the model of documents. -/
def CaseDocument.modelName : String := "CaseDocument"

/-- A document has a version and cases; both may be left out. -/
def CaseDocument.check : Check CaseDocument :=
  model CaseDocument.modelName fun v =>
    CaseDocument.mk
      <$> fieldOr "version" text CaseDocument.defaultVersion v
      <*> fieldOr "cases" (list CaseSpec.check) [] v

end Casebook

import Casebook.Case.Parser
import Casebook.Case.Schema
import Casebook.Fault

/-!
# Loading case files

A file of cases is either a case file or, by its suffix, a document in JSON.
-/

namespace Casebook.CaseDocument

open Disk

/-- The suffix of documents in JSON. -/
def jsonSuffix : String := ".json"

/-- The cases in a text. -/
def ofChars (text : List Char) : Outcome CaseDocument := (Case.parse text).mapError .caseFile

/-- The cases that a document value holds. -/
def ofValue (v : Value) : Outcome CaseDocument := (CaseDocument.check v).orFault modelName

/-- The cases in a case file. -/
def loadCaseFile (w : Workspace) (path : Path) : Outcome CaseDocument := do
  ofChars (← w.readChars path.text)

/-- The cases in a file of either kind, read with so many steps under way. -/
def load (w : Workspace) (steps : Nat) (path : Path) : Outcome CaseDocument :=
  if path.suffix = jsonSuffix then do ofValue (← w.readJson steps path.text)
  else loadCaseFile w path

end Casebook.CaseDocument

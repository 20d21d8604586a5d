import Casebook.Case.Parser
import Casebook.Console.Markup
import Casebook.Depth
import Casebook.Disk.Real
import Casebook.Json.Reader
import Casebook.Json.Writer
import Casebook.Report
import Casebook.Schema.Basic
import Casebook.Yaml.Source
import Casebook.Yaml.Refusal

/-!
# Faults

Everything that can go wrong outside of the checker's own reports. Two kinds say that the
setup is wrong, and a run of cases goes on after them: the setup itself is broken, or a
name was asked for that nobody registered. All others end what was asked for.
-/

namespace Casebook

open Text

/-- The first sequence that is not UTF-8, as it is reported. -/
def Text.Utf8Fault.message (f : Utf8Fault) : String :=
  let reason := match f.flaw with
    | .start => "invalid start byte"
    | .continuation => "invalid continuation byte"
    | .truncated => "unexpected end of data"
  if f.length = 1 then
    let byte := String.ofList (hex 2 f.lead.toNat)
    s!"'utf-8' codec can't decode byte 0x{byte} in position {f.offset}: {reason}"
  else
    let last := f.offset + f.length - 1
    s!"'utf-8' codec can't decode bytes in position {f.offset}-{last}: {reason}"

/-- Why something could not be done. -/
inductive Fault
  /-- The setup is broken. -/
  | setup (report : Report)
  /-- A name was asked for that nobody registered. -/
  | unresolved (report : Report)
  | disk (fault : Disk.Fault)
  | noRealPath (fault : Disk.RealFault)
  | undecodable (fault : Utf8Fault)
  | caseFile (fault : Case.Fault)
  /-- A document value is no model of the given name. -/
  | invalid (model : String) (details : List Schema.Detail)
  | yaml (fault : Yaml.Fault)
  | json (fault : Json.Fault)
  | longNumeral (fault : LongNumeral)
  /-- An integer would have to be written that is too long. -/
  | hugeInteger (fault : HugeInteger)
  /-- A value is not written as YAML. -/
  | notWritten (refusal : Yaml.Refusal)
  /-- A value has no text in JSON. -/
  | unwritable (refusal : Json.Refusal)
  /-- A text that has to be encoded has halves of surrogate pairs. -/
  | unencodable (run : HalfRun)
  /-- A text for the console has halves of surrogate pairs. -/
  | unprintable (run : HalfRun)
  /-- A stub file was given a name that is empty or no text. -/
  | badFileName (given : Value)
  /-- A stub file was given contents that are no text. -/
  | badContents (name : Text) (given : Value)
  /-- A list of similar names was asked for without room for one. -/
  | badLimit (limit : Int)
  /-- An option was given a value of another type. -/
  | optionType (expected given : String)
  /-- An option that is there cannot be set. -/
  | fixedOption (name : Text)
  /-- Accepted results are kept in a map, and this is none. -/
  | noSnapshotMap (given : Value)
  /-- Accepted lines are kept in a list, and this is none. -/
  | noLines (given : Value)
  /-- A list of lines begins with something else. -/
  | noLine (given : Value)
  /-- A list of lines holds a value that cannot be compared. -/
  | notComparable (given : Value)
  /-- A list of lines holds something else behind its first line. -/
  | noText (given : Value)
  | badStatus (name : Text)
  /-- Text for the console is marked up wrongly. -/
  | markup (fault : Console.MarkupFault)
  /-- The checker broke down. -/
  | crash (message : Text)

/-- The full name of a value's kind. -/
def Value.fullKindName (v : Value) : String :=
  match v.bare with
  | .date _ => "datetime.date"
  | .moment _ => "datetime.datetime"
  | _ => v.kindName

/-- What is advised for a text that the console cannot show. -/
def consoleAdvice : String :=
  "\n*** You may need to add PYTHONIOENCODING=utf-8 to your environment ***"

/-- The text reported for a fault. -/
def Fault.message : Fault → Text
  | .setup r | .unresolved r => r.render
  | .disk f => f.message
  | .noRealPath f => f.message
  | .undecodable f => f.message
  | .caseFile f => f.message
  | .invalid model details => Schema.message model details
  | .yaml f => f.message
  | .json f => f.message
  | .longNumeral f => f.message
  | .hugeInteger f => f.message
  | .notWritten r => r.message
  | .unwritable r => r.message
  | .unencodable run => run.message
  | .unprintable run => run.message ++ consoleAdvice
  | .badFileName v => s!"File name must be a non-empty string, got {v.described}"
  | .badContents name v => s!"Contents of {quoted name} must be str, got {v.kindName}"
  | .badLimit n => s!"n must be > 0: {n}"
  | .optionType expected given => s!"{expected} object expected; got {given}"
  | .fixedOption name => s!"'Options' object attribute {quoted name} is read-only"
  | .noSnapshotMap v => s!"'{v.fullKindName}' object has no attribute 'items'"
  | .noLines v => s!"'{v.fullKindName}' object is not iterable"
  | .noLine v => s!"lines to compare must be str, not {v.kindName} ({v.described})"
  | .notComparable v => s!"unhashable type: '{v.kindName}'"
  | .noText v => s!"can only concatenate str (not \"{v.fullKindName}\") to str"
  | .badStatus name => s!"{quoted name} is not a valid ResultStatus"
  | .markup f => f.message
  | .crash message => message

/-- What a fault of the setup is called; a run of cases reports it for the case at hand and
goes on. -/
def Fault.setupName? : Fault → Option String
  | .setup _ => some "ConstructionError"
  | .unresolved _ => some "ResolutionError"
  | _ => none

/-- A computation that can fail. -/
abbrev Outcome (α : Type) := Except Fault α

/-- The characters that bytes encode. -/
def charsOf (decoded : Except Utf8Fault (List Char)) : Outcome (List Char) :=
  decoded.mapError .undecodable

/-- The text of a file: its bytes as UTF-8. -/
def decodeBytes (bytes : List UInt8) : Outcome Text := do
  return .ofChars (← charsOf (decodeUtf8 bytes))

namespace Disk.Workspace

/-- The characters of a file, with every line end turned into a line feed. -/
def readChars (w : Workspace) (path : Text) : Outcome (List Char) := do
  return withLineFeeds (← charsOf (decodeUtf8 (← (w.bytes path).mapError .disk)))

/-- The YAML document in a file, with so many steps under way. -/
def readYaml (w : Workspace) (steps : Nat) (path : Text) : Outcome Value := do
  let source := Yaml.Source.ofBytes (← (w.bytes path).mapError .disk)
  (source.read (Depth.ofYaml steps)).mapError fun
    | .document f => .yaml f
    | .undecodable f => .undecodable f

/-- The JSON document in a file, with so many steps under way. -/
def readJson (w : Workspace) (steps : Nat) (path : Text) : Outcome Value := do
  (Json.read (Depth.ofJson steps) (← w.readChars path)).mapError .json

end Disk.Workspace

/-- A checked value, as the model of the given name. -/
def Schema.Checked.orFault {α : Type} (c : Schema.Checked α) (model : String) : Outcome α :=
  c.toExcept.mapError (.invalid model)

end Casebook

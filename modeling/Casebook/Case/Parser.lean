import Casebook.Case.Basic
import Casebook.Text.Blank
import Casebook.Text.Lines
import Casebook.Text.Quoted

/-!
# Case files

A case file is read line by line. A header line opens a case, one of its files, or its
expected output; all other lines belong to what was opened last, and lines before the
first case are free text. A line that begins like a header but is none is refused, and so
is a header of a file or of output before the first case. A case is judged when it is
complete, at the next case header or at the end; names of cases are compared only when
the whole text has been read.
-/

namespace Casebook.Case

/-! ## Lines -/

/-- What opens a part of a case file. -/
inductive Header
  | case (name : Text)
  | file (name : Text)
  | out
deriving Repr, DecidableEq

/-- What a line is. -/
inductive LineKind
  | plain
  | header (h : Header)
  /-- The line begins like a header and is none. -/
  | malformed
deriving Repr, DecidableEq

/-- The words that headers begin with. -/
def keywords : List (List Char) := ["case".toList, "file".toList, "out".toList]

def isGap (c : Char) : Bool := c == ' ' || c == '\t'

/-- What follows an opening bracket and a word, if the line begins with them. -/
def afterKeyword? (keyword line : List Char) : Option (List Char) :=
  if ('[' :: keyword).isPrefixOf line then some (line.drop (keyword.length + 1)) else none

/-- The line begins with a header word, and a gap or a closing bracket follows it. -/
def isMarker (line : List Char) : Bool :=
  keywords.any fun keyword =>
    match afterKeyword? keyword line with
    | some (c :: _) => isGap c || c == ']'
    | _ => false

/-- Nothing but gaps up to the end of the line. -/
def isRestOfHeader (cs : List Char) : Bool := cs.dropWhile isGap == ['\n']

/-- What stands between a header word and the closing bracket: a gap and at least one
more character. -/
def argument? (keyword line : List Char) : Option (List Char) :=
  match afterKeyword? keyword line with
  | some (gap :: rest) =>
    let argument := rest.takeWhile fun c => c != ']' && c != '\n'
    match rest.dropWhile (fun c => c != ']' && c != '\n') with
    | ']' :: rest =>
      if isGap gap && !argument.isEmpty && isRestOfHeader rest then some argument else none
    | _ => none
  | _ => none

/-- A name in a header, without the blanks around it. -/
def nameOf (argument : List Char) : Text := (Text.ofChars argument).trim

/-- The header that a line is. -/
def header? (line : List Char) : Option Header :=
  match argument? "case".toList line with
  | some a => some (.case (nameOf a))
  | none =>
    match argument? "file".toList line with
    | some a => some (.file (nameOf a))
    | none =>
      match afterKeyword? "out".toList line with
      | some (']' :: rest) => if isRestOfHeader rest then some .out else none
      | _ => none

/-- What a line, with its line feed, is. -/
def kindOf (line : List Char) : LineKind :=
  if !isMarker line then .plain
  else
    match header? line with
    | some h => .header h
    | none => .malformed

/-- The lines of a text, each with its line feed; one is added to the last if it has none. -/
def linesOf (text : List Char) : List (List Char) :=
  Text.cutLines (if text.isEmpty || text.getLast? = some '\n' then text else text ++ ['\n'])

/-! ## Faults -/

/-- Why a case file was refused. Lines are counted from one. -/
inductive Fault
  /-- A line begins like a header and is none; `inCase` says whether a case is open. -/
  | malformed (line : Nat) (text : List Char) (inCase : Bool)
  /-- A header of a file or of output stands before the first case. -/
  | stray (header : Header) (line : Nat) (text : List Char)
  | duplicateFile (case file : Text)
  | secondOut (case : Text)
  | duplicateCase (name : Text)
deriving Repr, DecidableEq

/-- The name of the kind of line that a header is. -/
def Header.token : Header → String
  | .case _ => "CASE_HEADER"
  | .file _ => "FILE_HEADER"
  | .out => "OUT_HEADER"

/-- What could have stood where a line was refused. -/
def expectation (inCase : Bool) : String :=
  let tokens := ["LINE", "CASE_HEADER"] ++ (if inCase then ["FILE_HEADER", "OUT_HEADER"] else [])
  "Expected one of: \n\t* " ++ "\n\t* ".intercalate tokens ++ "\n"

/-- The text reported for a fault. -/
def Fault.message : Fault → Text
  | .malformed line text inCase =>
    s!"Invalid case file: No terminal matches '[' in the current parser context, at line {line} col 1" ++
      "\n\n" ++ String.ofList ((text.take 40).filter (· ≠ '\n')) ++ "\n^\n" ++ expectation inCase
  | .stray header line text =>
    s!"Invalid case file: Unexpected token Token('{header.token}', " ++
      s!"{Text.quoted (.ofChars text)}) at line {line}, column 1.\n" ++ expectation false
  | .duplicateFile case file => s!"Case {case.quoted}: duplicate [file " ++ file ++ "]"
  | .secondOut case => s!"Case {case.quoted}: more than one [out] section"
  | .duplicateCase name => s!"Duplicate case name: {name.quoted}"

/-! ## Cases -/

/-- A part of a case after its source. -/
inductive Section
  | file (name contents : Text)
  | out (lines : List Text)
deriving Repr, DecidableEq

/-- The expected lines in a part of a case file: blanks at their ends are dropped, and so
are lines without anything else. -/
def expectedLines (body : List Char) : List Text :=
  ((Text.splitLines body).map fun line => (Text.ofChars line).trimEnd).filter (!·.isEmpty)

/-- The section that a header and the text below it are; a case header opens none. -/
def sectionOf (h : Header) (body : List Char) : Option Section :=
  match h with
  | .case _ => none
  | .file name => some (.file name (.ofChars body))
  | .out => some (.out (expectedLines body))

/-- The case with one more section. -/
def addSection (c : CaseSpec) : Section → Except Fault CaseSpec
  | .file name contents =>
    if c.files.any (·.1 == name) then .error (.duplicateFile c.name name)
    else .ok { c with files := c.files ++ [(name, contents)] }
  | .out lines =>
    match c.expected with
    | some _ => .error (.secondOut c.name)
    | none => .ok { c with expected := some lines }

/-- A case whose header has been read: its name, and the parts of it with their texts in
reverse order. The last part is the source. -/
structure Draft where
  name : Text
  parts : List (Header × List (List Char))
deriving Repr

/-- The text of lines given in reverse order. -/
def textOf (lines : List (List Char)) : List Char := lines.reverse.flatten

namespace Draft

/-- A case with nothing below its header. -/
def opened (name : Text) : Draft := ⟨name, [(.case name, [])]⟩

/-- A line goes to the part that was opened last. -/
def addLine (d : Draft) (line : List Char) : Draft :=
  match d.parts with
  | (h, lines) :: rest => { d with parts := (h, line :: lines) :: rest }
  | [] => d

def addPart (d : Draft) (h : Header) : Draft := { d with parts := (h, []) :: d.parts }

/-- The complete case. -/
def finish (d : Draft) : Except Fault CaseSpec :=
  match d.parts.reverse with
  | [] => .ok ⟨d.name, "", [], none⟩
  | (_, source) :: parts =>
    (parts.filterMap fun (h, lines) => sectionOf h (textOf lines)).foldlM addSection
      ⟨d.name, .ofChars (textOf source), [], none⟩

end Draft

/-- Completes the case that is open, if there is one. -/
def finishOpen : Option Draft → Except Fault (List CaseSpec)
  | none => .ok []
  | some d => do return [← d.finish]

/-- Reads lines, of which the first has the given number, after the open case. -/
def readLines (number : Nat) (opened : Option Draft) :
    List (List Char) → Except Fault (List CaseSpec)
  | [] => finishOpen opened
  | line :: lines =>
    match kindOf line, opened with
    | .malformed, _ => .error (.malformed number line opened.isSome)
    | .plain, _ => readLines (number + 1) (opened.map (·.addLine line)) lines
    | .header (.case name), _ => do
      let done ← finishOpen opened
      let rest ← readLines (number + 1) (some (.opened name)) lines
      return done ++ rest
    | .header h, some d => readLines (number + 1) (some (d.addPart h)) lines
    | .header h, none => .error (.stray h number line)

/-- The first name that stands in the list a second time. -/
def firstRepeat (seen : List Text) : List Text → Option Text
  | [] => none
  | name :: names => if seen.contains name then some name else firstRepeat (name :: seen) names

/-- Reads the text of a case file. -/
def parse (text : List Char) : Except Fault CaseDocument := do
  let cases ← readLines 1 none (linesOf text)
  match firstRepeat [] (cases.map CaseSpec.name) with
  | some name => throw (.duplicateCase name)
  | none => return ⟨CaseDocument.defaultVersion, cases⟩

end Casebook.Case

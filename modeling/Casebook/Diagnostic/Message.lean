import Casebook.Diagnostic.Basic
import Casebook.Mount.Name
import Casebook.Text.Affix
import Casebook.Text.Digit

/-!
# Reading checker messages

The checker reports in lines of text. A line is located if it can be cut into a file, an
optional line and column, a severity and a message; the file is then the shortest that
allows such a cut. A line that cannot be cut is kept whole as a message without a
location. A note without a code belongs to the error before it.
-/

namespace Casebook.Diagnostic

/-- The codes of errors about imports. -/
def moduleCodes : List Text := ["import", "import-not-found", "import-untyped"]

/-- The severities that a line may name. -/
def severities : List Severity := [.error, .warning, .note]

/-- A character of a code. -/
def isCodeChar (c : Char) : Bool :=
  ('a' ≤ c && c ≤ 'z') || ('0' ≤ c && c ≤ '9') || c == '-'

/-- What follows the file of a located line, the numbers still as digits. -/
structure Tail where
  line : Option (List Char)
  column : Option (List Char)
  severity : Severity
  /-- The message with its code. -/
  body : Text
deriving Repr

/-- The severity that stands between `: ` and `: `, and what follows. -/
def severityAt? (t : Text) : Option (Severity × Text) :=
  (Text.after? ": " t).bind fun rest =>
    severities.findSome? fun s => (Text.after? (s.name ++ ": ") rest).map (s, ·)

/-- A colon and a number in front, and what follows. -/
def numberAt? (t : Text) : Option (List Char × Text) :=
  (Text.after? ":" t).bind fun rest =>
    let isDigit := Point.passes Text.isDigit
    match (rest.points.takeWhile isDigit).filterMap Point.char? with
    | [] => none
    | digits => some (digits, ⟨rest.points.dropWhile isDigit⟩)

/-- Line and column as far as they are there, severity and message. -/
def tail? (t : Text) : Option Tail :=
  match numberAt? t with
  | none => (severityAt? t).map fun (s, body) => ⟨none, none, s, body⟩
  | some (line, rest) =>
    match numberAt? rest with
    | none => (severityAt? rest).map fun (s, body) => ⟨some line, none, s, body⟩
    | some (column, rest) =>
      (severityAt? rest).map fun (s, body) => ⟨some line, some column, s, body⟩

/-- The shortest file that begins with `read`, given in reverse order, and what follows. -/
def cutFrom? (read : List Point) : List Point → Option (Text × Tail)
  | [] => none
  | p :: ps =>
    match tail? ⟨ps⟩ with
    | some tail => some (⟨(p :: read).reverse⟩, tail)
    | none => cutFrom? (p :: read) ps

/-- The line without one line feed at its end, if no other is in it. -/
def singleLine? (t : Text) : Option Text :=
  let feed := Point.char '\n'
  let body := if t.points.getLast? = some feed then t.points.dropLast else t.points
  if body.contains feed then none else some ⟨body⟩

/-- The file of a line and what follows it, if the line can be cut. -/
def cut? (line : Text) : Option (Text × Tail) :=
  (singleLine? line).bind fun body => cutFrom? [] body.points

/-- A message and the code at its end: two blanks, and the code in brackets. -/
def splitCode (body : Text) : Text × Option Text :=
  match body.points.reverse with
  | .char ']' :: rest =>
    let isCode := Point.passes isCodeChar
    let code := (rest.takeWhile isCode).reverse
    match rest.dropWhile isCode with
    | .char '[' :: .char ' ' :: .char ' ' :: message =>
      if code.isEmpty then (body, none) else (⟨message.reverse⟩, some ⟨code⟩)
    | _ => (body, none)
  | _ => (body, none)

/-- The name under which a file is reported: below the mount root the stub's name, and
else the file as it stands. -/
def reportedFile (here root file : Text) : Text :=
  match Mount.stubName? root (Disk.joinText here file) with
  | some name => if name.isEmpty then file else name
  | none => file

/-- The kind of a located diagnostic. `before` is the last located error before it. -/
def kindOf (before : Option Diagnostic) (file : Text) (line : Option Int)
    (severity : Severity) (code : Option Text) : DiagnosticKind :=
  match code with
  | some c => if moduleCodes.contains c then .moduleResolution else .checking
  | none =>
    match before with
    | some e =>
      if severity == .note && e.file == some file && e.line == line then e.kind else .checking
    | none => .checking

/-- The diagnostic of one line; `before` is the last located error before it. -/
def ofLine (here root : Text) (before : Option Diagnostic) (line : Text) :
    Except Text.LongNumeral Diagnostic :=
  match cut? line with
  | none => .ok (bare line)
  | some (file, tail) => do
    let file := reportedFile here root file
    let (message, code) := splitCode tail.body
    let number := fun digits => do return some (Int.ofNat (← Text.readNumeral digits))
    let line ← (tail.line.map number).getD (.ok none)
    let column ← (tail.column.map number).getD (.ok none)
    return ⟨some file, line, column, tail.severity, message, code,
      kindOf before file line tail.severity code⟩

/-- Whether later notes may belong to a diagnostic. -/
def isLocatedError (d : Diagnostic) : Bool := d.file.isSome && d.severity == .error

/-- The diagnostics of lines, after a located error before them. -/
def ofLinesAfter (here root : Text) (before : Option Diagnostic) :
    List Text → Except Text.LongNumeral (List Diagnostic)
  | [] => .ok []
  | line :: lines => do
    let d ← ofLine here root before line
    let ds ← ofLinesAfter here root (if d.isLocatedError then some d else before) lines
    return d :: ds

/-- The diagnostics of the checker's lines, in order. Files are taken below the folder
`here`, and stub files are those below the mount root. -/
def ofLines (here root : Text) (lines : List Text) :
    Except Text.LongNumeral (List Diagnostic) :=
  ofLinesAfter here root none lines

end Casebook.Diagnostic

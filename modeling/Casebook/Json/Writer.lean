import Casebook.Text.Hex
import Casebook.Text.Utf8
import Casebook.Value.Basic

/-!
# Writing JSON

A document value is written as JSON, on one line or with one item or entry a line and
two blanks for each level. Characters outside ASCII are written as they are; in a
string, the quote, the backslash and the controls below the space are escaped.

Not every value has a text in JSON. `Json.refusal?` says why one has none, and `Json.written`
gives the text of a value that has one.
-/

namespace Casebook.Json

/-- One character of a string. -/
def escapeChar (c : Char) : List Char :=
  if c = '"' then ['\\', '"']
  else if c = '\\' then ['\\', '\\']
  else if c = '\x08' then ['\\', 'b']
  else if c = '\x0c' then ['\\', 'f']
  else if c = '\n' then ['\\', 'n']
  else if c = '\r' then ['\\', 'r']
  else if c = '\t' then ['\\', 't']
  else if c.toNat < 32 then '\\' :: 'u' :: Text.hex 4 c.toNat
  else [c]

/-- One point of a string. Half of a surrogate pair can only be written as an escape. -/
def escapePoint : Point → List Char
  | .char c => escapeChar c
  | .half h => '\\' :: 'u' :: Text.hex 4 h.code

/-- A string between quotes. -/
def writeString (t : Text) : List Char :=
  '"' :: t.points.flatMap escapePoint ++ ['"']

/-- How the parts of a list or map are laid out. -/
inductive Shape
  /-- All on one line, without blanks. -/
  | line
  /-- One a line; the number is the level of the brackets. -/
  | block (level : Nat)
deriving Repr, DecidableEq

/-- The shape one level further in. -/
def Shape.inner : Shape → Shape
  | .line => .line
  | .block level => .block (level + 1)

/-- What stands before a part, or before the closing bracket, of a level. -/
def Shape.break : Shape → List Char
  | .line => []
  | .block level => '\n' :: List.replicate (2 * level) ' '

/-- What stands between a key and its value. -/
def Shape.colon : Shape → List Char
  | .line => [':']
  | .block _ => [':', ' ']

/-- The name under which a key of a map is written. -/
def keyName : Value → Text
  | .text t => t
  | .null => "None"
  | .bool b => if b then "true" else "false"
  | .int i => (toString i : String)
  | .float x =>
    match x with
    | .finite .. => Number.Layout.message.render x
    | .nan | .infinite _ => "None"
  | .date d => d.render
  | .moment m => m.renderDump
  | .bytes b => .ofChars (((Text.decodeUtf8 b).toOption).getD [])
  | .shared _ v => keyName v
  | .list _ | .tuple _ | .set _ | .map _ | .loop .. | .again .. => ""

/-- The parts of a list or map between brackets, a comma after each but the last. -/
def bracketed (shape : Shape) (opening closing : Char) (parts : List (List Char)) : List Char :=
  match parts with
  | [] => [opening, closing]
  | parts =>
    opening :: [','].intercalate (parts.map (shape.inner.break ++ ·)) ++ shape.break ++ [closing]

mutual

/-- Writes a value whose brackets are at the level of the shape. -/
def write (shape : Shape) : Value → List Char
  | .null => "null".toList
  | .bool b => if b then "true".toList else "false".toList
  | .int i => (toString i).toList
  | .float x => (Number.Layout.dump.render x).toList
  | .text t => writeString t
  | .bytes b => writeString (keyName (.bytes b))
  | .date d => writeString d.render
  | .moment m => writeString m.renderDump
  | .list items | .tuple items | .set items => bracketed shape '[' ']' (writeItems shape.inner items)
  | .map entries => bracketed shape '{' '}' (writeEntries shape.inner entries)
  | .shared _ v | .loop _ v => write shape v
  | .again .. => "null".toList

def writeItems (shape : Shape) : List Value → List (List Char)
  | [] => []
  | v :: vs => write shape v :: writeItems shape vs

def writeEntries (shape : Shape) : List (Value × Value) → List (List Char)
  | [] => []
  | (k, v) :: es =>
    (writeString (keyName k) ++ shape.colon ++ write shape v) :: writeEntries shape es

end

/-- The value as JSON on one line. -/
def compact (v : Value) : String := String.ofList (write .line v)

/-! ## Values without a text -/

/-- Why a value has no text in JSON. -/
inductive Refusal
  /-- A text has halves of surrogate pairs. -/
  | halves (run : Text.HalfRun)
  /-- Bytes encode no text. -/
  | bytes (fault : Text.Utf8Fault)
  /-- Bytes that are a key encode no text. -/
  | keyBytes (fault : Text.Utf8Fault)
  /-- A value stands inside itself. -/
  | endless
  | tooDeep
deriving Repr, DecidableEq

/-- The text reported for a value without a text. -/
def Refusal.message (r : Refusal) : String :=
  "Error serializing to JSON: " ++
    match r with
    | .halves run => "UnicodeEncodeError: " ++ run.message
    | .bytes ⟨offset, length, _, flaw⟩ =>
      if flaw = .truncated then s!"incomplete utf-8 byte sequence from index {offset}"
      else s!"invalid utf-8 sequence of {length} bytes from index {offset}"
    | .keyBytes ⟨offset, _, lead, _⟩ =>
      let byte := String.ofList (Text.hex 2 lead.toNat)
      s!"UnicodeDecodeError: 'utf-8' codec can't decode byte 0x{byte} in position {offset}: " ++
        "invalid utf-8"
    | .endless => "ValueError: Circular reference detected (id repeated)"
    | .tooDeep => "ValueError: Maximum serialization depth exceeded"

/-- How many values of any kind may stand inside each other. -/
def depthLimit : Nat := 255

/-- The text of a value or key is refused. -/
def textRefusal? (t : Text) : Option Refusal := t.halfRun?.map .halves

/-- Bytes of a value or key are refused. -/
def bytesRefusal? (b : List UInt8) (refuse : Text.Utf8Fault → Refusal) : Option Refusal :=
  match Text.decodeUtf8 b with
  | .ok _ => none
  | .error fault => some (refuse fault)

/-- Why a key has no text. -/
def keyRefusal? (key : Value) : Option Refusal :=
  match key.bare with
  | .text t => textRefusal? t
  | .bytes b => bytesRefusal? b .keyBytes
  | _ => none

mutual

/-- Why a value has no text, inside of values with the given labels and with room for so many
values inside each other. -/
def refusalIn? (labels : List Nat) : (room : Nat) → Value → Option Refusal
  | room, .shared label v | room, .loop label v =>
    if labels.contains label then some .endless else refusalIn? (label :: labels) room v
  | _, .again .. => some .endless
  | 0, _ => some .tooDeep
  | _ + 1, .text t => textRefusal? t
  | _ + 1, .bytes b => bytesRefusal? b .bytes
  | room + 1, .list items | room + 1, .tuple items | room + 1, .set items =>
    itemRefusal? labels room items
  | room + 1, .map entries => entryRefusal? labels room entries
  | _ + 1, _ => none

def itemRefusal? (labels : List Nat) (room : Nat) : List Value → Option Refusal
  | [] => none
  | v :: vs => (refusalIn? labels room v).or (itemRefusal? labels room vs)

def entryRefusal? (labels : List Nat) (room : Nat) : List (Value × Value) → Option Refusal
  | [] => none
  | (k, v) :: es =>
    ((keyRefusal? k).or (refusalIn? labels room v)).or (entryRefusal? labels room es)

end

/-- Why a value has no text; the first reason in the order of writing. The `outer` values around
those of any kind, which a model fixes, do not count for the depth. -/
def refusal? (outer : Nat) (v : Value) : Option Refusal := refusalIn? [] (outer + depthLimit) v

/-- The text of a value in a shape, if it has one. -/
def written (outer : Nat) (shape : Shape) (v : Value) : Except Refusal String :=
  match refusal? outer v with
  | some r => .error r
  | none => .ok (String.ofList (write shape v))

/-- The value as JSON with one part a line. -/
def pretty (outer : Nat) (v : Value) : Except Refusal String := written outer (.block 0) v

end Casebook.Json

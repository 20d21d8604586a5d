import Casebook.Yaml.Fault

/-!
# A place in a YAML text

The rest of the text and the count of characters, lines and columns before it. A line
ends with a line feed, a carriage return or both, a next-line control, or a line or
paragraph separator.
-/

namespace Casebook.Yaml

/-- A character that may stand in a document. -/
def isAllowed (c : Char) : Bool :=
  let n := c.toNat
  n == 9 || n == 10 || n == 13 || (0x20 ≤ n && n ≤ 0x7E) || n == 0x85 ||
    (0xA0 ≤ n && n ≤ 0xFFFD) || 0x10000 ≤ n

/-- A character that ends a line. -/
def isBreak (c : Char) : Bool :=
  c == '\n' || c == '\r' || c == '\x85' || c == '\u2028' || c == '\u2029'

/-- A blank within a line, or the end of a line. -/
def isGap (c : Char) : Bool := c == ' ' || c == '\t' || isBreak c

structure Cursor where
  rest : List Char
  index : Nat
  line : Nat
  column : Nat
  /-- How many characters the text had at the start. -/
  size : Nat
deriving Repr

namespace Cursor

def start (text : List Char) : Cursor := ⟨text, 0, 0, 0, text.length⟩

/-- How many characters are left. -/
def left (c : Cursor) : Nat := c.size - c.index

/-- The character at the cursor, if the text has not ended. -/
def peek (c : Cursor) : Option Char := c.rest.head?

/-- The character so many places after the cursor. -/
def peekAt (c : Cursor) (n : Nat) : Option Char := c.rest[n]?

/-- The cursor after the next character. A byte order mark takes no column. -/
def next (c : Cursor) : Cursor :=
  match c.rest with
  | [] => c
  | ch :: rest =>
    let ends := isBreak ch && !(ch == '\r' && rest.head? == some '\n')
    ⟨rest, c.index + 1, if ends then c.line + 1 else c.line,
      if ends then 0 else if ch == '\uFEFF' then c.column else c.column + 1, c.size⟩

/-- The cursor so many characters further. -/
def skip : (n : Nat) → Cursor → Cursor
  | 0, c => c
  | n + 1, c => skip n c.next

/-- The characters from the cursor on that pass a test. -/
def span (c : Cursor) (p : Char → Bool) : List Char := c.rest.takeWhile p

/-- The cursor behind the characters that pass a test. -/
def skipWhile (c : Cursor) (p : Char → Bool) : Cursor := c.skip (c.span p).length

/-- The text ends, or a gap follows, so many places after the cursor. -/
def gapAt (c : Cursor) (n : Nat) : Bool := (c.peekAt n).all isGap

/-- The text or the line ends at the cursor. -/
def atLineEnd (c : Cursor) : Bool := c.peek.all isBreak

/-- The text or the line ends at the cursor, or a space follows. -/
def atSpace (c : Cursor) : Bool := c.peek.all fun ch => ch == ' ' || isBreak ch

/-- The characters begin with these. -/
def begins (c : Cursor) (text : String) : Bool := text.toList.isPrefixOf c.rest

/-- A line of three hyphens or three points parts documents. -/
def atSeparator (c : Cursor) : Bool := (c.begins "---" || c.begins "...") && c.gapAt 3

/-- Reading halts here. -/
def halt {α : Type} (c : Cursor) (fault : Fault) : Except Halt α := .error ⟨fault, c.index + 1⟩

/-- What stands here is malformed. -/
def refuse {α : Type} (c : Cursor) : Except Halt α := c.halt .malformed

/-- Takes one line end, which counts as a line feed unless it is a separator. -/
def takeBreak (c : Cursor) : Option (Char × Cursor) :=
  match c.rest with
  | '\r' :: '\n' :: _ => some ('\n', c.skip 2)
  | ch :: _ =>
    if ch == '\u2028' || ch == '\u2029' then some (ch, c.next)
    else if isBreak ch then some ('\n', c.next)
    else none
  | [] => none

/-- Skips spaces, and a comment after them, up to the end of the line. -/
def skipComment (c : Cursor) : Cursor :=
  let c := c.skipWhile (· == ' ')
  if c.peek == some '#' then c.skipWhile (!isBreak ·) else c

end Cursor

end Casebook.Yaml

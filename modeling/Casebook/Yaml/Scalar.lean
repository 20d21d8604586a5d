import Casebook.Text.Hex
import Casebook.Text.Point
import Casebook.Yaml.Cursor

/-!
# Texts of YAML scalars

A scalar is written plain, between quotes, or as a block of lines. Over a line end a
plain or quoted text is folded: a single line feed becomes a blank, of more line ends the
first is dropped, and a line or paragraph separator is kept. In a block each line end is
kept, or folded if the block says so. `fuel` bounds the loops by the length of the text.
-/

namespace Casebook.Yaml

/-- Characters that were read, and the cursor behind them. -/
structure Scanned where
  chars : List Char
  cursor : Cursor

/-- Points that escapes may stand for, and the cursor behind them. -/
structure Unescaped where
  points : List Point
  cursor : Cursor

def Scanned.unescaped (s : Scanned) : Unescaped := ⟨s.chars.map .char, s.cursor⟩

/-! ## Folding -/

/-- What a first line end and those after it stand for in a folded text. -/
def fold (first : Char) (more : List Char) : List Char :=
  (if first != '\n' then [first] else if more.isEmpty then [' '] else []) ++ more

/-! ## Plain scalars -/

/-- A bracket, brace or comma, which ends plain text between brackets. -/
def isFlowIndicator (c : Char) : Bool :=
  c == ',' || c == '[' || c == ']' || c == '{' || c == '}'

/-- How many characters of plain text follow on the line. A colon ends it before a gap. -/
def plainLength (inFlow : Bool) : List Char → Nat
  | [] => 0
  | c :: rest =>
    if isGap c || (inFlow && (isFlowIndicator c || c == '?')) ||
        (c == ':' && rest.head?.all fun d => isGap d || (inFlow && isFlowIndicator d)) then 0
    else plainLength inFlow rest + 1

/-- The line ends and spaces before the next text, and whether a separator of documents
stopped them. The line ends read before stand in reverse order. -/
def plainBreaks : (fuel : Nat) → Cursor → List Char → List Char × Cursor × Bool
  | 0, c, read => (read.reverse, c, false)
  | fuel + 1, c, read =>
    if c.peek == some ' ' then plainBreaks fuel c.next read
    else
      match c.takeBreak with
      | none => (read.reverse, c, false)
      | some (ch, after) =>
        if after.atSeparator then ((ch :: read).reverse, after, true)
        else plainBreaks fuel after (ch :: read)

/-- What stands after plain text: what it stands for if more text follows, and whether a
line ended in it. -/
def plainSpaces (c : Cursor) : Scanned × Bool :=
  let spaces := c.span (· == ' ')
  let after := c.skip spaces.length
  match after.takeBreak with
  | none => (⟨spaces, after⟩, false)
  | some (first, below) =>
    if below.atSeparator then (⟨[], below⟩, true)
    else
      match plainBreaks (below.left + 1) below [] with
      | (_, behind, true) => (⟨[], behind⟩, true)
      | (more, behind, false) => (⟨fold first more, behind⟩, true)

/-- Reads plain text after the text and spaces read before. `margin` is the least column of
a line that goes on with it; between brackets there is none. -/
def plainFrom (inFlow : Bool) (margin : Nat) :
    (fuel : Nat) → Cursor → (read spaces : List Char) → (broke : Bool) → Scanned × Bool
  | 0, c, read, _, broke => (⟨read, c⟩, broke)
  | fuel + 1, c, read, spaces, broke =>
    let n := if c.peek == some '#' then 0 else plainLength inFlow c.rest
    if n = 0 then (⟨read, c⟩, broke)
    else
      let read := read ++ spaces ++ c.rest.take n
      let (between, broke) := plainSpaces (c.skip n)
      let c := between.cursor
      if between.chars.isEmpty || c.peek == some '#' || (!inFlow && c.column < margin) then
        (⟨read, c⟩, broke)
      else plainFrom inFlow margin fuel c read between.chars broke

/-- Reads a plain scalar, and whether a line ended behind it. -/
def scanPlain (inFlow : Bool) (margin : Nat) (c : Cursor) : Scanned × Bool :=
  plainFrom inFlow margin (c.left + 1) c [] [] false

/-! ## Quoted scalars -/

/-- What one character after a backslash stands for. -/
def escapes : List (Char × Char) :=
  [('0', '\x00'), ('a', '\x07'), ('b', '\x08'), ('t', '\t'), ('\t', '\t'), ('n', '\n'),
    ('v', '\x0b'), ('f', '\x0c'), ('r', '\r'), ('e', '\x1b'), (' ', ' '), ('"', '"'),
    ('\\', '\\'), ('/', '/'), ('N', '\x85'), ('_', '\xa0'), ('L', '\u2028'), ('P', '\u2029')]

/-- How many hexadecimal digits follow a letter after a backslash. -/
def codeWidths : List (Char × Nat) := [('x', 2), ('u', 4), ('U', 8)]

/-- The point that an escaped code stands for. -/
def escapedPoint (n : Nat) : Except Fault Point :=
  if n > 0x10FFFF then .error (if n > codeLimit then .hugeCode else .badCode)
  else .ok (.ofCode n)

/-- The line ends before the next text of a quoted scalar. A separator of documents may not
stand among them. -/
def quotedBreaks : (fuel : Nat) → Cursor → List Char → Except Halt Scanned
  | 0, c, _ => c.refuse
  | fuel + 1, c, read =>
    if c.atSeparator then c.refuse
    else
      let c := c.skipWhile fun ch => ch == ' ' || ch == '\t'
      match c.takeBreak with
      | some (ch, after) => quotedBreaks fuel after (ch :: read)
      | none => .ok ⟨read.reverse, c⟩

/-- Reads the escape after a backslash. -/
def scanEscape (c : Cursor) : Except Halt Unescaped := do
  let some ch := c.peek | c.refuse
  match escapes.lookup ch, codeWidths.lookup ch with
  | some meaning, _ => return ⟨[.char meaning], c.next⟩
  | none, some width =>
    let digits := (c.next.rest.take width).takeWhile fun ch => (Text.hexValue? ch).isSome
    let last := c.skip digits.length
    if digits.length < width then last.next.refuse
    else
      match escapedPoint ((Text.readHex? digits).getD 0) with
      | .ok p => return ⟨[p], last.next⟩
      | .error fault => last.halt fault
  | none, none =>
    match c.takeBreak with
    | some (_, below) => return (← quotedBreaks (below.left + 1) below []).unescaped
    | none => c.refuse

/-- A character that stands for itself in any quoted scalar. -/
def isQuotedPlain (c : Char) : Bool := !(c == '\'' || c == '"' || c == '\\' || isGap c)

/-- Reads a quoted scalar behind its opening quote, after the text read before, which is
given in reverse order. -/
def quotedFrom (quote : Char) : (fuel : Nat) → Cursor → List Point → Except Halt Unescaped
  | 0, c, _ => c.refuse
  | fuel + 1, c, read =>
    match c.rest with
    | [] => c.refuse
    | ch :: rest =>
      if isQuotedPlain ch then quotedFrom quote fuel c.next (.char ch :: read)
      else if ch == quote then
        if quote == '\'' && rest.head? == some '\'' then
          quotedFrom quote fuel (c.skip 2) (.char '\'' :: read)
        else .ok ⟨read.reverse, c.next⟩
      else if ch == '\\' && quote == '"' then do
        let escape ← scanEscape c.next
        quotedFrom quote fuel escape.cursor (escape.points.reverse ++ read)
      else if !isGap ch then quotedFrom quote fuel c.next (.char ch :: read)
      else do
        let spaces := c.span fun ch => ch == ' ' || ch == '\t'
        let after := c.skip spaces.length
        match after.takeBreak with
        | none => quotedFrom quote fuel after (spaces.reverse.map .char ++ read)
        | some (first, below) =>
          let breaks ← quotedBreaks (below.left + 1) below []
          quotedFrom quote fuel breaks.cursor
            ((fold first breaks.chars).reverse.map .char ++ read)

/-- Reads a quoted scalar from its opening quote. -/
def scanQuoted (quote : Char) (c : Cursor) : Except Halt Unescaped :=
  quotedFrom quote (c.left + 1) c.next []

/-! ## Block scalars -/

/-- What becomes of the line ends behind the last line of a block. -/
inductive Chomp
  | strip
  | clip
  | keep
deriving Repr, DecidableEq

/-- The header of a block scalar: chomping and how far its lines are indented. -/
structure BlockHeader where
  chomp : Chomp
  indent : Option Nat
  cursor : Cursor

def chompAt? (c : Cursor) : Option Chomp :=
  match c.peek with
  | some '+' => some .keep
  | some '-' => some .strip
  | _ => none

/-- The digit of an explicit indentation; zero is refused. -/
def indentAt? (c : Cursor) : Except Halt (Option Nat) :=
  match c.peek with
  | some ch =>
    if ch == '0' then c.refuse
    else if '1' ≤ ch && ch ≤ '9' then .ok (some (ch.toNat - 48))
    else .ok none
  | none => .ok none

/-- Reads the header behind the indicator, up to the end of its line. -/
def scanBlockHeader (c : Cursor) : Except Halt BlockHeader := do
  let (chomp, indent, c) ← match chompAt? c with
    | some chomp => do
      let indent ← indentAt? c.next
      pure (chomp, indent, if indent.isSome then c.skip 2 else c.next)
    | none =>
      match ← indentAt? c with
      | some n => match chompAt? c.next with
        | some chomp => pure (chomp, some n, c.skip 2)
        | none => pure (.clip, some n, c.next)
      | none => pure (.clip, none, c)
  if !c.atSpace then c.refuse
  let c := c.skipComment
  if !c.atLineEnd then c.refuse
  return ⟨chomp, indent, ((c.takeBreak).map Prod.snd).getD c⟩

/-- Skips blank lines at the front of a block and finds the widest indentation in them. -/
def blockLead : (fuel : Nat) → Cursor → List Char → (widest : Nat) → Scanned × Nat
  | 0, c, read, widest => (⟨read.reverse, c⟩, widest)
  | fuel + 1, c, read, widest =>
    if c.peek == some ' ' then blockLead fuel c.next read (max widest c.next.column)
    else
      match c.takeBreak with
      | some (ch, after) => blockLead fuel after (ch :: read) widest
      | none => (⟨read.reverse, c⟩, widest)

/-- Skips spaces up to a column. -/
def skipIndent (column : Nat) (c : Cursor) : Cursor :=
  c.skip (min (column - c.column) (c.span (· == ' ')).length)

/-- The line ends before the next line of a block that is indented to a column. -/
def blockBreaks (column : Nat) : (fuel : Nat) → Cursor → List Char → Scanned
  | 0, c, read => ⟨read.reverse, c⟩
  | fuel + 1, c, read =>
    let c := skipIndent column c
    match c.takeBreak with
    | some (ch, after) => blockBreaks column fuel after (ch :: read)
    | none => ⟨read.reverse, c⟩

/-- Reads the lines of a block. The text read before, the last line end and the line ends
behind it are given back apart. -/
def blockLines (folded : Bool) (column : Nat) :
    (fuel : Nat) → Cursor → (read : List Char) → (last : List Char) → (breaks : List Char) →
    List Char × List Char × List Char × Cursor
  | 0, c, read, last, breaks => (read, last, breaks, c)
  | fuel + 1, c, read, last, breaks =>
    if c.column != column || c.peek.isNone then (read, last, breaks, c)
    else
      let atText := fun c : Cursor => !(c.peek == some ' ' || c.peek == some '\t')
      let line := c.span (!isBreak ·)
      let read := read ++ breaks ++ line
      let behind := c.skip line.length
      let (last, below) := match behind.takeBreak with
        | some (ch, below) => ([ch], below)
        | none => ([], behind)
      let next := blockBreaks column (below.left + 1) below []
      let goesOn := next.cursor.column == column && next.cursor.peek.isSome
      if !goesOn then (read, last, next.chars, next.cursor)
      else
        let joint :=
          if folded && last == ['\n'] && atText c && atText next.cursor then
            (if next.chars.isEmpty then [' '] else [])
          else last
        blockLines folded column fuel next.cursor (read ++ joint) last next.chars

/-- Reads a block scalar from its indicator. `margin` is the least column of its lines. -/
def scanBlock (folded : Bool) (margin : Nat) (c : Cursor) : Except Halt Scanned := do
  let header ← scanBlockHeader c.next
  let c := header.cursor
  let least := max margin 1
  let fuel := c.left + 1
  let (lead, column) := match header.indent with
    | none =>
      let (lead, widest) := blockLead fuel c [] 0
      (lead, max least widest)
    | some n =>
      let column := least + n - 1
      (blockBreaks column fuel c [], column)
  let (read, last, breaks, c) := blockLines folded column fuel lead.cursor [] [] lead.chars
  let tail := match header.chomp with
    | .strip => []
    | .clip => last
    | .keep => last ++ breaks
  return ⟨read ++ tail, c⟩

end Casebook.Yaml

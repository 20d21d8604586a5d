import Casebook.Text.Utf8
import Casebook.Yaml.Scalar

/-!
# YAML tokens

A document is cut into tokens: scalars, names, indicators, and the beginnings and ends of
block collections, which are told from the columns. A key on one line is known as a key
only when its colon is met, so the scanner remembers where the tokens of a possible key
begin and puts the marks for it there afterwards. It reads no further than it has to: up to the
next token, or to where it is settled whether that token begins a key. What is wrong with the text
behind it shows only when it is reached.
-/

namespace Casebook.Yaml

/-- An instruction in front of a document. -/
inductive Directive
  | version (major : Nat)
  | tag (handle start : String)
  | other
deriving Repr, DecidableEq

/-- A part of a document. -/
inductive Token
  | directive (d : Directive)
  | documentStart
  | documentEnd
  | blockSequence
  | blockMap
  | blockEnd
  | flowSequence
  | flowSequenceEnd
  | flowMap
  | flowMapEnd
  | entry
  | comma
  | key
  | value
  | alias (name : String)
  | anchor (name : String)
  /-- A tag: the handle that is to be replaced, if there is one, and the rest. -/
  | tag (handle : Option String) (rest : String)
  | scalar (text : Text) (plain : Bool)
deriving Repr, DecidableEq

/-- The beginning of what may be a key on one line. -/
structure PossibleKey where
  /-- How many brackets are open around it. -/
  level : Nat
  /-- How many tokens stand before it. -/
  before : Nat
  /-- Nothing but a key may stand there. -/
  required : Bool
  index : Nat
  line : Nat
  column : Nat
deriving Repr

structure Scanner where
  cursor : Cursor
  /-- One more than the column of the innermost block collection, or zero. -/
  margin : Nat
  /-- The margins around it. -/
  outer : List Nat
  /-- How many brackets are open. -/
  level : Nat
  keyAllowed : Bool
  keys : List PossibleKey
  /-- How many tokens have been taken. -/
  taken : Nat
  /-- The tokens that were read and not taken yet. -/
  waiting : Array Token
  /-- The text has been read to its end. -/
  done : Bool

/-- How many characters a key on one line may have, its quotes counted. -/
def keyLimit : Nat := 1024

namespace Scanner

/-- The scanner at the beginning of a text. A byte order mark in front is skipped. -/
def start (text : List Char) : Scanner :=
  let c := Cursor.start text
  ⟨if c.peek == some '\uFEFF' then c.next else c, 0, [], 0, true, [], 0, #[], false⟩

def emit (s : Scanner) (t : Token) : Scanner := { s with waiting := s.waiting.push t }

/-- How many tokens were read. -/
def count (s : Scanner) : Nat := s.taken + s.waiting.size

/-- The tokens with one put where so many stand before it. -/
def insertToken (s : Scanner) (before : Nat) (t : Token) : Scanner :=
  let n := before - s.taken
  { s with waiting := s.waiting.extract 0 n ++ #[t] ++ s.waiting.extract n s.waiting.size }

/-- A possible key that is on another line, or too long, is none. -/
def PossibleKey.isStale (c : Cursor) (k : PossibleKey) : Bool :=
  k.line != c.line || c.index - k.index > keyLimit

/-- Drops keys that pass a test, unless one of them is required. -/
def dropKeys (s : Scanner) (p : PossibleKey → Bool) : Except Halt Scanner :=
  if s.keys.any fun k => p k && k.required then s.cursor.refuse
  else .ok { s with keys := s.keys.filter (!p ·) }

def dropStaleKeys (s : Scanner) : Except Halt Scanner :=
  s.dropKeys (PossibleKey.isStale s.cursor)

/-- Drops the possible key between the open brackets. -/
def dropKey (s : Scanner) : Except Halt Scanner := s.dropKeys (·.level == s.level)

/-- Remembers the cursor as the beginning of a possible key, where one is allowed. -/
def markKey (s : Scanner) : Except Halt Scanner :=
  if !s.keyAllowed then .ok s
  else do
    let s ← s.dropKey
    let c := s.cursor
    let required := s.level == 0 && s.margin == c.column + 1
    return { s with keys := s.keys ++
      [⟨s.level, s.count, required, c.index, c.line, c.column⟩] }

/-- Closes block collections whose column is past the given margin. -/
def closeBlocks (margin : Nat) : (outer : List Nat) → Scanner → Scanner
  | [], s => s
  | m :: outer, s =>
    if s.margin > margin then
      closeBlocks margin outer { s.emit .blockEnd with margin := m, outer := outer }
    else s

/-- Closes the block collections that the cursor has left; between brackets there are
none. -/
def unwind (margin : Nat) (s : Scanner) : Scanner :=
  if s.level == 0 then closeBlocks margin s.outer s else s

/-- Opens a block collection at a column, if it is further in than the innermost one; its
mark goes where so many tokens stand before it. -/
def openBlock (s : Scanner) (column : Nat) (before : Nat) (t : Token) : Scanner :=
  if s.level == 0 && s.margin ≤ column then
    { s.insertToken before t with margin := column + 1, outer := s.margin :: s.outer }
  else s

/-- Skips blanks, comments and line ends before the next token. -/
def skipToToken : (fuel : Nat) → Scanner → Scanner
  | 0, s => s
  | fuel + 1, s =>
    let c := s.cursor.skipComment
    match c.takeBreak with
    | some (_, below) =>
      skipToToken fuel { s with cursor := below, keyAllowed := s.keyAllowed || s.level == 0 }
    | none => { s with cursor := c }

/-! ## Names and tags -/

def isAlphanumeric (c : Char) : Bool :=
  ('0' ≤ c && c ≤ '9') || ('A' ≤ c && c ≤ 'Z') || ('a' ≤ c && c ≤ 'z')

/-- A character of a name, a handle, or an instruction. -/
def isNameChar (c : Char) : Bool := isAlphanumeric c || c == '-' || c == '_'

/-- A character of a tag. -/
def isTagChar (c : Char) : Bool :=
  isAlphanumeric c || "-;/?:@&=+$,_.!~*'()[]%".toList.contains c

/-- The bytes of escapes of two hexadecimal digits each after a percent sign. -/
def percentBytes : (fuel : Nat) → Cursor → List UInt8 → Except Halt (List UInt8 × Cursor)
  | 0, c, read => .ok (read.reverse, c)
  | fuel + 1, c, read =>
    if c.peek != some '%' then .ok (read.reverse, c)
    else
      match c.next.rest.take 2 with
      | [a, b] =>
        match Text.readHex? [a, b] with
        | some n => percentBytes fuel (c.skip 3) (UInt8.ofNat n :: read)
        | none => c.next.refuse
      | _ => c.next.refuse

/-- Reads the characters of a tag, escapes decoded, after those read before. -/
def tagChars : (fuel : Nat) → Cursor → List Char → Except Halt Scanned
  | 0, c, read => .ok ⟨read, c⟩
  | fuel + 1, c, read =>
    match c.peek with
    | some ch =>
      if ch == '%' then do
        let (bytes, after) ← percentBytes c.left c []
        match Text.decodeUtf8 bytes with
        | .ok chars => tagChars fuel after (read ++ chars)
        | .error _ => after.refuse
      else if isTagChar ch then tagChars fuel c.next (read ++ [ch])
      else .ok ⟨read, c⟩
    | none => .ok ⟨read, c⟩

/-- Reads a tag, or the beginning that tags share, which has at least one character. -/
def scanTagChars (c : Cursor) : Except Halt Scanned := do
  let scanned ← tagChars (c.left + 1) c []
  if scanned.chars.isEmpty then c.refuse
  return scanned

/-- Reads a handle: an exclamation mark alone, or a name between two of them. -/
def scanHandle (c : Cursor) : Except Halt Scanned :=
  if c.peek != some '!' then c.refuse
  else
    let c := c.next
    if c.peek == some ' ' then .ok ⟨['!'], c⟩
    else
      let name := c.span isNameChar
      let after := c.skip name.length
      if after.peek == some '!' then .ok ⟨'!' :: name ++ ['!'], after.next⟩
      else after.refuse

/-- Reads a name behind its indicator. -/
def scanName (c : Cursor) : Except Halt Scanned :=
  let name := c.next.span isNameChar
  let after := c.next.skip name.length
  if name.isEmpty then after.refuse
  else if after.peek.all fun ch => isGap ch || "?:,]\x7d%@`".toList.contains ch then
    .ok ⟨name, after⟩
  else after.refuse

/-- Whether a second exclamation mark stands before the next space. -/
def hasHandle (c : Cursor) : Bool :=
  (c.next.span fun ch => !(ch == ' ' || isBreak ch)).contains '!'

/-- Reads a tag from its exclamation mark. -/
def scanTag (c : Cursor) : Except Halt (Token × Cursor) := do
  let (token, c) ←
    if c.peekAt 1 == some '<' then do
      let body ← scanTagChars (c.skip 2)
      if body.cursor.peek != some '>' then body.cursor.refuse
      pure (Token.tag none (String.ofList body.chars), body.cursor.next)
    else if c.gapAt 1 then pure (Token.tag none "!", c.next)
    else do
      let handle ← if hasHandle c then scanHandle c else pure ⟨['!'], c.next⟩
      let body ← scanTagChars handle.cursor
      pure (Token.tag (some (String.ofList handle.chars)) (String.ofList body.chars), body.cursor)
  if !c.atSpace then c.refuse
  return (token, c)

/-! ## Directives -/

/-- Reads a number of a version. -/
def scanVersionNumber (c : Cursor) : Except Halt (Nat × Cursor) :=
  let digits := c.span fun ch => '0' ≤ ch && ch ≤ '9'
  if digits.isEmpty then c.refuse
  else
    match Text.readNumeral digits with
    | .ok n => .ok (n, c.skip digits.length)
    | .error long => (c.skip digits.length).halt (.longInteger long.digits)

def skipSpaces (c : Cursor) : Cursor := c.skipWhile (· == ' ')

/-- Reads an instruction from its percent sign to the end of its line. -/
def scanDirective (c : Cursor) : Except Halt (Directive × Cursor) := do
  let name := c.next.span isNameChar
  let c := c.next.skip name.length
  if name.isEmpty || !c.atSpace then c.refuse
  let (d, c) ←
    if name == "YAML".toList then do
      let (major, c) ← scanVersionNumber (skipSpaces c)
      if c.peek != some '.' then c.refuse
      let (_, c) ← scanVersionNumber c.next
      if !c.atSpace then c.refuse
      pure (Directive.version major, c)
    else if name == "TAG".toList then do
      let handle ← scanHandle (skipSpaces c)
      if handle.cursor.peek != some ' ' then handle.cursor.refuse
      let body ← scanTagChars (skipSpaces handle.cursor)
      if !body.cursor.atSpace then body.cursor.refuse
      pure (Directive.tag (String.ofList handle.chars) (String.ofList body.chars), body.cursor)
    else pure (Directive.other, c.skipWhile (!isBreak ·))
  let c := c.skipComment
  if !c.atLineEnd then c.refuse
  return (d, ((c.takeBreak).map Prod.snd).getD c)

/-! ## Tokens -/

/-- A token of fixed length that leaves no possible key and decides about the next one. -/
def indicator (s : Scanner) (t : Token) (length : Nat) (keyAllowed : Bool) :
    Except Halt Scanner := do
  let s ← s.dropKey
  return { s.emit t with cursor := s.cursor.skip length, keyAllowed := keyAllowed }

/-- Opens a bracket, which may begin a key. -/
def openBracket (s : Scanner) (t : Token) : Except Halt Scanner := do
  let s ← s.markKey
  return { s.emit t with cursor := s.cursor.next, level := s.level + 1, keyAllowed := true }

/-- Closes a bracket; one that was never opened is refused. -/
def closeBracket (s : Scanner) (t : Token) : Except Halt Scanner := do
  if s.level == 0 then s.cursor.refuse
  let s ← s.dropKey
  return { s.emit t with cursor := s.cursor.next, level := s.level - 1, keyAllowed := false }

/-- The hyphen of an entry. Outside of brackets it may open a sequence. -/
def takeEntry (s : Scanner) : Except Halt Scanner := do
  if s.level == 0 && !s.keyAllowed then s.cursor.refuse
  (s.openBlock s.cursor.column s.count .blockSequence).indicator .entry 1 true

/-- The question mark of a key. Outside of brackets it may open a map. -/
def takeKey (s : Scanner) : Except Halt Scanner := do
  if s.level == 0 && !s.keyAllowed then s.cursor.refuse
  (s.openBlock s.cursor.column s.count .blockMap).indicator .key 1 (s.level == 0)

/-- The colon of a value. What was a possible key before it is one now. -/
def takeValue (s : Scanner) : Except Halt Scanner :=
  match s.keys.find? (·.level == s.level) with
  | some k =>
    let s := { s with keys := s.keys.filter (·.level != s.level) }
    let s := (s.insertToken k.before .key).openBlock k.column k.before .blockMap
    .ok { s.emit .value with cursor := s.cursor.next, keyAllowed := false }
  | none => do
    if s.level == 0 && !s.keyAllowed then s.cursor.refuse
    (s.openBlock s.cursor.column s.count .blockMap).indicator .value 1 (s.level == 0)

/-- A token that may be a key, read by a function of the cursor. -/
def takeContent (s : Scanner) (read : Cursor → Except Halt (Token × Cursor)) :
    Except Halt Scanner := do
  let s ← s.markKey
  let (t, c) ← read s.cursor
  return { s.emit t with cursor := c, keyAllowed := false }

/-- A quoted scalar. -/
def readQuoted (quote : Char) (c : Cursor) : Except Halt (Token × Cursor) := do
  let scanned ← scanQuoted quote c
  return (.scalar ⟨scanned.points⟩ false, scanned.cursor)

/-- A name behind its indicator. -/
def readName (make : String → Token) (c : Cursor) : Except Halt (Token × Cursor) := do
  let scanned ← scanName c
  return (make (String.ofList scanned.chars), scanned.cursor)

/-- A plain scalar; a line that ends behind it allows a new key. -/
def takePlain (s : Scanner) : Except Halt Scanner := do
  let s ← s.markKey
  let (scanned, broke) := scanPlain (s.level != 0) s.margin s.cursor
  return { s.emit (.scalar (.ofChars scanned.chars) true) with
    cursor := scanned.cursor, keyAllowed := broke }

/-- A block scalar. -/
def takeBlock (s : Scanner) (folded : Bool) : Except Halt Scanner := do
  let s ← s.dropKey
  let scanned ← scanBlock folded s.margin s.cursor
  return { s.emit (.scalar (.ofChars scanned.chars) false) with
    cursor := scanned.cursor, keyAllowed := true }

/-- A mark or instruction at the first column, before which all blocks are closed. -/
def takeMark (s : Scanner) (t : Token) (behind : Cursor) : Except Halt Scanner := do
  let s ← (s.unwind 0).dropKey
  return { s.emit t with cursor := behind, keyAllowed := false }

/-- A character that begins no plain scalar. -/
def isIndicator (c : Char) : Bool := "-?:,[]\x7b\x7d#&*!|>'\"%@`".toList.contains c

/-- A plain scalar begins at the cursor. -/
def atPlain (s : Scanner) : Bool :=
  match s.cursor.peek with
  | none => false
  | some ch =>
    (!isGap ch && !isIndicator ch) ||
      (!s.cursor.gapAt 1 && (ch == '-' || (s.level == 0 && (ch == '?' || ch == ':'))))

/-- Reads the token at the cursor, where one character at least is left. -/
def takeToken (s : Scanner) (ch : Char) : Except Halt Scanner :=
  let c := s.cursor
  let inFlow := s.level != 0
  if c.column == 0 && ch == '%' then do
    let (d, behind) ← scanDirective c
    s.takeMark (.directive d) behind
  else if c.column == 0 && c.atSeparator then
    s.takeMark (if ch == '-' then .documentStart else .documentEnd) (c.skip 3)
  else if ch == '[' then s.openBracket .flowSequence
  else if ch == '{' then s.openBracket .flowMap
  else if ch == ']' then s.closeBracket .flowSequenceEnd
  else if ch == '}' then s.closeBracket .flowMapEnd
  else if ch == ',' then s.indicator .comma 1 true
  else if ch == '-' && c.gapAt 1 then s.takeEntry
  else if ch == '?' && (inFlow || c.gapAt 1) then s.takeKey
  else if ch == ':' && (inFlow || c.gapAt 1) then s.takeValue
  else if ch == '*' then s.takeContent (readName .alias)
  else if ch == '&' then s.takeContent (readName .anchor)
  else if ch == '!' then s.takeContent scanTag
  else if ch == '|' && !inFlow then s.takeBlock false
  else if ch == '>' && !inFlow then s.takeBlock true
  else if ch == '\'' || ch == '"' then s.takeContent (readQuoted ch)
  else if s.atPlain then s.takePlain
  else c.refuse

/-- Reads the next token, or comes to the end of the text, where all blocks are closed. -/
def advance (s : Scanner) : Except Halt Scanner := do
  let s := skipToToken (s.cursor.left + 1) s
  let s ← s.dropStaleKeys
  let s := s.unwind (s.cursor.column + 1)
  match s.cursor.peek with
  | none =>
    let s ← (s.unwind 0).dropKey
    return { s with keys := [], done := true }
  | some ch => s.takeToken ch

/-- Whether more has to be read before a token can be taken: there is none, or the first one may
yet turn out to begin a key. -/
def needsMore (s : Scanner) : Except Halt (Scanner × Bool) :=
  if s.done then .ok (s, false)
  else if s.waiting.isEmpty then .ok (s, true)
  else do
    let s ← s.dropStaleKeys
    return (s, s.keys.any (·.before == s.taken))

/-- Reads until a token can be taken or the text ends. -/
def readyWithin : (fuel : Nat) → Scanner → Except Halt Scanner
  | 0, s => s.cursor.refuse
  | fuel + 1, s => do
    let (s, more) ← s.needsMore
    if more then readyWithin fuel (← s.advance) else return s

/-- Reads until a token can be taken or the text ends; every step reads a character or ends. -/
def ready (s : Scanner) : Except Halt Scanner := do
  let (s, more) ← s.needsMore
  if more then readyWithin (s.cursor.left + 2) s else return s

/-- The next token, once the scanner is ready; none at the end of the text. -/
def next? (s : Scanner) : Option Token := s.waiting[0]?

/-- The scanner after its next token was taken. -/
def drop (s : Scanner) : Scanner :=
  { s with waiting := s.waiting.extract 1 s.waiting.size, taken := s.taken + 1 }

end Scanner

end Casebook.Yaml

import Casebook.Console.Literal.Numeral
import Casebook.Text.Identifier
import Casebook.Text.Printable

/-!
# Words of expressions

An expression in a tag is cut into names, numbers, texts and signs. A line that begins farther
right than the ones before it, or farther left, is marked by a word as well, but not inside of
brackets. Cutting goes up to the first place where no word begins. What is wrong there counts
only when it is reached, unless it is loud: then it wins over what is wrong with the order of the
words in front of it.
-/

namespace Casebook.Console.Literal

open Text

/-- A text in quotes: what the letters in front of it say, what stands between the quotes, and
whether that has characters outside of ASCII. -/
structure QuotedText where
  bytes : Bool
  raw : Bool
  formatted : Bool
  /-- Three quotes stand at both ends. -/
  long : Bool
  wide : Bool
  content : List Char
deriving Repr, DecidableEq

/-- A word of an expression. -/
inductive Word
  | name (text : String)
  | number (value : Numeral)
  | text (value : QuotedText)
  | sign (text : String)
  | lineEnd
  | indent
  | dedent
  | finish
deriving Repr, DecidableEq

/-- A word, the number of brackets that are open behind it, and the line on which it begins. -/
structure Placed where
  word : Word
  depth : Nat
  line : Nat
deriving Repr, DecidableEq

/-- What is wrong where the words end too early. -/
structure Break where
  fault : Fault
  isLoud : Bool
  /-- The last bracket that is open there, with its line. -/
  opened : Option (Char × Nat)
  /-- The last word ends where its end is seen only because nothing more follows. -/
  isSeen : Bool
deriving Repr, DecidableEq

/-- The words of a text, and what is wrong behind them. -/
structure Words where
  placed : List Placed
  broken : Option Break
deriving Repr, DecidableEq

/-- What follows a text in quotes, the line on which it ends, and whether it has characters
outside of ASCII. A text without an end goes up to a line. -/
def textTail (quote : Char) (long : Bool) (line : Nat) (wide : Bool) :
    List Char → Except Nat (List Char × Nat × Bool)
  | [] => .error line
  | '\\' :: '\n' :: cs => textTail quote long (line + 1) wide cs
  | '\\' :: c :: cs => textTail quote long line (wide || 128 ≤ c.toNat) cs
  | c :: cs =>
    if c = '\n' then
      if long then textTail quote long (if cs.isEmpty then line else line + 1) wide cs
      else .error line
    else if c = quote then
      if !long then .ok (cs, line, wide)
      else if [quote, quote].isPrefixOf cs then .ok (cs.drop 2, line, wide)
      else textTail quote long line wide cs
    else textTail quote long line (wide || 128 ≤ c.toNat) cs

/-- Letters that may stand in front of the quotes of a text. -/
def textMarks : List String := ["", "b", "u", "r", "f", "br", "rb", "fr", "rf"]

/-- The letters in front of quotes, and what follows them, if a text begins here. -/
def textMark? (cs : List Char) : Option (List Char × List Char) :=
  let mark := cs.takeWhile Char.isAlpha
  let rest := cs.drop mark.length
  if textMarks.contains (String.ofList (mark.map Char.toLower)) &&
    rest.head?.any (fun c => c = '\'' || c = '"') then some (mark, rest) else none

/-- Reads a text in quotes that begins on a line, behind the letters in front of it. Gives what
follows it and the line on which it ends. -/
def quotedText (mark quotes : List Char) (line : Nat) :
    Except Fault (QuotedText × List Char × Nat) :=
  let quote := quotes.headD '\''
  let long := [quote, quote, quote].isPrefixOf quotes
  let has := fun (letter : Char) => mark.any (·.toLower = letter)
  let marks := if long then 3 else 1
  let inner := quotes.drop marks
  match textTail quote long line false inner with
  | .error last => .error (.openText long last)
  | .ok (rest, last, wide) =>
    let content := inner.take (inner.length - rest.length - marks)
    .ok (⟨has 'b', has 'r', has 'f', long, wide, content⟩, rest, last)

/-- Signs of several characters, the longest first, but for brackets. -/
def longSigns : List String :=
  ["**=", "//=", ">>=", "<<=", "...", "**", "//", ">>", "<<", "<=", ">=", "==", "!=", "<>", "->",
    "+=", "-=", "*=", "/=", "%=", "&=", "|=", "^=", "@=", ":="]

/-- The bracket that closes another. -/
def closing (c : Char) : Char := if c = '(' then ')' else if c = '[' then ']' else '\x7d'

/-- How many brackets may be open. -/
def depthLimit : Nat := 200

/-- How many margins there may be. -/
def marginLimit : Nat := 100

/-- The margin of a line: its columns if a tab goes to the next multiple of eight, and if it is
one column wide. -/
structure Margin where
  wide : Nat
  narrow : Nat
deriving Repr, DecidableEq

/-- The margin of a line and what follows it. A backslash at the end of a line joins the next one
to it; the columns in front of the first of them count if there are any. -/
def marginOf (joined : Nat) (m : Margin) (line : Nat) :
    List Char → Except Fault (Margin × Nat × List Char)
  | ' ' :: cs => marginOf joined ⟨m.wide + 1, m.narrow + 1⟩ line cs
  | '\t' :: cs => marginOf joined ⟨(m.wide / 8 + 1) * 8, m.narrow + 1⟩ line cs
  | '\x0c' :: cs => marginOf joined ⟨0, 0⟩ line cs
  | '\\' :: '\n' :: cs =>
    if cs.isEmpty then .error .endAfterBackslash
    else marginOf (if joined = 0 then m.wide else joined) m (line + 1) cs
  | '\\' :: _ => .error .afterBackslash
  | cs => .ok (if joined = 0 then m else ⟨joined, joined⟩, line, cs)

/-- Goes back to the margin of a line, which must be one of the margins. -/
def backTo (m : Margin) : List Margin → Except Fault (List Word × List Margin)
  | [] => .error .unknownMargin
  | last :: outer =>
    if m.wide < last.wide then do
      let (words, margins) ← backTo m outer
      return (.dedent :: words, margins)
    else if m.wide ≠ last.wide then .error .unknownMargin
    else if m.narrow ≠ last.narrow then .error .unclearMargin
    else .ok ([], last :: outer)

/-- The words for how the margin of a line differs from the last one, and the margins then. -/
def turnTo (m : Margin) : List Margin → Except Fault (List Word × List Margin)
  | [] => .ok ([], [m])
  | last :: outer =>
    if m.wide ≤ last.wide then backTo m (last :: outer)
    else if marginLimit ≤ outer.length + 1 then .error .tooManyMargins
    else if m.narrow ≤ last.narrow then .error .unclearMargin
    else .ok ([.indent], m :: last :: outer)

/-- What is known where the next word is cut. -/
structure Cut where
  line : Nat
  /-- The open brackets with their lines, the last one first. -/
  opened : List (Char × Nat)
  /-- The margins, the last one first. -/
  margins : List Margin
  /-- The last word ends here, and its end is seen only by what follows. -/
  isSeen : Bool

namespace Cut

/-- The words end here with a fault. -/
def stop (s : Cut) (fault : Fault) (isLoud : Bool) : Words :=
  ⟨[], some ⟨fault, isLoud, s.opened.head?, false⟩⟩

/-- Puts words that begin here in front of others. -/
def put (s : Cut) (words : List Word) (rest : Words) : Words :=
  { rest with placed := words.map (⟨·, s.opened.length, s.line⟩) ++ rest.placed }

/-- The text ends here. -/
def finish (s : Cut) : Words :=
  match s.opened with
  | (c, line) :: _ => ⟨[], some ⟨.unclosed c, false, some (c, line), s.isSeen⟩⟩
  | [] => s.put [.finish] ⟨[], none⟩

/-- Behind a word whose end is seen, or not, only by what follows. -/
def behind (s : Cut) (isSeen : Bool) : Cut := { s with isSeen }

end Cut

/-- The words of a text, cut from a place on. `atStart` says that a line begins here. `fuel`
bounds the number of words and lines. -/
def cutWords (fuel : Nat) (s : Cut) (atStart : Bool) (cs : List Char) : Words :=
  match fuel with
  | 0 => ⟨[], none⟩
  | fuel + 1 =>
    if atStart then
      match marginOf 0 ⟨0, 0⟩ s.line cs with
      | .error fault => s.stop fault false
      | .ok (m, line, rest) =>
        let s := { s with line }
        let isBlank := rest.head?.any fun c => c = '\n' || c = '#'
        if isBlank then
          match rest.dropWhile (· ≠ '\n') with
          | _ :: next =>
            cutWords fuel { s with line := if next.isEmpty then line else line + 1 } true next
          | [] => cutWords fuel s false []
        else if !s.opened.isEmpty then cutWords fuel s false rest
        else
          match turnTo m s.margins with
          | .error fault => s.stop fault false
          | .ok (words, margins) => s.put words (cutWords fuel { s with margins } false rest)
    else
      match cs with
      | [] => s.finish
      | c :: rest =>
        if c = ' ' || c = '\t' || c = '\x0c' then cutWords fuel (s.behind false) false rest
        else if c = '#' then cutWords fuel (s.behind false) false (rest.dropWhile (· ≠ '\n'))
        else if c = '\n' then
          let next := cutWords fuel
            { s with line := if rest.isEmpty then s.line else s.line + 1, isSeen := false } true rest
          if s.opened.isEmpty then s.put [.lineEnd] next else next
        else
          match textMark? cs with
          | some (mark, quotes) =>
            match quotedText mark quotes s.line with
            | .error fault => s.stop fault true
            | .ok (text, rest, line) =>
              let isSeen := text.content.isEmpty && !text.long
              s.put [.text text] (cutWords fuel { s with line, isSeen } false rest)
          | none =>
            if isNameStart c then
              let name := cs.takeWhile isNameChar
              match notOfIdentifier? name with
              | some c => s.stop (if isPrintable c then .badCharacter c else .unprintable c) true
              | none =>
                s.put [.name (String.ofList name)]
                  (cutWords fuel (s.behind true) false (cs.drop name.length))
            else if c.isDigit || (c = '.' && rest.head?.any Char.isDigit) then
              match if c = '.' then fraction rest else number cs with
              | .error fault => s.stop fault true
              | .ok (value, rest) => s.put [.number value] (cutWords fuel (s.behind true) false rest)
            else if c = '\\' then
              match rest with
              | '\n' :: next =>
                if next.isEmpty then s.stop .endAfterBackslash false
                else cutWords fuel { s with line := s.line + 1, isSeen := false } false next
              | _ => s.stop .afterBackslash false
            else if c = '(' || c = '[' || c = '\x7b' then
              if s.opened.length = depthLimit then s.stop .tooDeep true
              else
                let s := { s with opened := (c, s.line) :: s.opened, isSeen := true }
                s.put [.sign (String.ofList [c])] (cutWords fuel s false rest)
            else if c = ')' || c = ']' || c = '\x7d' then
              match s.opened with
              | [] => s.stop (.unmatched c) true
              | (o, line) :: others =>
                if closing o = c then
                  let s := { s with opened := others, isSeen := true }
                  s.put [.sign (String.ofList [c])] (cutWords fuel s false rest)
                else
                  s.stop (.mismatched c o (if line = s.line then none else some line)) true
            else
              match longSigns.find? (·.toList.isPrefixOf cs) with
              | some sign =>
                s.put [.sign sign]
                  (cutWords fuel (s.behind (sign.length < 3)) false (cs.drop sign.length))
              | none =>
                if !isPrintable c then s.stop (.unprintable c) true
                else s.put [.sign (String.ofList [c])] (cutWords fuel (s.behind true) false rest)

/-- The words of a text that begins on a line. -/
def wordsOf (line : Nat) (cs : List Char) : Words :=
  cutWords (2 * cs.length + 2) ⟨line, [], [⟨0, 0⟩], false⟩ true cs

end Casebook.Console.Literal

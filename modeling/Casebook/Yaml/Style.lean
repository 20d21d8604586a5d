import Casebook.Yaml.Tag

/-!
# Styles of YAML scalars

How a scalar may be written. It is written plain if it reads back as what it is: nothing
in it looks like an indicator, it has no blank at either end and no line end. Otherwise
it stands between single quotes, unless it holds a character that has to be escaped or a
blank beside a line end, and else between double quotes.
-/

namespace Casebook.Yaml

/-- How a scalar is written. -/
inductive Style
  | plain
  | single
  | double
deriving Repr, DecidableEq

namespace Style

/-- A line end that a scalar can be folded at. -/
def isFoldable (c : Char) : Bool :=
  c == '\n' || c == '\x85' || c == '\u2028' || c == '\u2029'

/-- A blank or line end beside which indicators count. -/
def isSpace (c : Char) : Bool := c == ' ' || c == '\t' || c == '\r' || c == '\x00' || isFoldable c

/-- A character that can be written as it is. -/
def isShown (c : Char) : Bool :=
  let n := c.toNat
  c == '\n' || (0x20 ≤ n && n ≤ 0x7E) || c == '\x85' ||
    (0xA0 ≤ n && n ≤ 0xFFFD && c != '\uFEFF') ||
    (0x10000 ≤ n && n < 0x10FFFF)

/-- The first character of a plain scalar outside of brackets would be an indicator. -/
def leadingIndicator (text : List Char) : Bool :=
  match text with
  | [] => false
  | c :: rest =>
    let gap := rest.head?.all isSpace
    "#,[]\x7b\x7d&*!|>'\"%@`".toList.contains c || ((c == '?' || c == ':' || c == '-') && gap)

/-- A colon before a blank, or a number sign behind one, within a text. `blank` says
whether the character before was a blank. -/
def innerIndicator (blank : Bool) : List Char → Bool
  | [] => false
  | c :: rest =>
    (c == ':' && rest.head?.all isSpace) || (c == '#' && blank) || innerIndicator (isSpace c) rest

/-- The text begins like a mark between documents. -/
def beginsLikeMark (text : List Char) : Bool :=
  "---".toList.isPrefixOf text || "...".toList.isPrefixOf text

/-- The text holds something that is an indicator outside of brackets. -/
def hasIndicator (text : List Char) : Bool :=
  beginsLikeMark text || leadingIndicator text ||
    match text with
    | [] => false
    | c :: rest => innerIndicator (isSpace c) rest

/-- Two characters that follow each other and pass a test each. -/
def hasPair (p q : Char → Bool) : List Char → Bool
  | a :: b :: rest => (p a && q b) || hasPair p q (b :: rest)
  | _ => false

def isBlankOrBreak (c : Char) : Bool := c == ' ' || isFoldable c

def hasBreak (text : List Char) : Bool := text.any isFoldable

/-- The text may be written plain outside of brackets. -/
def allowsPlain (text : List Char) : Bool :=
  !(text.head?.any isBlankOrBreak || text.getLast?.any isBlankOrBreak || hasBreak text ||
    !text.all isShown || hasIndicator text)

/-- The text may be written between single quotes. -/
def allowsSingle (text : List Char) : Bool :=
  !(hasPair isFoldable (· == ' ') text || hasPair (· == ' ') isFoldable text || !text.all isShown)

/-- The style of characters. `tagged` says that the plain text would be something else, and
`key` that it stands in front of a colon on one line. -/
def ofChars (text : List Char) (tagged key : Bool) : Style :=
  if !tagged && allowsPlain text && !(key && text.isEmpty) then .plain
  else if allowsSingle text && !(key && hasBreak text) then .single
  else .double

/-- The style of a text; halves of surrogate pairs have to be escaped. -/
def ofText (t : Text) (tagged key : Bool) : Style :=
  (t.chars?.map fun cs => ofChars cs tagged key).getD .double

end Style

end Casebook.Yaml

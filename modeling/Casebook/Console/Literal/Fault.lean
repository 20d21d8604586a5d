import Casebook.Text.Hex

/-!
# Faults of expressions

Why a text in a tag is no expression: a fault in one of its words, or a word that cannot stand
where it does. Many faults of order have a text of their own.
-/

namespace Casebook.Console.Literal

open Text

/-- Why a text is no expression. -/
inductive Fault
  | unclosed (bracket : Char)
  | unmatched (bracket : Char)
  /-- A bracket closes one of another kind, which may stand on an earlier line. -/
  | mismatched (closing opening : Char) (line : Option Nat)
  | openText (long : Bool) (line : Nat)
  | badNumber (kind : String)
  | badDigit (digit : Char) (kind : String)
  | leadingZeros
  /-- A whole number has more digits than are read. -/
  | hugeNumber (digits : Nat)
  | unprintable (c : Char)
  | badCharacter (c : Char)
  | afterBackslash
  | endAfterBackslash
  | tooDeep
  | mixedTexts
  | wideBytes
  /-- An escape in a text is no character; it stands between two positions. -/
  | badEscape (first last : Nat) (flaw : String)
  | badByteEscape (position : Nat)
  | indent
  | dedent
  /-- A line goes back to a margin that no line before it has. -/
  | unknownMargin
  /-- The margin hangs on how wide a tab is. -/
  | unclearMargin
  | tooManyMargins
  /-- A brace in a formatted text closes nothing. -/
  | loneBrace
  /-- A part of a formatted text is not closed. -/
  | openPart
  | partTooDeep
  | partBackslash
  | partComment
  | partOpenText
  | partUnmatched (bracket : Char)
  | partMismatched (closing opening : Char)
  | partBrackets
  | partEmpty
  /-- A part of a formatted text has nothing in front of a mark. -/
  | partMissing (mark : Char)
  | partConversion
  /-- Two expressions stand side by side in brackets. -/
  | noComma
  | noElse
  /-- A name stands in front of an equals sign. -/
  | assignment
  /-- Something else stands in front of an equals sign. -/
  | assignmentTo (what : String)
  | naming (what : String)
  | argumentAssignment
  /-- Something that cannot be given a value stands where a value is given. -/
  | noTarget (what : String)
  | noCall (name : String)
  | starred
  | doubleStarred
  | bareGenerator
  | positionalAfterNamed
  | positionalAfterUnpacked
  | starAfterUnpacked
  | noMapValue
  | noMapColon
  | starredMapValue
  /-- An unpacked value is repeated. -/
  | unpackedComprehension
  | unpackedMapComprehension
  /-- Several values without brackets are repeated. -/
  | bareComprehension
  | noDefaultAfterDefault
  | bracketedParameters
  | nothingBeforeSlash
  | secondSlash
  | slashAfterStar
  | starRightAfterSlash
  | noDefault
  | nothingAfterStar
  | starDefault
  | secondStar
  | doubleStarDefault
  | afterDoubleStar
  | other
  /-- The fault is in a part of a formatted text. -/
  | formatted (fault : Fault)
deriving Repr, DecidableEq

/-- The code point of a character in at least four digits. -/
def codeText (c : Char) : String :=
  let n := c.toNat
  let width := if n < 0x10000 then 4 else if n < 0x100000 then 5 else 6
  String.ofList ((hex width n).map Char.toUpper)

/-- The most digits of a whole number that is read. -/
def digitLimit : Nat := 4300

/-- The text reported for a text that is no expression. -/
def Fault.message : Fault → String
  | .unclosed c => s!"'{c}' was never closed"
  | .unmatched c => s!"unmatched '{c}'"
  | .mismatched closing opening line =>
    s!"closing parenthesis '{closing}' does not match opening parenthesis '{opening}'" ++
      (line.map fun n => s!" on line {n}").getD ""
  | .openText long line =>
    let kind := if long then "triple-quoted string" else "string"
    s!"unterminated {kind} literal (detected at line {line})"
  | .badNumber kind => s!"invalid {kind} literal"
  | .badDigit digit kind => s!"invalid digit '{digit}' in {kind} literal"
  | .leadingZeros =>
    "leading zeros in decimal integer literals are not permitted; " ++
      "use an 0o prefix for octal integers"
  | .hugeNumber digits =>
    s!"Exceeds the limit ({digitLimit} digits) for integer string conversion: value has " ++
      s!"{digits} digits; use sys.set_int_max_str_digits() to increase the limit - Consider " ++
      "hexadecimal for huge integer literals to avoid decimal conversion limits."
  | .unprintable c =>
    "invalid non-printable character U+" ++ codeText c
  | .badCharacter c => s!"invalid character '{c}' (U+{codeText c})"
  | .afterBackslash => "unexpected character after line continuation character"
  | .endAfterBackslash => "unexpected EOF while parsing"
  | .tooDeep => "too many nested parentheses"
  | .mixedTexts => "cannot mix bytes and nonbytes literals"
  | .wideBytes => "bytes can only contain ASCII literal characters"
  | .badEscape first last flaw =>
    s!"(unicode error) 'unicodeescape' codec can't decode bytes in position {first}-{last}: {flaw}"
  | .badByteEscape position => s!"(value error) invalid \\x escape at position {position}"
  | .indent => "unexpected indent"
  | .dedent => "unexpected unindent"
  | .unknownMargin => "unindent does not match any outer indentation level"
  | .unclearMargin => "inconsistent use of tabs and spaces in indentation"
  | .tooManyMargins => "too many levels of indentation"
  | .loneBrace => "f-string: single '\x7d' is not allowed"
  | .openPart => "f-string: expecting '\x7d'"
  | .partTooDeep => "f-string: expressions nested too deeply"
  | .partBackslash => "f-string expression part cannot include a backslash"
  | .partComment => "f-string expression part cannot include '#'"
  | .partOpenText => "f-string: unterminated string"
  | .partUnmatched c => s!"f-string: unmatched '{c}'"
  | .partMismatched closing opening =>
    s!"f-string: closing parenthesis '{closing}' does not match opening parenthesis '{opening}'"
  | .partBrackets => "f-string: too many nested parenthesis"
  | .partEmpty => "f-string: empty expression not allowed"
  | .partMissing mark => s!"f-string: expression required before '{mark}'"
  | .partConversion => "f-string: invalid conversion character: expected 's', 'r', or 'a'"
  | .noComma => "invalid syntax. Perhaps you forgot a comma?"
  | .noElse => "expected 'else' after 'if' expression"
  | .assignment => "invalid syntax. Maybe you meant '==' or ':=' instead of '='?"
  | .assignmentTo what => s!"cannot assign to {what} here. Maybe you meant '==' instead of '='?"
  | .naming what => s!"cannot use assignment expressions with {what}"
  | .argumentAssignment => "expression cannot contain assignment, perhaps you meant \"==\"?"
  | .noTarget what => s!"cannot assign to {what}"
  | .noCall name =>
    s!"Missing parentheses in call to '{name}'. Did you mean {name}(...)?"
  | .starred => "cannot use starred expression here"
  | .doubleStarred => "cannot use double starred expression here"
  | .bareGenerator => "Generator expression must be parenthesized"
  | .positionalAfterNamed => "positional argument follows keyword argument"
  | .positionalAfterUnpacked => "positional argument follows keyword argument unpacking"
  | .starAfterUnpacked => "iterable argument unpacking follows keyword argument unpacking"
  | .noMapValue => "expression expected after dictionary key and ':'"
  | .noMapColon => "':' expected after dictionary key"
  | .starredMapValue => "cannot use a starred expression in a dictionary value"
  | .unpackedComprehension => "iterable unpacking cannot be used in comprehension"
  | .unpackedMapComprehension => "dict unpacking cannot be used in dict comprehension"
  | .bareComprehension => "did you forget parentheses around the comprehension target?"
  | .noDefaultAfterDefault => "non-default argument follows default argument"
  | .bracketedParameters => "Lambda expression parameters cannot be parenthesized"
  | .nothingBeforeSlash => "at least one argument must precede /"
  | .secondSlash => "/ may appear only once"
  | .slashAfterStar => "/ must be ahead of *"
  | .starRightAfterSlash => "expected comma between / and *"
  | .noDefault => "expected default value expression"
  | .nothingAfterStar => "named arguments must follow bare *"
  | .starDefault => "var-positional argument cannot have default value"
  | .secondStar => "* argument may appear only once"
  | .doubleStarDefault => "var-keyword argument cannot have default value"
  | .afterDoubleStar => "arguments cannot follow var-keyword argument"
  | .other => "invalid syntax"
  | .formatted fault => "f-string: " ++ fault.message

end Casebook.Console.Literal

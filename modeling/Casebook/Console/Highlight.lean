import Casebook.Console.Styled
import Casebook.Text.Digit
import Casebook.Text.Pattern
import Casebook.Text.Width

/-!
# Highlights

A print that stands alone sets off what stands out in a text: tags, assignments, brackets,
addresses, numbers, names of values, paths and quoted texts. The console has no colours, so all
that is left of a highlight is that what begins or ends with it is measured by itself.
-/

namespace Casebook.Console

open Text Pattern

namespace Highlight

/-- A letter, digit, numeral or underscore. -/
def word : Pattern := .point (Point.passes isWordChar)

/-- A decimal digit of any script. -/
def anyDigit : Pattern := .point (Point.passes isDigit)

def digit : Pattern := oneOf "0123456789"

def hexDigit : Pattern := oneOf "0123456789ABCDEFabcdef"

/-- A point on the same line. -/
def onLine : Pattern := .point (· ≠ .char '\n')

/-- A tag between angle brackets: what opens it, its name, its contents, and what closes it. -/
def tag : Pattern :=
  all [.marked (text "<"),
    .marked (zeroOrMore (.point fun p => Point.passes (fun c => isWordChar c || "-.:|".contains c) p)),
    .marked (zeroOrMore (.point fun _ => true)), .marked (text ">")]

/-- A name, an equals sign, and a value that may be there. -/
def assignment : Pattern :=
  let quote := maybe (text "\"")
  all [.marked (between 1 50 word), text "=", maybe (.marked (all [quote, oneOrMore word, quote]))]

def bracket : Pattern := .marked (oneOf "][\x7b\x7d()")

/-- An address of four numbers. -/
def shortAddress : Pattern :=
  let number := between 1 3 digit
  .marked (all [number, text ".", number, text ".", number, text ".", number])

/-- An address of numbers between colons. -/
def longAddress : Pattern :=
  let number := between 1 4 hexDigit
  .marked (all [between 1 7 (all [number, text ":", maybe (text ":")]), number])

/-- An address of so many bytes: each with a dash or a colon behind it, or two of them with a
point. -/
def deviceAddress (bytes : Nat) : Pattern :=
  let number := between 1 2 hexDigit
  let pair := times 4 hexDigit
  .marked (first [
    all [times (bytes - 1) (all [number, text "-"]), number],
    all [times (bytes - 1) (all [number, text ":"]), number],
    all [times (bytes / 2 - 1) (all [pair, text "."]), pair]])

/-- An identifier of sixteen bytes. -/
def identifier : Pattern :=
  let dash := text "-"
  .marked (all [times 8 hexDigit, dash, times 4 hexDigit, dash, times 4 hexDigit, dash,
    times 4 hexDigit, dash, times 12 hexDigit])

/-- A name that is called. -/
def called : Pattern :=
  all [.marked (.repeated (first [word, text "."]) 0 none true), text "("]

/-- A word that is a value. -/
def constant : Pattern :=
  first (["True", "False", "None"].map fun name =>
    all [.edge true, .marked (text name), .edge true])

/-- The exponent of a number, with one digit or with all that fit. -/
def exponent (isShort : Bool) : Pattern :=
  maybe (all [text "e", maybe (oneOf "-+"), .repeated anyDigit 1 none isShort])

/-- The digits of a number, with a point that may be among them. -/
def digits : Pattern := all [oneOrMore digit, maybe (text "."), zeroOrMore digit]

/-- Where a number can begin, and the sign in front of it. -/
def beginning : Pattern :=
  all [.notBehind (Point.passes isWordChar), maybe (text "-")]

def complexNumber : Pattern :=
  .marked (all [beginning, digits, exponent true,
    maybe (all [oneOf "-+", digits, exponent false]), text "j"])

def number : Pattern :=
  .marked (first [all [beginning, digits, exponent true, .edge true],
    all [text "0x", zeroOrMore hexDigit]])

/-- A path: its folders, and the name behind them. -/
def path : Pattern :=
  let name := .point fun p => Point.passes (fun c => isWordChar c || "-.+".contains c) p
  all [.marked (all [.edge false, zeroOrMore (all [text "/", oneOrMore name]), text "/"]),
    .marked (zeroOrMore name)]

/-- A text in quotes on one line; a backslash keeps a quote from closing it. -/
def quoted : Pattern :=
  let within := fun (quote : String) =>
    all [maybe (text "b"), text quote, .repeated onLine 0 none true,
      .notBehind (· = .char '\\'), text quote]
  all [.notBehind fun p => p = .char '\\' || Point.passes isWordChar p,
    .marked (first (["'''", "'", "\"\"\"", "\""].map within))]

/-- The address of a page. -/
def link : Pattern :=
  .marked (all [first (["file", "https", "http", "ws", "wss"].map text), text "://",
    zeroOrMore (.point (Point.passes fun c =>
      c.isAlphanum || "-$_+!`(),.?/;:&=%#~@".contains c))])

/-- The patterns of highlights. Each is looked for by itself. -/
def patterns : List Pattern :=
  [tag, assignment, bracket,
    first [shortAddress, longAddress, deviceAddress 8, deviceAddress 6, identifier, called, constant,
      .marked (text "..."), complexNumber, number, path, quoted, link]]

end Highlight

/-- The text with its highlights. It takes no more cells for them unless a joiner is cut off from
what it joins, so a text without one has none. -/
def Styled.highlighted (t : Styled) : Styled :=
  if t.points.contains joiner then
    let marks := Highlight.patterns.flatMap (·.marks t.points)
    { t with spans := marks.map (fun m => ⟨m.start, m.stop, none⟩) ++ t.spans }
  else t

end Casebook.Console

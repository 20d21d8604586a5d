import Casebook.Text.Blank
import Casebook.Text.Digit
import Casebook.Text.Lines
import Casebook.Text.Lower

/-!
# Styles

A style is written in words: attributes, attributes behind `not`, a colour, a colour behind
`on` for the background, and an address behind `link`. The words may stand in any order, and
the last of a kind counts. A style is compared by its own text, in which the words stand in a
fixed order.
-/

namespace Casebook.Console

open Text

/-- The attributes of a style, in the order in which its text has them. -/
def attributes : List String :=
  ["bold", "dim", "italic", "underline", "blink", "blink2", "reverse", "conceal", "strike",
    "underline2", "frame", "encircle", "overline"]

/-- Short forms of attributes. -/
def shortAttributes : List (String × String) :=
  [("d", "dim"), ("b", "bold"), ("i", "italic"), ("u", "underline"), ("r", "reverse"),
    ("c", "conceal"), ("s", "strike"), ("uu", "underline2"), ("o", "overline")]

/-- The attribute that a word names. -/
def attribute? (word : String) : Option String :=
  if attributes.contains word then some word else shortAttributes.lookup word

/-- The colours that have a name. -/
def namedColors : List String :=
  [
    "black", "red", "green", "yellow", "blue", "magenta", "cyan", "white", "bright_black",
    "bright_red", "bright_green", "bright_yellow", "bright_blue", "bright_magenta",
    "bright_cyan", "bright_white", "grey0", "gray0", "navy_blue", "dark_blue", "blue3", "blue1",
    "dark_green", "deep_sky_blue4", "dodger_blue3", "dodger_blue2", "green4", "spring_green4",
    "turquoise4", "deep_sky_blue3", "dodger_blue1", "green3", "spring_green3", "dark_cyan",
    "light_sea_green", "deep_sky_blue2", "deep_sky_blue1", "spring_green2", "cyan3",
    "dark_turquoise", "turquoise2", "green1", "spring_green1", "medium_spring_green", "cyan2",
    "cyan1", "dark_red", "deep_pink4", "purple4", "purple3", "blue_violet", "orange4", "grey37",
    "gray37", "medium_purple4", "slate_blue3", "royal_blue1", "chartreuse4", "dark_sea_green4",
    "pale_turquoise4", "steel_blue", "steel_blue3", "cornflower_blue", "chartreuse3",
    "cadet_blue", "sky_blue3", "steel_blue1", "pale_green3", "sea_green3", "aquamarine3",
    "medium_turquoise", "chartreuse2", "sea_green2", "sea_green1", "aquamarine1",
    "dark_slate_gray2", "dark_magenta", "dark_violet", "purple", "light_pink4", "plum4",
    "medium_purple3", "slate_blue1", "yellow4", "wheat4", "grey53", "gray53", "light_slate_grey",
    "light_slate_gray", "medium_purple", "light_slate_blue", "dark_olive_green3",
    "dark_sea_green", "light_sky_blue3", "sky_blue2", "dark_sea_green3", "dark_slate_gray3",
    "sky_blue1", "chartreuse1", "light_green", "pale_green1", "dark_slate_gray1", "red3",
    "medium_violet_red", "magenta3", "dark_orange3", "indian_red", "hot_pink3", "medium_orchid3",
    "medium_orchid", "medium_purple2", "dark_goldenrod", "light_salmon3", "rosy_brown", "grey63",
    "gray63", "medium_purple1", "gold3", "dark_khaki", "navajo_white3", "grey69", "gray69",
    "light_steel_blue3", "light_steel_blue", "yellow3", "dark_sea_green2", "light_cyan3",
    "light_sky_blue1", "green_yellow", "dark_olive_green2", "dark_sea_green1", "pale_turquoise1",
    "deep_pink3", "magenta2", "hot_pink2", "orchid", "medium_orchid1", "orange3", "light_pink3",
    "pink3", "plum3", "violet", "light_goldenrod3", "tan", "misty_rose3", "thistle3", "plum2",
    "khaki3", "light_goldenrod2", "light_yellow3", "grey84", "gray84", "light_steel_blue1",
    "yellow2", "dark_olive_green1", "honeydew2", "light_cyan1", "red1", "deep_pink2",
    "deep_pink1", "magenta1", "orange_red1", "indian_red1", "hot_pink", "dark_orange", "salmon1",
    "light_coral", "pale_violet_red1", "orchid2", "orchid1", "orange1", "sandy_brown",
    "light_salmon1", "light_pink1", "pink1", "plum1", "gold1", "navajo_white1", "misty_rose1",
    "thistle1", "yellow1", "light_goldenrod1", "khaki1", "wheat1", "cornsilk1", "grey100",
    "gray100", "grey3", "gray3", "grey7", "gray7", "grey11", "gray11", "grey15", "gray15",
    "grey19", "gray19", "grey23", "gray23", "grey27", "gray27", "grey30", "gray30", "grey35",
    "gray35", "grey39", "gray39", "grey42", "gray42", "grey46", "gray46", "grey50", "gray50",
    "grey54", "gray54", "grey58", "gray58", "grey62", "gray62", "grey66", "gray66", "grey70",
    "gray70", "grey74", "gray74", "grey78", "gray78", "grey82", "gray82", "grey85", "gray85",
    "grey89", "gray89", "grey93", "gray93"]

/-- A part of a colour is written as no number. -/
inductive ColorFault
  | empty
  | long (fault : LongNumeral)
deriving Repr, DecidableEq

/-- The text reported for a colour whose parts are no numbers. -/
def ColorFault.message : ColorFault → String
  | .empty => "invalid literal for int() with base 10: ''"
  | .long f => f.message

/-- The largest number that a part of a colour has. -/
def colorLimit : Nat := 255

/-- The number of a part of a colour. -/
def colorPart (digits : List Char) : Except ColorFault Nat :=
  if digits.isEmpty then .error .empty else (readNumeral digits).mapError .long

/-- The text between a beginning and a closing bracket. -/
def bracketed? (start : String) (word : List Char) : Option (List Char) :=
  if start.toList.isPrefixOf word && word.getLast? = some ')' then
    some ((word.drop start.length).dropLast)
  else none

/-- Six digits to the base sixteen, in lower case. -/
def isSixHexDigits (cs : List Char) : Bool :=
  cs.length == 6 && cs.all fun c => ('0' ≤ c && c ≤ '9') || ('a' ≤ c && c ≤ 'f')

/-- A word in lower case is a colour: a name, six digits behind a number sign, the number of
one of 256 colours, or three parts. -/
def isColor (word : List Char) : Except ColorFault Bool := do
  if word = "default".toList || namedColors.contains (String.ofList word) then return true
  if word.head? = some '#' then return isSixHexDigits word.tail
  if let some digits := bracketed? "color(" word then
    return 1 ≤ digits.length && digits.length ≤ 3 && digits.all Char.isDigit &&
      digitsValue digits ≤ colorLimit
  if let some parts := bracketed? "rgb(" word then
    if parts.isEmpty || !parts.all (fun c => isDigit c || c = ',') then return false
    match splitAt ',' parts with
    | [red, green, blue] => do
      let red ← colorPart red
      let green ← colorPart green
      let blue ← colorPart blue
      return red ≤ colorLimit && green ≤ colorLimit && blue ≤ colorLimit
    | _ => return false
  return false

/-- What the words of a style say. -/
structure Style where
  /-- Attributes that are switched on or off. -/
  switches : List (String × Bool)
  color : Option String
  background : Option String
  link : Option Text
deriving Repr, DecidableEq

/-- Why words are no style. -/
inductive StyleFault
  /-- A word means nothing in its place. -/
  | unknown
  | color (fault : ColorFault)
deriving Repr, DecidableEq

/-- The text of a colour. -/
def colorText (word : Text) : Except StyleFault String :=
  match (lower word).chars? with
  | none => .error .unknown
  | some cs => do
    if ← (isColor cs).mapError .color then return String.ofList cs else throw .unknown

namespace Style

/-- Adds the words of a style; an attribute that is switched twice is as it was switched
last. -/
def addWords (s : Style) : List Text → Except StyleFault Style
  | [] => .ok s
  | word :: rest =>
    let switch := fun name on => { s with switches := (name, on) :: s.switches }
    match (lower word).string?, rest with
    | none, _ | some "on", [] | some "not", [] | some "link", [] => .error .unknown
    | some "on", next :: rest => do
      let name ← colorText next
      addWords { s with background := some name } rest
    | some "not", next :: rest =>
      match next.string?.bind attribute? with
      | some name => addWords (switch name false) rest
      | none => .error .unknown
    | some "link", next :: rest => addWords { s with link := some next } rest
    | some text, rest =>
      match attribute? text with
      | some name => addWords (switch name true) rest
      | none => do
        let name ← colorText word
        addWords { s with color := some name } rest

/-- The style that words describe. -/
def ofWords (words : List Text) : Except StyleFault Style := addWords ⟨[], none, none, none⟩ words

/-- The words of a style in their fixed order. -/
def words (s : Style) : List Text :=
  let switched := attributes.flatMap fun name =>
    match s.switches.lookup name with
    | some true => [name]
    | some false => ["not", name]
    | none => []
  let colors := s.color.toList ++ (s.background.map (["on", ·])).getD []
  (switched ++ colors).map Text.ofString ++ (s.link.map ([Text.ofString "link", ·])).getD []

/-- The text by which a style is compared. -/
def text (s : Style) : Text := if s.words.isEmpty then "none" else Text.joined " " s.words

end Style

/-- The text by which what is written as a style is compared; words that are no style are
compared in lower case. -/
def styleName (written : Text) : Except ColorFault Text :=
  if written.trim = "none" then .ok "none"
  else
    match Style.ofWords written.blankSplit with
    | .ok style => .ok style.text
    | .error (.color fault) => .error fault
    | .error .unknown => .ok (lower written.trim)

end Casebook.Console

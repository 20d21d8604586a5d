import Casebook.Text.Hex
import Casebook.Text.Name.Africa
import Casebook.Text.Name.Ancient
import Casebook.Text.Name.Asia
import Casebook.Text.Name.EastAsia
import Casebook.Text.Name.Europe
import Casebook.Text.Name.MiddleEast
import Casebook.Text.Name.Sign
import Casebook.Text.Range

/-!
# Names of characters

Characters have names of capital letters, digits, blanks and hyphens. Ideographs, Korean syllables,
dot patterns and variation selectors are named by rules. All others stand in tables, with second
names of controls and of characters that were named badly at first.

A table holds names in the order of their words, with bars in between. A digit says with how many
words of the name before it a name begins.
-/

namespace Casebook.Text

/-- The tables of names. -/
def nameTables : List (List String) :=
  [NameTable.europe, NameTable.sign, NameTable.eastAsia, NameTable.middleEast, NameTable.asia,
    NameTable.africa, NameTable.ancient]

/-- The parts of a list between occurrences of an element. -/
def partsBetween (x : Char) : List Char → List (List Char)
  | [] => [[]]
  | c :: cs =>
    match partsBetween x cs with
    | part :: parts => if c = x then [] :: part :: parts else (c :: part) :: parts
    | [] => [[c]]

/-- A name, as its words, is one of the names of a table, of which the words of the one in front
are given. -/
def isListed (name before : List (List Char)) : List (List Char) → Bool
  | [] => false
  | [] :: entries => isListed name before entries
  | (d :: own) :: entries =>
    let words := before.take (d.toNat - '0'.toNat) ++ partsBetween ' ' own
    words == name || isListed name words entries

/-- The text behind the beginning of a name. -/
def behind? (start : String) (name : List Char) : Option (List Char) :=
  if start.toList.isPrefixOf name then some (name.drop start.length) else none

/-- The code points of unified ideographs. -/
def unifiedIdeographs : List (Nat × Nat) :=
  [(0x3400, 0x4dbf), (0x4e00, 0x9fff), (0x20000, 0x2a6df), (0x2a700, 0x2b738), (0x2b740, 0x2b81d),
    (0x2b820, 0x2cea1), (0x2ceb0, 0x2ebe0), (0x30000, 0x3134a)]

/-- Digits are a code point in some ranges, written with four or five of them. -/
def isCodeIn (ranges : List (Nat × Nat)) (digits : List Char) : Bool :=
  (digits.length = 4 || digits.length = 5) && (readHex? digits).any (isInRanges ranges)

/-- A name is that of a unified ideograph: its code point in capital digits. -/
def isIdeographName (name : List Char) : Bool :=
  (behind? "CJK UNIFIED IDEOGRAPH-" name).any fun digits =>
    digits.all (fun c => c = c.toUpper) && isCodeIn unifiedIdeographs digits

/-- The names of the parts of Korean syllables: of consonants in front, of vowels, and of
consonants behind. -/
def syllableParts : List (List String) :=
  [["", "G", "GG", "N", "D", "DD", "R", "M", "B", "BB", "S", "SS", "J", "JJ", "C", "K", "T", "P",
      "H"],
    ["A", "AE", "YA", "YAE", "EO", "E", "YEO", "YE", "O", "WA", "WAE", "OE", "YO", "U", "WEO",
      "WE", "WI", "YU", "EU", "YI", "I"],
    ["", "G", "GG", "GS", "N", "NJ", "NH", "D", "L", "LG", "LM", "LB", "LS", "LT", "LP", "LH", "M",
      "B", "BS", "S", "SS", "NG", "J", "C", "K", "T", "P", "H"]]

/-- A text is made of one of each of some parts. -/
def isMadeOf : List (List String) → List Char → Bool
  | [], cs => cs.isEmpty
  | part :: parts, cs => part.any fun p => (behind? p cs).any (isMadeOf parts)

/-- A name is that of a Korean syllable. -/
def isSyllableName (name : List Char) : Bool :=
  (behind? "HANGUL SYLLABLE " name).any (isMadeOf syllableParts)

/-- What begins the names of characters that are told apart by their code points, with these. -/
def codedNames : List (String × List (Nat × Nat)) :=
  [("CJK COMPATIBILITY IDEOGRAPH-", [(0xf900, 0xfa6d), (0xfa70, 0xfad9), (0x2f800, 0x2fa1d)]),
    ("KHITAN SMALL SCRIPT CHARACTER-", [(0x18b00, 0x18cd5)]),
    ("NUSHU CHARACTER-", [(0x1b170, 0x1b2fb)])]

/-- A name ends in a code point, which has no needless zero in front. -/
def isCodedName (name : List Char) : Bool :=
  codedNames.any fun (start, ranges) => (behind? start name).any fun digits =>
    digits.head? ≠ some '0' && isCodeIn ranges digits

/-- What begins the names of characters that are counted, how many digits the numbers have at
least, and the last number. -/
def countedNames : List (String × Nat × Nat) :=
  [("VARIATION SELECTOR-", 1, 256), ("VS", 1, 256), ("TANGUT COMPONENT-", 3, 768)]

/-- A name ends in a number from one up, filled with zeros only as far as needed. -/
def isCountedName (name : List Char) : Bool :=
  countedNames.any fun (start, least, last) => (behind? start name).any fun digits =>
    digits.all Char.isDigit && least ≤ digits.length && digits.length ≤ 3 &&
      (digits.length = least || digits.head? ≠ some '0') &&
      isInRanges [(1, last)] (digits.foldl (fun n c => 10 * n + (c.toNat - '0'.toNat)) 0)

/-- Digits from one to eight, each greater than the one before it. -/
def areDots : List Char → Bool
  | [] => false
  | [d] => '1' ≤ d && d ≤ '8'
  | d :: e :: rest => '1' ≤ d && d < e && areDots (e :: rest)

/-- A name is that of a pattern of dots that fingers read. -/
def isDotsName (name : List Char) : Bool := (behind? "BRAILLE PATTERN DOTS-" name).any areDots

/-- A text is the name of a character. Names of unified ideographs and of Korean syllables are
written in capital letters only. -/
def isCharacterName (name : List Char) : Bool :=
  let capital := name.map Char.toUpper
  isIdeographName name || isSyllableName name || isCodedName capital || isCountedName capital ||
    isDotsName capital ||
    nameTables.any fun table =>
      isListed (partsBetween ' ' capital) [] (table.flatMap fun line => partsBetween '|' line.toList)

end Casebook.Text

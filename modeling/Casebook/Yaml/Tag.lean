import Casebook.Text.Point

/-!
# Tags of YAML nodes

A tag says what kind of value a node holds. A plain scalar without a tag gets one from
its text: truth values, numbers, null, dates and moments are known by their form, and
every other text is a text.
-/

namespace Casebook.Yaml

/-- What kind of value a node holds. -/
inductive Tag
  | null
  | bool
  | int
  | float
  | timestamp
  | text
  | binary
  | sequence
  | map
  | set
  | orderedMap
  | pairs
  /-- The key whose value is merged into the map around it. -/
  | merge
  /-- The key that stands for the value of the map around it. -/
  | value
  | unknown
deriving Repr, DecidableEq

namespace Tag

/-- The tags that have a name of their own. -/
def named : List (String × Tag) :=
  [("null", .null), ("bool", .bool), ("int", .int), ("float", .float),
    ("timestamp", .timestamp), ("str", .text), ("binary", .binary), ("seq", .sequence),
    ("map", .map), ("set", .set), ("omap", .orderedMap), ("pairs", .pairs),
    ("merge", .merge), ("value", .value)]

/-- What stands before the name of a tag. -/
def space : String := "tag:yaml.org,2002:"

/-- The tag with the given full name. -/
def ofName (name : String) : Tag :=
  ((named.find? fun t => space ++ t.1 == name).map Prod.snd).getD .unknown

/-! ## Forms of plain texts -/

def isDigit (c : Char) : Bool := '0' ≤ c && c ≤ '9'

def isDigitOrBar (c : Char) : Bool := isDigit c || c == '_'

/-- The text without one sign in front. -/
def unsigned : List Char → List Char
  | '-' :: cs => cs
  | '+' :: cs => cs
  | cs => cs

/-- At least one character, all of which pass a test. -/
def some? (p : Char → Bool) (cs : List Char) : Bool := !cs.isEmpty && cs.all p

/-- Parts of a mixed radix number: a colon and one digit, or a digit up to five and one
more. Gives what follows at least one part. -/
def sixties : (parts : Nat) → List Char → Option (List Char)
  | 0, _ => none
  | parts + 1, ':' :: rest =>
    match rest.takeWhile isDigit, rest.dropWhile isDigit with
    | [_], rest => some ((sixties parts rest).getD rest)
    | [d, _], rest => if d ≤ '5' then some ((sixties parts rest).getD rest) else none
    | _, _ => none
  | _, _ => none

/-- An integer: binary, octal, decimal, hexadecimal, or of parts to the base sixty. -/
def isInt (cs : List Char) : Bool :=
  match unsigned cs with
  | ['0'] => true
  | '0' :: 'b' :: rest => some? (fun c => c == '0' || c == '1' || c == '_') rest
  | '0' :: 'x' :: rest =>
    some? (fun c => isDigitOrBar c || ('a' ≤ c && c ≤ 'f') || ('A' ≤ c && c ≤ 'F')) rest
  | '0' :: rest => some? (fun c => ('0' ≤ c && c ≤ '7') || c == '_') rest
  | c :: rest =>
    isDigit c &&
      match rest.dropWhile isDigitOrBar with
      | [] => true
      | after => sixties after.length after == some []
  | [] => false

/-- An exponent with its sign, or nothing. -/
def isExponent : List Char → Bool
  | [] => true
  | e :: sign :: digits =>
    (e == 'e' || e == 'E') && (sign == '-' || sign == '+') && some? isDigit digits
  | _ => false

/-- A floating point number: with a point, or infinite, or no number at all. -/
def isFloat (cs : List Char) : Bool :=
  let signless := match unsigned cs with
    | '.' :: rest => ["inf", "Inf", "INF"].any (·.toList == rest)
    | c :: rest =>
      isDigit c &&
        match rest.dropWhile isDigitOrBar with
        | '.' :: rest => isExponent (rest.dropWhile isDigitOrBar)
        | after =>
          match sixties after.length after with
          | some ('.' :: rest) => rest.all isDigitOrBar
          | _ => false
    | [] => false
  let pointFirst := match cs with
    | '.' :: c :: rest =>
      (isDigit c && isExponent (rest.dropWhile isDigitOrBar)) ||
        ["nan", "NaN", "NAN"].any (·.toList == c :: rest)
    | _ => false
  signless || pointFirst

/-- Digits at the front of a text, at least `least` and at most `most`, and the rest. -/
def digits? (least most : Nat) (cs : List Char) : Option (List Char × List Char) :=
  let run := (cs.takeWhile isDigit).take most
  if run.length < least then none else some (run, cs.drop run.length)

/-- What follows a character, if the text begins with it. -/
def after? (c : Char) : List Char → Option (List Char)
  | d :: rest => if d == c then some rest else none
  | [] => none

/-- The fields of a date or moment as digits. -/
structure Fields where
  year : List Char
  month : List Char
  day : List Char
  /-- Hour, minute and second. -/
  clock : Option (List Char × List Char × List Char)
  fraction : List Char
  /-- Sign, hours and minutes of the distance from universal time. -/
  offset : Option (Bool × List Char × List Char)
  /-- The text says that the time is universal time. -/
  universal : Bool

def isBlank (c : Char) : Bool := c == ' ' || c == '\t'

/-- Year, month and day with hyphens between them, and the rest. -/
def date? (cs : List Char) : Option (Fields × List Char) := do
  let (year, cs) ← digits? 4 4 cs
  let (month, cs) ← digits? 1 2 (← after? '-' cs)
  let (day, cs) ← digits? 1 2 (← after? '-' cs)
  return (⟨year, month, day, none, [], none, false⟩, cs)

/-- The zone at the end of a moment, blanks before it. -/
def zone? (f : Fields) (cs : List Char) : Option Fields :=
  if cs.isEmpty then some f
  else
    match cs.dropWhile isBlank with
    | ['Z'] => some { f with universal := true }
    | sign :: rest =>
      if sign == '-' || sign == '+' then do
        let (hours, rest) ← digits? 1 2 rest
        if rest.isEmpty then return { f with offset := some (sign == '-', hours, []) }
        let (minutes, rest) ← digits? 2 2 (← after? ':' rest)
        if rest.isEmpty then return { f with offset := some (sign == '-', hours, minutes) }
        none
      else none
    | [] => none

/-- The time of day behind a date: a letter or blanks, hour, minute, second, and perhaps a
fraction and a zone. -/
def time? (f : Fields) (cs : List Char) : Option Fields := do
  let body := match cs with
    | 'T' :: rest => some rest
    | 't' :: rest => some rest
    | c :: rest => if isBlank c then some (rest.dropWhile isBlank) else none
    | [] => none
  let (hour, cs) ← digits? 1 2 (← body)
  let (minute, cs) ← digits? 2 2 (← after? ':' cs)
  let (second, cs) ← digits? 2 2 (← after? ':' cs)
  let f := { f with clock := some (hour, minute, second) }
  match cs with
  | '.' :: rest => zone? { f with fraction := rest.takeWhile isDigit } (rest.dropWhile isDigit)
  | rest => zone? f rest

/-- The fields of a date or moment. -/
def fields? (cs : List Char) : Option Fields := do
  let (f, rest) ← date? cs
  if rest.isEmpty then return f
  time? f rest

/-- A date with two digits for month and day, or a moment. -/
def isTimestamp (cs : List Char) : Bool :=
  match fields? cs with
  | none => false
  | some f => f.clock.isSome || (f.month.length == 2 && f.day.length == 2)

/-- The texts of truth values. -/
def truths : List (String × Bool) :=
  [("yes", true), ("Yes", true), ("YES", true), ("no", false), ("No", false), ("NO", false),
    ("true", true), ("True", true), ("TRUE", true), ("false", false), ("False", false),
    ("FALSE", false), ("on", true), ("On", true), ("ON", true), ("off", false),
    ("Off", false), ("OFF", false)]

def nulls : List String := ["~", "null", "Null", "NULL", ""]

/-- The characters without one line feed at their end, behind others. -/
def withoutLineEnd (cs : List Char) : List Char :=
  if cs.getLast? == some '\n' && cs.length > 1 then cs.dropLast else cs

/-- The tag that a scalar has by its form. A line feed at its end does not count. -/
def ofForm (form : List Char) : Tag :=
  let cs := withoutLineEnd form
  let text := String.ofList cs
  if truths.any (·.1 == text) then .bool
  else if isFloat cs then .float
  else if isInt cs then .int
  else if text == "<<" then .merge
  else if nulls.contains text then .null
  else if isTimestamp cs then .timestamp
  else if text == "=" then .value
  else .text

/-- The tag that a scalar has without one of its own. What holds halves of surrogate pairs has
no form but that of a text. -/
def implicit (t : Text) : Tag := (t.chars?.map ofForm).getD .text

end Tag

end Casebook.Yaml

import Casebook.Text.Blank
import Casebook.Text.Digit
import Casebook.Text.Utf8
import Casebook.Value.Display

/-!
# Checking document values

A document value is checked against a model field by field. Every flaw is reported with
the names and positions that lead to it, in the order of the fields. Values of a kind
close to the expected one are taken as what they mean: a numeral in a text as an integer,
a word for a truth value, a whole floating point number as an integer.
-/

namespace Casebook.Schema

open Number

/-- A name or position on the way to a value. -/
inductive Step
  | name (s : String)
  | position (i : Int)
deriving Repr, DecidableEq

/-- What is wrong with a value. -/
inductive Flaw
  | missing
  | notText
  | brokenText
  | notInteger
  | fractional
  | noNumeral
  | hugeInteger
  | infinite
  | notTruth
  | noTruthWord
  | notList
  | notMap
  | notModel (name : String)
  /-- The value is none of the words. -/
  | noneOf (words : List String)
  /-- A rule of the model is broken, in the rule's own words. -/
  | rule (text : String)
deriving Repr, DecidableEq

/-- The name of a flaw's kind. -/
def Flaw.kind : Flaw → String
  | .missing => "missing"
  | .notText => "string_type"
  | .brokenText => "string_unicode"
  | .notInteger => "int_type"
  | .fractional => "int_from_float"
  | .noNumeral => "int_parsing"
  | .hugeInteger => "int_parsing_size"
  | .infinite => "finite_number"
  | .notTruth => "bool_type"
  | .noTruthWord => "bool_parsing"
  | .notList => "list_type"
  | .notMap => "dict_type"
  | .notModel _ => "model_type"
  | .noneOf _ => "enum"
  | .rule _ => "value_error"

/-- Words in quotes, with commas between them and `or` before the last. -/
def alternatives (words : List String) : String :=
  let shown := words.map fun w => s!"'{w}'"
  match shown.reverse with
  | [] => ""
  | [w] => w
  | last :: others => ", ".intercalate others.reverse ++ " or " ++ last

/-- The text reported for a flaw. -/
def Flaw.message : Flaw → String
  | .missing => "Field required"
  | .notText => "Input should be a valid string"
  | .brokenText =>
    "Input should be a valid string, unable to parse raw data as a unicode string"
  | .notInteger => "Input should be a valid integer"
  | .fractional => "Input should be a valid integer, got a number with a fractional part"
  | .noNumeral => "Input should be a valid integer, unable to parse string as an integer"
  | .hugeInteger => "Unable to parse input string as an integer, exceeded maximum size"
  | .infinite => "Input should be a finite number"
  | .notTruth => "Input should be a valid boolean"
  | .noTruthWord => "Input should be a valid boolean, unable to interpret input"
  | .notList => "Input should be a valid list"
  | .notMap => "Input should be a valid dictionary"
  | .notModel name => s!"Input should be a valid dictionary or instance of {name}"
  | .noneOf words => "Input should be " ++ alternatives words
  | .rule text => "Value error, " ++ text

/-- A flaw, the way to it, and the value that has it. -/
structure Detail where
  location : List Step
  flaw : Flaw
  given : Value
deriving Repr

/-- A checked result: the value that was meant, or all flaws. -/
inductive Checked (α : Type) where
  | good (a : α)
  | bad (details : List Detail)

namespace Checked

/-- Flaws of both sides are reported, those of the left first. -/
instance : Applicative Checked where
  pure := good
  seq f x :=
    match f, x () with
    | .good g, .good a => .good (g a)
    | .bad ds, .good _ => .bad ds
    | .good _, .bad es => .bad es
    | .bad ds, .bad es => .bad (ds ++ es)

/-- One flaw of a value, at the value itself. -/
def flaw {α : Type} (f : Flaw) (given : Value) : Checked α := .bad [⟨[], f, given⟩]

/-- The result as it is reported one step further out. -/
def under {α : Type} (step : Step) : Checked α → Checked α
  | .good a => .good a
  | .bad ds => .bad (ds.map fun d => { d with location := step :: d.location })

/-- The results of all, or the flaws of all. -/
def all {α : Type} : List (Checked α) → Checked (List α)
  | [] => .good []
  | c :: cs => List.cons <$> c <*> all cs

def toExcept {α : Type} : Checked α → Except (List Detail) α
  | .good a => .ok a
  | .bad ds => .error ds

end Checked

/-- A check of a value. -/
abbrev Check (α : Type) := Value → Checked α

/-! ## Scalars -/

/-- A text, or bytes that encode one. -/
def text : Check Text
  | .text t => .good t
  | .bytes b =>
    match Text.decodeUtf8 b with
    | .ok cs => .good (.ofChars cs)
    | .error _ => .flaw .brokenText (.bytes b)
  | v => .flaw .notText v

/-- The integer in plain notation: perhaps a minus sign, and digits of which the first is no
zero unless it is the only one. A sign and digits that are too many are refused for their
length, whatever follows them. -/
def plainInteger (cs : List Char) : Except Flaw Int :=
  let negative := cs.head? = some '-'
  let body := if negative then cs.tail else cs
  let digits := body.takeWhile Char.isDigit
  let n : Int := Text.digitsValue digits
  if digits.head? = some '0' then
    if body = ['0'] then .ok 0 else .error .noNumeral
  else if digits.isEmpty then .error .noNumeral
  else if (if negative then 1 else 0) + digits.length > Text.numeralLimit then
    .error .hugeInteger
  else if body.length ≠ digits.length then .error .noNumeral
  else .ok (if negative then -n else n)

/-- A numeral behind the zeros and bars that lead it; `last` is the character before. A zero
right before a point stays. -/
def behindZeros (last : Char) : List Char → Option (List Char)
  | [] => some [last]
  | c :: cs =>
    if c = '0' || c = '_' then behindZeros c cs
    else if ('1' ≤ c && c ≤ '9') || c = '-' then some (c :: cs)
    else if c = '.' then some (last :: c :: cs)
    else none

/-- A numeral without leading zeros; it begins with a digit or a minus sign. -/
def withoutZeros : List Char → Option (List Char)
  | [] => none
  | c :: cs =>
    if c = '0' then behindZeros c cs
    else if ('1' ≤ c && c ≤ '9') || c = '-' then some (c :: cs)
    else none

/-- A numeral without a point and the zeros behind it, of which there must be one. -/
def withoutFraction (cs : List Char) : Option (List Char) :=
  match cs.dropWhile (· ≠ '.') with
  | [] => some cs
  | _ :: zeros =>
    if !zeros.isEmpty && zeros.all (· = '0') then some (cs.takeWhile (· ≠ '.')) else none

/-- Two bars stand side by side. -/
def hasDoubleBar : List Char → Bool
  | '_' :: '_' :: _ => true
  | _ :: cs => hasDoubleBar cs
  | [] => false

/-- A numeral without single bars between its characters. -/
def withoutBars (cs : List Char) : Option (List Char) :=
  if cs.head? = some '_' || cs.getLast? = some '_' || hasDoubleBar cs then none
  else some (cs.filter (· ≠ '_'))

/-- The plain notation of a numeral that may have blanks around it, a plus sign, leading
zeros, bars between digits, and a point with zeros behind it. -/
def plainNotation? (cs : List Char) : Option (List Char) := do
  let body ← match Text.dropNumeralBlanks cs with
    | '+' :: '-' :: _ => none
    | '+' :: rest => some rest
    | body => some body
  withoutBars (← withoutFraction (← withoutZeros body))

/-- The integer that a text writes. -/
def numeral? (cs : List Char) : Except Flaw Int :=
  match plainInteger cs with
  | .ok i => .ok i
  | .error .hugeInteger => .error .hugeInteger
  | .error _ =>
    match (plainNotation? cs).map plainInteger with
    | some (.ok i) => .ok i
    | _ => .error .noNumeral

/-- A number that fits into 64 bits with a sign. -/
def isWord (i : Int) : Bool := -9223372036854775808 ≤ i && i < 9223372036854775808

/-- Checks the characters of a text, which must not hold halves of surrogate pairs. -/
def ofText {α : Type} (check : List Char → Checked α) (t : Text) : Checked α :=
  match t.chars? with
  | some cs => check cs
  | none => .flaw .brokenText (.text t)

/-- An integer, a truth value as zero or one, a whole number, or a numeral in a text. -/
def integer : Check Int := fun v =>
  let ofChars := fun cs =>
    match numeral? cs with
    | .ok i => .good i
    | .error f => Checked.flaw f v
  match v with
  | .int i => .good i
  | .bool b => .good (if b then 1 else 0)
  | .float x =>
    match x with
    | .finite .. =>
      match x.toInt? with
      | some i => if isWord i then .good i else .flaw .hugeInteger v
      | none => .flaw .fractional v
    | _ => .flaw .infinite v
  | .text t => ofText ofChars t
  | .bytes b => ofChars (((Text.decodeUtf8 b).toOption).getD [])
  | _ => .flaw .notInteger v

/-- The words for a truth value. -/
def truthWords : List (String × Bool) :=
  [("0", false), ("off", false), ("f", false), ("false", false), ("n", false), ("no", false),
    ("1", true), ("on", true), ("t", true), ("true", true), ("y", true), ("yes", true)]

/-- A truth value, zero or one, or a word for a truth value in any case of its letters. -/
def truth : Check Bool := fun v =>
  let ofNumber := fun i : Int =>
    if i = 0 then Checked.good false else if i = 1 then .good true else .flaw .noTruthWord v
  let ofChars := fun cs : List Char =>
    match truthWords.lookup (String.ofList (cs.map Char.toLower)) with
    | some b => .good b
    | none => .flaw .noTruthWord v
  match v with
  | .bool b => .good b
  | .text t => ofText ofChars t
  | .bytes b => ofChars (((Text.decodeUtf8 b).toOption).getD [])
  | .int i => if isWord i then ofNumber i else .flaw .notTruth v
  | .float x =>
    match x.toInt? with
    | some i => if isWord i then ofNumber i else .flaw .notTruth v
    | none => .flaw .notTruth v
  | _ => .flaw .notTruth v

/-- One of some words, given as a text. -/
def oneOf {α : Type} (words : List (String × α)) : Check α := fun v =>
  match v with
  | .text t =>
    match words.find? fun w => t == w.1 with
    | some w => .good w.2
    | none => .flaw (.noneOf (words.map Prod.fst)) v
  | _ => .flaw (.noneOf (words.map Prod.fst)) v

/-- Null, or what a check accepts. -/
def optional {α : Type} (check : Check α) : Check (Option α)
  | .null => .good none
  | v => some <$> check v

/-- Any value at all. -/
def any : Check Value := .good

/-! ## Collections -/

/-- A value as a report shows it; one that holds an integer too long to be written is not
shown. -/
def givenText (v : Value) : String :=
  match v.shown? Value.described with
  | .ok text => text
  | .error _ => s!"<unprintable {v.kindName} object>"

/-- A list, every item of which passes a check. -/
def list {α : Type} (check : Check α) : Check (List α) := fun v =>
  match v.bare with
  | .list items | .tuple items | .set items =>
    .all (items.mapIdx fun i item => (check item).under (.position i))
  | _ => .flaw .notList v

/-- A point of a step: a replacement character for each byte that would encode half of a
surrogate pair. -/
def stepChars : Point → List Char
  | .char c => [c]
  | .half _ => List.replicate 3 '\uFFFD'

/-- The step that a key of a map is. -/
def stepOfKey (key : Value) : Step :=
  match key.bare with
  | .text t => .name (String.ofList (t.points.flatMap stepChars))
  | .int i => if isWord i then .position i else .name (givenText key)
  | .bool b => .position (if b then 1 else 0)
  | v => .name (givenText v)

/-- One entry of a map: the key must be a text, and the value pass a check. -/
def entry {α : Type} (check : Check α) (e : Value × Value) : Checked (Text × α) :=
  let key := ((text e.1).under (.name "[key]"))
  (Prod.mk <$> key <*> check e.2).under (stepOfKey e.1)

/-- A map from texts to values that pass a check. -/
def map {α : Type} (check : Check α) : Check (List (Text × α)) := fun v =>
  match v.bare with
  | .map entries => .all (entries.map (entry check))
  | _ => .flaw .notMap v

/-! ## Models -/

/-- A field of a map, or its value where the map does not have it. -/
def fieldOr {α : Type} (name : String) (check : Check α) (usual : α) (v : Value) : Checked α :=
  match v.field? name with
  | some given => (check given).under (.name name)
  | none => .good usual

/-- A field that a map must have. -/
def field {α : Type} (name : String) (check : Check α) (v : Value) : Checked α :=
  match v.field? name with
  | some given => (check given).under (.name name)
  | none => (Checked.flaw .missing v).under (.name name)

/-- A model, whose fields are checked in a map. -/
def model {α : Type} (name : String) (fields : Check α) : Check α := fun v =>
  match v.bare with
  | .map _ => fields v
  | _ => .flaw (.notModel name) v

/-! ## The text of all flaws -/

def Step.render : Step → String
  | .name s => if s.toList.contains '.' then s!"`{s}`" else s
  | .position i => toString i

/-- The characters of a text that end within so many bytes. -/
def takeBytes (n : Nat) : List Char → List Char
  | [] => []
  | c :: cs => if c.utf8Size ≤ n then c :: takeBytes (n - c.utf8Size) cs else []

/-- A long text without its middle. -/
def abridged (s : String) : String :=
  if s.utf8ByteSize > 50 then
    String.ofList (takeBytes 25 s.toList) ++ "..." ++
      String.ofList (takeBytes 24 s.toList.reverse).reverse
  else s

/-- The lines of one flaw. -/
def Detail.lines (d : Detail) : List String :=
  let place := if d.location.isEmpty then [] else [".".intercalate (d.location.map Step.render)]
  place ++
    [s!"  {d.flaw.message} [type={d.flaw.kind}, input_value={abridged (givenText d.given)}, " ++
      s!"input_type={d.given.kindName}]",
    s!"    For further information visit https://errors.pydantic.dev/2.14/v/{d.flaw.kind}"]

/-- The text reported for a value that is no model of the given name. -/
def message (name : String) (details : List Detail) : String :=
  let n := details.length
  let word := if n = 1 then "error" else "errors"
  let heading := s!"{n} validation {word} for {name}"
  "\n".intercalate (heading :: details.flatMap Detail.lines)

end Casebook.Schema

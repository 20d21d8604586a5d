import Casebook.Console.Literal.Word
import Casebook.Text.Shape

/-!
# Expressions as values

An expression may be a literal: a number, a text, a truth value, or a tuple, set or map of
literals. What it is as a literal comes from what its parts are, in their order. For the faults
that speak of it, an expression has the name of its kind, and the kind of the first part of it
that cannot be given a value.
-/

namespace Casebook.Console.Literal

/-- What an expression is as a literal. -/
inductive Meaning
  /-- A whole number that goes into others as a real number, or does not fit into one. -/
  | whole (isHuge signed : Bool)
  | real (signed : Bool)
  | imaginary (signed : Bool)
  /-- A value; one that cannot be an element of a set or a key has the name of its kind. -/
  | value (inert : Option String)
  /-- A set or map in it has an element that cannot be one, of the given kind. -/
  | badElement (kind : String)
  /-- An unpacked map has no key. -/
  | noKey
  /-- A whole number in it that does not fit into a real one is part of a complex one. -/
  | overflow
  | noLiteral
deriving Repr, DecidableEq

namespace Meaning

/-- The kind of a value that cannot be an element. -/
def inert : Meaning → Option String
  | value inert => inert
  | _ => none

/-- The meaning of a part that makes the whole no value. -/
def flaw : Meaning → Option Meaning
  | whole .. | real _ | imaginary _ | value _ => none
  | m => some m

/-- What a sign in front makes of a number. -/
def signed : Meaning → Meaning
  | whole isHuge false => whole isHuge true
  | real false => real true
  | imaginary false => imaginary true
  | _ => noLiteral

/-- What a plus or minus makes of a number and an imaginary one. -/
def complex : Meaning → Meaning → Meaning
  | whole isHuge _, imaginary false => if isHuge then overflow else value none
  | real _, imaginary false => value none
  | _, _ => noLiteral

/-- A tuple of values. -/
def tuple (parts : List Meaning) : Meaning :=
  (parts.findSome? flaw).getD (value (parts.findSome? inert))

/-- The first flaw of an entry: its key, which may have a value, must be able to be an
element. -/
def entryFlaw? (entry : List Meaning) : Option Meaning :=
  match entry.findSome? flaw with
  | some m => some m
  | none => (entry.head?.bind inert).map badElement

/-- A set or map of entries, which are put into it one after the other. -/
def collection (kind : String) (entries : List (List Meaning)) : Meaning :=
  (entries.findSome? entryFlaw?).getD (value (some kind))

end Meaning

/-- An expression. -/
structure Expression where
  /-- What it is as a literal. -/
  meaning : Meaning
  /-- What it is called. -/
  kind : String
  /-- What the first part of it is called that cannot be given a value. -/
  noTarget : Option String
  /-- How many levels it has. -/
  depth : Nat
  /-- The name, if it is nothing else. -/
  name : Option String
deriving Repr, DecidableEq

/-- The arguments of a call: how many stand by position, whether a map is unpacked, and how many
levels they have. -/
structure Arguments where
  positional : Nat
  unpacksMap : Bool
  depth : Nat
deriving Repr, DecidableEq

namespace Arguments

/-- No arguments. -/
def none : Arguments := ⟨0, false, 0⟩

/-- Arguments behind others. -/
def append (a b : Arguments) : Arguments :=
  ⟨a.positional + b.positional, a.unpacksMap || b.unpacksMap, max a.depth b.depth⟩

end Arguments

/-- A name in the plain shapes of its letters, in which names are the same. -/
def plainName (text : String) : String := String.ofList (text.toList.map Text.plainShape)

namespace Expression

/-- An expression that cannot be given a value, over parts that have so many levels. -/
def ofParts (kind : String) (depth : Nat) (meaning : Meaning) : Expression :=
  ⟨meaning, kind, some kind, depth + 1, none⟩

/-- An expression that is no literal and cannot be given a value. -/
def plain (kind : String) (depth : Nat) : Expression := ofParts kind depth .noLiteral

/-- A name that stands for something. -/
def ofName (text : String) : Expression := ⟨.noLiteral, "name", none, 1, some (plainName text)⟩

/-- A name that is a value by itself. -/
def ofConstant (text : String) : Expression := ofParts text 0 (.value none)

/-- The least whole number that is nearer to the limit of real numbers than to one of them. -/
def realLimit : Nat := (1 <<< 1024) - (1 <<< 970)

/-- A number. -/
def ofNumeral (n : Numeral) : Expression :=
  ofParts "literal" 0 <| match n with
    | .whole value _ => .whole (realLimit ≤ value) false
    | .real => .real false
    | .imaginary => .imaginary false

/-- What stands behind a sign. -/
def underSign (sign : String) (e : Expression) : Expression :=
  ofParts "expression" e.depth (if sign = "+" || sign = "-" then e.meaning.signed else .noLiteral)

/-- What a sign makes of its two operands. -/
def joined (sign : String) (a b : Expression) : Expression :=
  ofParts "expression" (max a.depth b.depth)
    (if sign = "+" || sign = "-" then a.meaning.complex b.meaning else .noLiteral)

/-- A comparison. The first word between its operands says whether one is looked for in the
other; the comparison then is given a value as its first operand is. -/
def comparison (isIn : Bool) (first : Expression) (depth : Nat) : Expression :=
  ⟨.noLiteral, "comparison", if isIn then first.noTarget else none, depth + 1, none⟩

/-- A tuple. -/
def tuple (parts : List Expression) : Expression :=
  ⟨.tuple (parts.map meaning), "tuple", parts.findSome? noTarget,
    parts.foldl (fun n e => max n e.depth) 0 + 1, none⟩

/-- A name that is looked up in something. -/
def lookedUp (e : Expression) : Expression := ⟨.noLiteral, "attribute", none, e.depth + 1, none⟩

/-- An expression that is unpacked. -/
def starred (e : Expression) : Expression :=
  ⟨.noLiteral, "starred", e.noTarget, e.depth + 1, none⟩

/-- A call. The empty set is written as one. -/
def call (f : Expression) (arguments : Arguments) : Expression :=
  let isSet := f.name = some "set" && arguments = .none
  ofParts "function call" (max f.depth arguments.depth)
    (if isSet then .value (some "set") else .noLiteral)

/-- An expression of a set or map, given the parts of its entries. -/
def collection (kind shown : String) (entries : List (List Expression)) : Expression :=
  ofParts shown ((entries.flatten.map depth).foldl max 0)
    (.collection kind (entries.map (·.map meaning)))

/-- An unpacked map, in the place of a key. -/
def unpacked (e : Expression) : Expression := { e with meaning := .noKey }

end Expression

end Casebook.Console.Literal

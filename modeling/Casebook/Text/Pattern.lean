import Casebook.Text.Identifier
import Casebook.Text.Point

/-!
# Patterns

A pattern says what a stretch of a text looks like. Of the ways in which it fits at a place the
first is taken: the first of two alternatives, and of a repeated part as many as can be, or as few.
Parts of a pattern may be marked; where they fit are the marks of the stretch.
-/

namespace Casebook.Text

/-- A place in a text. -/
structure Place where
  /-- How many points are in front of it. -/
  offset : Nat
  before : Option Point
  rest : List Point

/-- A stretch of a text from one offset up to another. -/
structure Mark where
  start : Nat
  stop : Nat
deriving Repr, DecidableEq

/-- What a stretch of a text looks like. -/
inductive Pattern
  | nothing
  | point (test : Point → Bool)
  /-- A word begins or ends here, or none does. -/
  | edge (isEdge : Bool)
  /-- No point that passes the test is in front. -/
  | notBehind (test : Point → Bool)
  | next (p q : Pattern)
  | either (p q : Pattern)
  /-- The pattern again and again, at least so often and at most so often, and as few times as
  possible if `isShort`. -/
  | repeated (p : Pattern) (least : Nat) (most : Option Nat) (isShort : Bool)
  | marked (p : Pattern)

/-- How a stretch is read: the place behind it and its marks, the last one first. -/
abbrev Reach := Option (Place × List Mark)

namespace Place

/-- The beginning of a text. -/
def start (text : List Point) : Place := ⟨0, none, text⟩

/-- The place behind one point. -/
def next? (here : Place) : Option (Point × Place) :=
  match here.rest with
  | [] => none
  | p :: rest => some (p, ⟨here.offset + 1, some p, rest⟩)

/-- A word begins or ends here. -/
def isEdge (here : Place) : Bool :=
  let isWord := fun (p : Option Point) => p.any (Point.passes isWordChar)
  isWord here.before ≠ isWord here.rest.head?

end Place

namespace Pattern

/-- Reads something again and again, `least` times and up to `more` times more. -/
def again (read : (Place → List Mark → Reach) → Place → List Mark → Reach) (isShort : Bool)
    (onward : Place → List Mark → Reach) : (least more : Nat) → Place → List Mark → Reach
  | least + 1, more => read (again read isShort onward least more)
  | 0, 0 => onward
  | 0, more + 1 => fun here marks =>
    let further := fun (_ : Unit) => read (again read isShort onward 0 more) here marks
    let enough := fun (_ : Unit) => onward here marks
    if isShort then (enough ()) <|> further () else further () <|> enough ()

/-- Reads a stretch at a place, and then what comes behind it. -/
def readThen : Pattern → (Place → List Mark → Reach) → Place → List Mark → Reach
  | nothing, onward, here, marks => onward here marks
  | point test, onward, here, marks =>
    match here.next? with
    | some (p, place) => if test p then onward place marks else none
    | none => none
  | edge isEdge, onward, here, marks => if here.isEdge = isEdge then onward here marks else none
  | notBehind test, onward, here, marks => if here.before.any test then none else onward here marks
  | next p q, onward, here, marks => p.readThen (q.readThen onward) here marks
  | either p q, onward, here, marks => p.readThen onward here marks <|> q.readThen onward here marks
  | repeated p least most isShort, onward, here, marks =>
    let more := (most.map (· - least)).getD here.rest.length
    again (fun onward here marks => p.readThen onward here marks) isShort onward least more here marks
  | marked p, onward, here, marks =>
    p.readThen (fun place marks => onward place (⟨here.offset, place.offset⟩ :: marks)) here marks

/-- The stretch at a place. -/
def read (p : Pattern) (here : Place) : Reach :=
  p.readThen (fun place marks => some (place, marks)) here []

/-- The marks of all stretches from a place on, each behind the one before it. `fuel` bounds the
number of places. -/
def marksFrom (p : Pattern) (fuel : Nat) (here : Place) : List Mark :=
  match fuel with
  | 0 => []
  | fuel + 1 =>
    let skipped := (here.next?.map fun (_, place) => p.marksFrom fuel place).getD []
    match p.read here with
    | some (place, marks) =>
      marks.reverse ++ if here.offset < place.offset then p.marksFrom fuel place else skipped
    | none => skipped

/-- The marks of all stretches in a text; those of no length do not count. -/
def marks (p : Pattern) (text : List Point) : List Mark :=
  (p.marksFrom (text.length + 1) (Place.start text)).filter fun m => m.start < m.stop

/-! ## Composed patterns -/

/-- Patterns one behind the other. -/
def all (ps : List Pattern) : Pattern := ps.foldr next nothing

/-- The first of some patterns that fits. -/
def first : List Pattern → Pattern
  | [] => .point fun _ => false
  | [p] => p
  | p :: ps => either p (first ps)

/-- The points of a text. -/
def text (s : String) : Pattern := all (s.toList.map fun c => .point (· = .char c))

/-- One of some characters. -/
def oneOf (s : String) : Pattern := .point (Point.passes s.toList.contains)

/-- A pattern or nothing. -/
def maybe (p : Pattern) : Pattern := .repeated p 0 (some 1) false

/-- A pattern as often as it fits. -/
def zeroOrMore (p : Pattern) : Pattern := .repeated p 0 none false

/-- A pattern as often as it fits, once at least. -/
def oneOrMore (p : Pattern) : Pattern := .repeated p 1 none false

/-- A pattern so many times. -/
def times (n : Nat) (p : Pattern) : Pattern := .repeated p n (some n) false

/-- A pattern at least and at most so many times. -/
def between (least most : Nat) (p : Pattern) : Pattern := .repeated p least (some most) false

end Pattern

end Casebook.Text

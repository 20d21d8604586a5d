import Casebook.Sequence.Matching
import Casebook.Text.Point

/-!
# Similar names

The names that look most like a given one. Two names are similar if at least three
fifths of their characters lie in matching runs; the best come first, and of equally
good ones the one later in the alphabet.
-/

namespace Casebook.Sequence

/-- A known name, and how much of it and the given one matches: `matched` of `total`
characters of both together. -/
structure Likeness where
  name : Text
  matched : Nat
  total : Nat
deriving Repr, DecidableEq

/-- How much a known name is like the given one. -/
def likeness (given known : Text) : Likeness :=
  ⟨known, 2 * Sequence.matched known.points given.points, known.length + given.length⟩

/-- At least three fifths match; two empty names match. -/
def Likeness.isSimilar (l : Likeness) : Bool :=
  l.total == 0 || 5 * l.matched ≥ 3 * l.total

/-- The first is better than the second, or as good and not earlier in the alphabet. -/
def Likeness.atLeast (l m : Likeness) : Bool :=
  let (a, b) := if l.total = 0 then (1, 1) else (l.matched, l.total)
  let (c, d) := if m.total = 0 then (1, 1) else (m.matched, m.total)
  if a * d = c * b then m.name.le l.name else a * d > c * b

/-- At most `limit` known names that are similar to the given one, the best first. -/
def similarNames (given : Text) (known : List Text) (limit : Nat) : List Text :=
  let similar := (known.map (likeness given)).filter Likeness.isSimilar
  ((similar.mergeSort Likeness.atLeast).take limit).map Likeness.name

/-- How many similar names a report suggests. -/
def suggestionLimit : Nat := 3

end Casebook.Sequence

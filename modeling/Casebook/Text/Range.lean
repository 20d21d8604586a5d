/-!
# Ranges of code points

Classes of characters are given by ranges of code points: the first and the last of each.
-/

namespace Casebook.Text

/-- A number lies in one of some ranges. -/
def isInRanges (ranges : List (Nat × Nat)) (n : Nat) : Bool :=
  ranges.any fun (first, last) => first ≤ n && n ≤ last

/-- A character lies in one of some ranges of code points. -/
def inRanges (ranges : List (Nat × Nat)) (c : Char) : Bool := isInRanges ranges c.toNat

end Casebook.Text

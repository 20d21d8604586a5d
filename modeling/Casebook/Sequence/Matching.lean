/-!
# Matching runs of two sequences

Two sequences are compared by the longest run of elements that they have in common, and
then again to the left and to the right of that run. Of several longest runs the one
that is complete first in the left sequence is taken, and of those the first in the
right one. An element that a long right sequence holds very often begins no run; it
only makes a run longer at its ends.
-/

namespace Casebook.Sequence

/-- A run of equal elements: where it begins in each sequence, and its length. -/
structure Run where
  left : Nat
  right : Nat
  size : Nat
deriving Repr, DecidableEq, Inhabited

/-- An element of the right sequence, and whether runs may begin with it. -/
abbrev Marked (α : Type) := α × Bool

variable {α : Type} [BEq α]

/-- The elements of the right sequence with their marks: from 200 elements on, one that
occurs more often than once in a hundred places, and once more, begins no run. -/
def mark (bs : List α) : List (Marked α) :=
  let n := bs.length
  if n < 200 then bs.map (·, true)
  else bs.map fun b => (b, bs.count b ≤ n / 100 + 1)

/-- The lengths of the runs that end at `x` and at each element on the right, from those
that end one element earlier on the left. -/
def nextRow (x : α) (bs : List (Marked α)) (row : List Nat) : List Nat :=
  List.zipWith (fun b before => if b.2 && b.1 == x then before + 1 else 0) bs (0 :: row)

/-- The better of a run and those whose lengths stand in a row: `i` elements on the left
and `j` on the right stand before the ends of the runs. -/
def bestInRow (i j : Nat) (best : Run) : List Nat → Run
  | [] => best
  | k :: row =>
    bestInRow i (j + 1) (if k > best.size then ⟨i + 1 - k, j + 1 - k, k⟩ else best) row

/-- The first longest run, `i` elements on the left standing before `as`. -/
def bestRun (bs : List (Marked α)) (i : Nat) (row : List Nat) (best : Run) : List α → Run
  | [] => best
  | a :: as =>
    let row := nextRow a bs row
    bestRun bs (i + 1) row (bestInRow i 0 best row) as

/-- How many elements two sequences have in common at their front. -/
def commonLength : List α → List α → Nat
  | a :: as, b :: bs => if a == b then commonLength as bs + 1 else 0
  | _, _ => 0

/-- The run made longer at both ends as far as the elements are equal. -/
def widen (as bs : List α) (r : Run) : Run :=
  let back := commonLength (as.take r.left).reverse (bs.take r.right).reverse
  let ahead := commonLength (as.drop (r.left + r.size)) (bs.drop (r.right + r.size))
  ⟨r.left - back, r.right - back, back + r.size + ahead⟩

/-- The longest run of two sequences. -/
def longestRun (as : List α) (bs : List (Marked α)) : Run :=
  widen as (bs.map Prod.fst) (bestRun bs 0 (bs.map fun _ => 0) ⟨0, 0, 0⟩ as)

/-- The run moved right by so many places in each sequence. -/
def Run.shift (i j : Nat) (r : Run) : Run := ⟨r.left + i, r.right + j, r.size⟩

/-- The runs of two sequences from left to right; `fuel` bounds their number. -/
def runsWithin : (fuel : Nat) → List α → List (Marked α) → List Run
  | 0, _, _ => []
  | fuel + 1, as, bs =>
    let r := longestRun as bs
    if r.size = 0 then []
    else
      runsWithin fuel (as.take r.left) (bs.take r.right) ++ r ::
        (runsWithin fuel (as.drop (r.left + r.size)) (bs.drop (r.right + r.size))).map
          (Run.shift (r.left + r.size) (r.right + r.size))

/-- Runs that touch in both sequences are put together. -/
def joinRuns : List Run → List Run
  | [] => []
  | r :: rs =>
    match joinRuns rs with
    | s :: ss =>
      if r.left + r.size = s.left && r.right + r.size = s.right then
        ⟨r.left, r.right, r.size + s.size⟩ :: ss
      else r :: s :: ss
    | [] => [r]

/-- The matching runs of two sequences from left to right. -/
def runs (as bs : List α) : List Run := joinRuns (runsWithin (as.length + 1) as (mark bs))

/-- How many elements the matching runs hold. -/
def matched (as bs : List α) : Nat := (runs as bs).foldr (fun r n => r.size + n) 0

end Casebook.Sequence

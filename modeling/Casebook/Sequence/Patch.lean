import Casebook.Sequence.Matching
import Casebook.Text.Point

/-!
# Patches

The difference of two lists of lines as a patch with three lines of context. The two
lists are cut into segments that are the same on both sides and segments that are
changed. Changes that are close together share a hunk, which names the lines it covers
on each side.
-/

namespace Casebook.Sequence

/-- A part of the left sequence and the part of the right one that stands for it. The
ends are the first positions behind the parts. -/
structure Segment where
  same : Bool
  left : Nat
  leftEnd : Nat
  right : Nat
  rightEnd : Nat
deriving Repr, DecidableEq, Inhabited

/-- The segments from the given positions on, for the runs there and the lengths of both
sequences. -/
def segmentsFrom (i j m n : Nat) : List Run → List Segment
  | [] => if i < m || j < n then [⟨false, i, m, j, n⟩] else []
  | r :: rs =>
    let change := if i < r.left || j < r.right then [⟨false, i, r.left, j, r.right⟩] else []
    change ++ ⟨true, r.left, r.left + r.size, r.right, r.right + r.size⟩ ::
      segmentsFrom (r.left + r.size) (r.right + r.size) m n rs

/-- The segments that two sequences are cut into. -/
def segments {α : Type} [BEq α] (as bs : List α) : List Segment :=
  segmentsFrom 0 0 as.length bs.length (runs as bs)

/-- Lines of context on each side of a change. -/
def context : Nat := 3

/-- The end of an unchanged segment that is context of what follows. -/
def Segment.lastPart (s : Segment) : Segment :=
  ⟨s.same, max s.left (s.leftEnd - context), s.leftEnd, max s.right (s.rightEnd - context),
    s.rightEnd⟩

/-- The beginning of an unchanged segment that is context of what stands before. -/
def Segment.firstPart (s : Segment) : Segment :=
  ⟨s.same, s.left, min s.leftEnd (s.left + context), s.right, min s.rightEnd (s.right + context)⟩

/-- Cuts unchanged segments at both ends of the list down to context. -/
def clip (ss : List Segment) : List Segment :=
  let ss := match ss with
    | s :: rest => (if s.same then s.lastPart else s) :: rest
    | [] => []
  match ss.reverse with
  | s :: rest => ((if s.same then s.firstPart else s) :: rest).reverse
  | [] => []

/-- A hunk that shows a change. -/
def showsChange (hunk : List Segment) : Bool :=
  match hunk with
  | [] => false
  | [s] => !s.same
  | _ => true

/-- Puts segments into hunks after the open one; a long unchanged segment ends it. -/
def group (opened : List Segment) : List Segment → List (List Segment)
  | [] => if showsChange opened then [opened] else []
  | s :: ss =>
    if s.same && s.leftEnd - s.left > 2 * context then
      (opened ++ [s.firstPart]) :: group [s.lastPart] ss
    else group (opened ++ [s]) ss

/-- The hunks of two sequences. -/
def hunks {α : Type} [BEq α] (as bs : List α) : List (List Segment) :=
  group [] (clip (segments as bs))

/-- The elements from one position to before another. -/
def slice {α : Type} (xs : List α) (start stop : Nat) : List α := (xs.take stop).drop start

/-- The lines a hunk covers on one side, from one position to before another. -/
def rangeText (start stop : Nat) : String :=
  let n := stop - start
  if n = 1 then toString (start + 1)
  else if n = 0 then s!"{start},0"
  else s!"{start + 1},{n}"

/-- The lines of a segment, each with the sign of the side it is on. -/
def Segment.lines (as bs : List Text) (s : Segment) : List Text :=
  let signed := fun (sign : Text) (ls : List Text) => ls.map (sign ++ ·)
  if s.same then signed " " (slice as s.left s.leftEnd)
  else signed "-" (slice as s.left s.leftEnd) ++ signed "+" (slice bs s.right s.rightEnd)

/-- The lines of a hunk below the line that names what it covers. -/
def hunkLines (as bs : List Text) (hunk : List Segment) : List Text :=
  let first := hunk.headD default
  let last := hunk.getLastD default
  s!"@@ -{rangeText first.left last.leftEnd} +{rangeText first.right last.rightEnd} @@" ::
    hunk.flatMap (Segment.lines as bs)

/-- The patch from the expected to the actual lines, without lines if they are equal. -/
def patch (expected actual : List Text) : List Text :=
  match hunks expected actual with
  | [] => []
  | hs => "--- expected" :: "+++ actual" :: hs.flatMap (hunkLines expected actual)

/-- The patch as one text. -/
def patchText (expected actual : List Text) : Text :=
  Text.joined "\n" (patch expected actual)

end Casebook.Sequence

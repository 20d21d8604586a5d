import Casebook.Console.Style

/-!
# Styled text

A text with spans, which are the stretches that a style is put on. Cutting a text cuts its
spans: each part keeps what lies in it (`divide`). The ends of spans part a text into pieces
that are shown one by one (`pieces`), which put together are the text again.
-/

namespace Casebook.Console

open Text

/-- A stretch of a text from one offset up to another. -/
structure Span where
  start : Nat
  stop : Nat
  /-- The words of its style, if it has one in words. -/
  words : Option Text
deriving Repr, DecidableEq

/-- A text and its spans, in the order in which they count. -/
structure Styled where
  points : List Point
  spans : List Span
deriving Repr, DecidableEq

namespace Span

/-- The same stretch behind more points. -/
def shift (s : Span) (n : Nat) : Span := { s with start := s.start + n, stop := s.stop + n }

/-- What lies of a stretch between two offsets, counted from the first of them. -/
def within? (s : Span) (first last : Nat) : Option Span :=
  let start := s.start - first
  let stop := min s.stop last - first
  if start < stop then some { s with start, stop } else none

/-- Checks the style of a span. Words that are no style put none on it. -/
def check (s : Span) : Except ColorFault Unit :=
  match Style.ofWords ((s.words.map Text.blankSplit).getD []) with
  | .error (.color fault) => .error fault
  | _ => .ok ()

end Span

namespace Styled

def length (t : Styled) : Nat := t.points.length

/-- The part of a text between two offsets. -/
def part (t : Styled) (first last : Nat) : Styled :=
  ⟨(t.points.take last).drop first, t.spans.filterMap (·.within? first last)⟩

/-- The parts between offsets. Without offsets the text stays as it is, with the spans of no
length that a part loses. -/
def divide (t : Styled) (offsets : List Nat) : List Styled :=
  if offsets.isEmpty then [t]
  else
    let bounds := 0 :: offsets ++ [t.length]
    (bounds.zip bounds.tail).map fun (first, last) => t.part first last

/-- The offsets of a point. -/
def offsetsOf (t : Styled) (p : Point) : List Nat :=
  (t.points.zipIdx.filter fun (q, _) => q = p).map Prod.snd

/-- The parts between separators. -/
def split (t : Styled) (sep : Point) : List Styled :=
  let offsets := t.offsetsOf sep
  if offsets.isEmpty then [t]
  else
    let starts := 0 :: offsets.map (· + 1)
    (starts.zip (offsets ++ [t.length])).map fun (first, last) => t.part first last

/-- Drops the end of a text. Spans that begin where it is cut off are dropped as well. -/
def keep (t : Styled) (n : Nat) : Styled :=
  if t.length ≤ n then t
  else ⟨t.points.take n,
    (t.spans.filter (·.start < n)).map fun s => { s with stop := min s.stop n }⟩

/-- Adds blanks, which get the styles of spans that reach the end. -/
def addBlanks (t : Styled) (n : Nat) : Styled :=
  ⟨t.points ++ List.replicate n (Point.char ' '),
    t.spans.map fun s => if t.length ≤ s.stop then { s with stop := s.stop + n } else s⟩

instance : Append Styled :=
  ⟨fun s t => ⟨s.points ++ t.points, s.spans ++ t.spans.map (·.shift s.length)⟩⟩

/-- The text cut before offsets that increase from `first` on. -/
def cutAt (first : Nat) : List Nat → List Point → List (List Point)
  | [], ps => if ps.isEmpty then [] else [ps]
  | n :: ns, ps =>
    if n ≤ first then cutAt first ns ps
    else ps.take (n - first) :: cutAt n ns (ps.drop (n - first))

/-- The pieces that are shown one by one: the text is cut where spans begin and end. -/
def pieces (t : Styled) : List (List Point) :=
  cutAt 0 ((t.spans.flatMap fun s => [s.start, s.stop]).mergeSort (· ≤ ·)) t.points

/-- Checks the styles of all spans. -/
def check (t : Styled) : Except ColorFault Unit := t.spans.forM Span.check

/-- Cutting loses nothing. -/
theorem flatten_cutAt (first : Nat) (ns : List Nat) (ps : List Point) :
    (cutAt first ns ps).flatten = ps := by
  induction ns generalizing first ps with
  | nil =>
    rw [cutAt]
    split
    · next h => simpa using h.symm
    · simp
  | cons n ns ih =>
    rw [cutAt]
    split
    · exact ih first ps
    · simp [ih, List.take_append_drop]

/-- The pieces of a text put together are the text. -/
theorem flatten_pieces (t : Styled) : t.pieces.flatten = t.points := flatten_cutAt ..

end Styled

end Casebook.Console

import Casebook.Console.Styled
import Casebook.Text.Width

/-!
# Wrapping

Text is laid out in lines of a limited width. A word goes on the current line if it fits
there without the blanks behind it. A word wider than a whole line is folded, beginning
on a new line; any other that does not fit begins a new line. Blanks at the end of a line
that reach beyond the width are dropped.

Laying out cuts a text and drops nothing (`flatten_layOut`).
-/

namespace Casebook.Console

open Text

/-- The distance of tab stops. -/
def tabStop : Nat := 8

/-- A point that is blank. -/
def isBlankPoint (p : Point) : Bool := Point.passes isBlank p

/-- Goes on with a line that takes `column` cells. A part of it that ends in a tab is filled
up to the next tab stop; a part without one is its end. -/
def addToStop (column : Nat) (part : Styled) : Nat × Styled :=
  if part.points.getLast? = some (Point.char '\t') then
    let part := { part with points := part.points.dropLast ++ [Point.char ' '] }
    let reached := column + width part.points
    let stop := (reached + tabStop - 1) / tabStop * tabStop
    (stop, part.addBlanks (stop - reached))
  else (column + width part.points, part)

/-- Replaces tabs by blanks. -/
def expandTabs (line : Styled) : Styled :=
  let parts := line.divide ((line.offsetsOf (Point.char '\t')).map (· + 1))
  (parts.foldl (fun (column, before) part =>
    let (column, part) := addToStop column part
    (column, before ++ part)) (0, (⟨[], []⟩ : Styled))).2

/-- Goes on with a word, given in reverse order; `ended` says that blanks behind it were
read. -/
def wordsFrom (word : List Point) (ended : Bool) : List Point → List (List Point)
  | [] => [word.reverse]
  | p :: ps =>
    if ended && !isBlankPoint p then word.reverse :: wordsFrom [p] false ps
    else wordsFrom (p :: word) (isBlankPoint p && (ended || !word.all isBlankPoint)) ps

/-- Cuts a line into words, each with the blanks behind it; the first has those before it
as well. -/
def words (line : List Point) : List (List Point) := wordsFrom [] false line

theorem flatten_wordsFrom (word : List Point) (ended : Bool) (ps : List Point) :
    (wordsFrom word ended ps).flatten = word.reverse ++ ps := by
  fun_induction wordsFrom word ended ps <;> simp_all

/-- Cutting into words loses nothing. -/
theorem flatten_words (line : List Point) : (words line).flatten = line := by
  simp [words, flatten_wordsFrom]

/-- Folds signs into pieces of a width; `piece` is the last one in reverse order, and takes
`used` cells. -/
def fold (limit used : Nat) (piece : List Sign) : List Sign → List (List Point)
  | [] => [piece.reverse.flatMap Sign.points]
  | s :: rest =>
    if used + s.cells > limit then
      piece.reverse.flatMap Sign.points :: fold limit s.cells [s] rest
    else fold limit (used + s.cells) (s :: piece) rest

/-- Lays out words after what stands on the current line, which takes `used` cells. -/
def layOut (limit used : Nat) (line : List Point) : List (List Point) → List (List Point)
  | [] => [line]
  | word :: rest =>
    let needed := width (Text.trimEnd ⟨word⟩).points
    if used + needed ≤ limit then layOut limit (used + width word) (line ++ word) rest
    else
      let before := if line.isEmpty then [] else [line]
      if needed > limit then
        let pieces := fold limit 0 [] (signs word)
        let last := pieces.getLastD []
        before ++ pieces.dropLast ++ layOut limit (width last) last rest
      else before ++ layOut limit (width word) word rest

theorem flatten_fold (limit used : Nat) (piece ss : List Sign) :
    (fold limit used piece ss).flatten =
      piece.reverse.flatMap Sign.points ++ ss.flatMap Sign.points := by
  induction ss generalizing used piece with
  | nil => simp [fold]
  | cons s ss ih =>
    rw [fold]
    split <;> simp [ih]

theorem fold_ne_nil (limit used : Nat) (piece ss : List Sign) : fold limit used piece ss ≠ [] := by
  induction ss generalizing used piece with
  | nil => simp [fold]
  | cons s ss ih =>
    rw [fold]
    split
    · simp
    · exact ih _ _

theorem flatten_dropLast_append (ls : List (List Point)) (h : ls ≠ []) :
    ls.dropLast.flatten ++ ls.getLastD [] = ls.flatten := by
  rw [List.getLastD_eq_getLast?, List.getLast?_eq_some_getLast h]
  conv => rhs; rw [← List.dropLast_concat_getLast h]
  simp

/-- The lines that words are laid out in are the words put together. -/
theorem flatten_layOut (limit used : Nat) (line : List Point) (ws : List (List Point)) :
    (layOut limit used line ws).flatten = line ++ ws.flatten := by
  induction ws generalizing used line with
  | nil => simp [layOut]
  | cons w ws ih =>
    have whole : ∀ used piece, (fold limit used piece (signs w)).flatten =
        piece.reverse.flatMap Sign.points ++ w := by
      intro used piece
      rw [flatten_fold, signs_points]
    have joined := flatten_dropLast_append _ (fold_ne_nil limit 0 [] (signs w))
    rw [whole] at joined
    have front : (if line.isEmpty then [] else [line]).flatten = line := by
      split
      · next h => simpa using h.symm
      · simp
    simp only [layOut]
    split
    · simp [ih]
    · split
      · simp only [List.flatten_append, ih, front, List.append_assoc, List.flatten_cons]
        rw [← List.append_assoc (List.flatten _), joined]
        simp
      · simp only [List.flatten_append, ih, front, List.flatten_cons]
/-- Drops blanks at the end as long as the line has more points than the width. -/
def dropExcess (limit : Nat) (line : Styled) : Styled :=
  let blanks := (line.points.reverse.takeWhile isBlankPoint).length
  line.keep (line.length - min blanks (line.length - limit))

/-- Keeps the signs that fit into a width; half of a wide one becomes a blank. -/
def cropSigns : (limit : Nat) → List Sign → List Point
  | _, [] => []
  | limit, s :: rest =>
    if s.cells ≤ limit then s.points ++ cropSigns (limit - s.cells) rest
    else if limit > 0 then [Point.char ' ']
    else []

/-- Cuts points off at a width. -/
def crop (limit : Nat) (ps : List Point) : List Point :=
  if width ps ≤ limit then ps else cropSigns limit (signs ps)

/-- Cuts a line off at a width. -/
def Styled.crop (limit : Nat) (line : Styled) : Styled :=
  let ps := Console.crop limit line.points
  { line.keep ps.length with points := ps }

/-- The offsets at which pieces of a text were cut off. -/
def cutOffsets (first : Nat) : List (List Point) → List Nat
  | [] | [_] => []
  | piece :: rest => (first + piece.length) :: cutOffsets (first + piece.length) rest

/-- One line of text in lines of a width. -/
def wrapLine (limit : Nat) (line : Styled) : List Styled :=
  let line := expandTabs line
  (line.divide (cutOffsets 0 (layOut limit 0 [] (words line.points)))).map fun l =>
    (dropExcess limit l).crop limit

/-- A text in lines of a width. -/
def wrap (limit : Nat) (text : Styled) : List Styled :=
  (text.split (Point.char '\n')).flatMap (wrapLine limit)

/-- What is shown of a line in a width. Its pieces are measured one by one; the last one that
fits in part is cut off, and all behind it are dropped. -/
def fit (limit used : Nat) : List (List Point) → List Point
  | [] => []
  | piece :: rest =>
    let reached := used + width piece
    if reached < limit then piece ++ fit limit reached rest else crop (limit - used) piece

/-- The cells that pieces take when they are measured one by one. -/
def piecesWidth (pieces : List (List Point)) : Nat :=
  pieces.foldl (fun n piece => n + width piece) 0

/-- What is shown of a line. -/
def Styled.shown (limit : Nat) (line : Styled) : List Point :=
  if piecesWidth line.pieces ≤ limit then line.points else fit limit 0 line.pieces

end Casebook.Console

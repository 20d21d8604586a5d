import Casebook.Console.Panel
import Casebook.Proofs.Console.Markup
import Casebook.Proofs.Text.Half

/-!
# What a panel shows

A text that nothing is read into is shown in a panel line by line, and every line in as many rows as
it needs. Main statement: `panel_of_isVerbatim`.
-/

namespace Casebook.Console

open Text

/-- A point that is shown by itself: a character that is neither dropped nor filled up, and does not
change how others are counted. -/
def IsSteady (p : Point) : Prop :=
  p.isHalf = false ∧ p.passes Reading.isDropped = false ∧ p ≠ tab ∧ IsLone p

instance : DecidablePred IsSteady := fun p => inferInstanceAs
  (Decidable (p.isHalf = false ∧ p.passes Reading.isDropped = false ∧ p ≠ tab ∧ IsLone p))

/-- A text that nothing is read into: it holds no markup, and each point is shown by itself. -/
structure IsVerbatim (t : Text) : Prop where
  unmarked : IsUnmarked t.points
  steady : ∀ p ∈ t.points, IsSteady p

/-! ## Rows of a panel -/

/-- A row of a panel. -/
def frameRow (row : List Point) : Text :=
  "│ " ++ ⟨row⟩ ++ .ofChars (List.replicate (panelWidth - width row) ' ') ++ " │\n"

/-- Rows in a frame with a title. -/
def framed (title : String) (rows : List (List Point)) : Text :=
  titleLine title ++ .joined "" (rows.map frameRow) ++ "╰" ++ bar (lineWidth - 2) ++ "╯\n"

theorem piecesWidth_plain (row : List Point) :
    piecesWidth (Styled.plain row).pieces = width row := by
  have hpieces : (Styled.plain row).pieces = if row.isEmpty then [] else [row] := by
    unfold Styled.pieces Styled.plain
    rw [List.flatMap_nil, List.mergeSort_nil, Styled.cutAt]
  rw [hpieces]
  cases row with
  | nil => rfl
  | cons p row =>
      show 0 + width (p :: row) = _
      rw [Nat.zero_add]

/-- A row that fits is shown as it is. -/
theorem panelLine_plain {row : List Point} (h : width row ≤ panelWidth) :
    panelLine (.plain row) = frameRow row := by
  unfold panelLine Styled.shown
  dsimp only
  rw [piecesWidth_plain, if_pos h, Nat.min_eq_left h]
  rfl

/-! ## What is in the rows -/

section

variable {limit : Nat} {lines : List (List Point)} {rows : List (List (List Point))}
  (h : List.Forall₂ (ShowsLine limit) lines rows) {row : List Point} (hrow : row ∈ rows.flatten)
include h hrow

/-- Every row shows a piece of a line. -/
theorem exists_piece : ∃ line ∈ lines, ∃ piece, piece ⊆ line ∧ Shows limit piece row := by
  obtain ⟨shown, hshown, hmem⟩ := List.mem_flatten.mp hrow
  obtain ⟨line, hline, pieces, rfl, hall⟩ := exists_left_of_forall₂ h hshown
  obtain ⟨piece, hpiece, hshows⟩ := exists_left_of_forall₂ hall hmem
  exact ⟨_, hline, piece, fun p hp => List.mem_flatten.mpr ⟨piece, hpiece, hp⟩, hshows⟩

theorem width_row_le : width row ≤ limit := by
  obtain ⟨_, _, _, _, hshows⟩ := exists_piece h hrow
  exact hshows.fits

/-- What is in a row is in a line, or a blank. -/
theorem mem_line_or_blank {p : Point} (hp : p ∈ row) :
    (∃ line ∈ lines, p ∈ line) ∨ isBlankPoint p = true := by
  obtain ⟨line, hline, piece, hsub, hshows⟩ := exists_piece h hrow
  obtain ⟨kept, lost, added, rfl, rfl, hblanks⟩ := hshows.ending
  rcases List.mem_append.mp hp with hp | hp
  · exact Or.inl ⟨line, hline, hsub (List.mem_append_left _ hp)⟩
  · exact Or.inr (hblanks p (List.mem_append_right _ hp))

end

theorem hasHalves_frameRow {row : List Point} (h : ∀ p ∈ row, p.isHalf = false) :
    (frameRow row).hasHalves = false := by
  have hrow : (Text.mk row).hasHalves = false := hasHalves_eq_false_iff.mpr h
  unfold frameRow
  rw [hasHalves_append, hasHalves_append, hasHalves_append, hrow, hasHalves_ofChars,
    hasHalves_ofString, hasHalves_ofString]
  rfl

/-- The frame is made of characters. -/
theorem hasHalves_framed (title : String) {rows : List (List Point)}
    (h : ∀ row ∈ rows, ∀ p ∈ row, p.isHalf = false) : (framed title rows).hasHalves = false := by
  have hrows : (joined "" (rows.map frameRow)).hasHalves = false := by
    rw [hasHalves_eq_false_iff]
    intro p hp
    rcases mem_joined hp with hp | ⟨t, ht, hp⟩
    · cases hp
    · obtain ⟨row, hrow, rfl⟩ := List.mem_map.mp ht
      exact hasHalves_eq_false_iff.mp (hasHalves_frameRow (h row hrow)) p hp
  unfold framed titleLine bar
  dsimp only
  simp only [hasHalves_append, hrows, hasHalves_ofChars, hasHalves_ofString, Bool.or_false]

/-! ## Texts that nothing is read into -/

/-- A text without styles has no style that could be refused. -/
theorem forM_check_plain (rows : List (List Point)) :
    (rows.map Styled.plain).forM Styled.check = .ok () := by
  induction rows with
  | nil => rfl
  | cons row rows ih => exact ih

/-- **A panel shows a text as it is**, line by line, if nothing is read into it. -/
theorem panel_of_isVerbatim {t : Text} (h : IsVerbatim t) (title : String) :
    ∃ rows, List.Forall₂ (ShowsLine panelWidth) (splitAt (Point.char '\n') t.points) rows ∧
      panel title t = .ok (framed title rows.flatten) ∧
      (framed title rows.flatten).hasHalves = false := by
  have hmarkup : Styled.ofMarkup (Depth.ofArguments Depth.framing) t = .ok (.plain t.points) :=
    (ofMarkup_eq_plain_iff _ t).mpr ⟨h.unmarked, fun p hp => (h.steady p hp).2.1⟩
  obtain ⟨rows, hrows, hshown⟩ := @wrap_plain panelWidth (by decide) t.points
    (fun p hp => (h.steady p hp).2.2.2) (fun hp => (h.steady _ hp).2.2.1 rfl)
  have hcontent : content panelWidth (Depth.ofArguments Depth.framing) t =
      .ok (rows.flatten.map Styled.plain) := by
    unfold content
    rw [hmarkup]
    show ((wrap panelWidth (.plain t.points)).forM Styled.check).mapError _ >>= _ = _
    rw [hrows, forM_check_plain]
    rfl
  have hlines : (rows.flatten.map Styled.plain).map panelLine = rows.flatten.map frameRow := by
    rw [List.map_map]
    exact List.map_congr_left fun row hrow => panelLine_plain (width_row_le hshown hrow)
  refine ⟨rows, hshown, ?_, hasHalves_framed title fun row hrow p hp => ?_⟩
  · unfold panel framed
    rw [hcontent]
    show Except.ok _ = _
    rw [hlines]
  · rcases mem_line_or_blank hshown hrow hp with ⟨line, hline, hp⟩ | hblank
    · exact (h.steady p (mem_of_mem_splitAt hline hp)).1
    · cases p with
      | char c => rfl
      | half half => cases hblank

end Casebook.Console

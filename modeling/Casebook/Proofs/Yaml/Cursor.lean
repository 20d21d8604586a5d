import Casebook.Yaml.Cursor
import Mathlib

/-!
# Moving through a YAML text

What a cursor points at after some characters, and what blanks and line ends in front of it are
taken for. Columns matter within the indentation of a line, lines and counts for what may still
be a key.
-/

namespace Casebook.Yaml

variable {c : Cursor} {ch : Char} {cs v after : List Char}

/-- No blank and no line end stands in front. -/
def IsSolid (cs : List Char) : Prop := ∀ ch ∈ cs.head?, isGap ch = false

/-- No character ends a line. -/
def IsOneLine (cs : List Char) : Prop := ∀ ch ∈ cs, isBreak ch = false

theorem isSolid_nil : IsSolid [] := by
  rintro ch ⟨⟩

theorem isSolid_cons : IsSolid (ch :: cs) ↔ isGap ch = false := by
  simp [IsSolid]

theorem isSolid_append {w : List Char} (hw : IsSolid w) (hcs : IsSolid cs) : IsSolid (w ++ cs) := by
  cases w with
  | nil => exact hcs
  | cons ch w => exact isSolid_cons.mpr (isSolid_cons.mp hw)

theorem isBreak_of_isSolid (h : IsSolid cs) : ∀ ch ∈ cs.head?, isBreak ch = false := by
  intro ch hch
  have hgap := h ch hch
  simp only [isGap, Bool.or_eq_false_iff] at hgap
  exact hgap.2

theorem ne_space_of_isSolid (h : IsSolid cs) : ∀ ch ∈ cs.head?, ch ≠ ' ' := by
  rintro _ hch rfl
  cases h _ hch

theorem IsOneLine.tail (h : IsOneLine (ch :: cs)) : IsOneLine cs :=
  fun d hd => h d (List.mem_cons_of_mem _ hd)

theorem isOneLine_append : IsOneLine (v ++ cs) ↔ IsOneLine v ∧ IsOneLine cs := by
  simp [IsOneLine, or_imp, forall_and]

/-- A character that ends a line and is kept as it is when the line end is taken. -/
def isKeptBreak (ch : Char) : Bool := ch == '\n' || ch == '\u2028' || ch == '\u2029'

namespace Cursor

/-- The count of characters before the cursor goes with what is left of the text. -/
def IsSound (c : Cursor) : Prop := c.index + c.rest.length = c.size

theorem isSound_start (cs : List Char) : (start cs).IsSound := by
  simp [IsSound, start]

theorem IsSound.left (h : c.IsSound) : c.left = c.rest.length := by
  unfold IsSound at h
  unfold Cursor.left
  omega

/-! ## One character -/

theorem next_rest (c : Cursor) : c.next.rest = c.rest.tail := by
  unfold next
  cases h : c.rest with
  | nil => rw [h]; rfl
  | cons ch cs => rfl

theorem IsSound.next (h : c.IsSound) : c.next.IsSound := by
  unfold IsSound at h ⊢
  unfold Cursor.next
  split
  · exact h
  · next ch cs hrest =>
    rw [hrest, List.length_cons] at h
    show c.index + 1 + cs.length = c.size
    omega

theorem next_index (hrest : c.rest = ch :: cs) : c.next.index = c.index + 1 := by
  unfold next
  rw [hrest]

theorem index_le_next (c : Cursor) : c.index ≤ c.next.index := by
  unfold next
  split
  · exact Nat.le_refl _
  · exact Nat.le_succ _

theorem line_le_next (c : Cursor) : c.line ≤ c.next.line := by
  unfold next
  split
  · exact Nat.le_refl _
  · dsimp only
    split
    · exact Nat.le_succ _
    · exact Nat.le_refl _

theorem next_line (hrest : c.rest = ch :: cs) (hbreak : isBreak ch = false) :
    c.next.line = c.line := by
  unfold next
  rw [hrest]
  simp [hbreak]

theorem next_column (hrest : c.rest = ch :: cs) (hbreak : isBreak ch = false)
    (hmark : ch ≠ '\uFEFF') : c.next.column = c.column + 1 := by
  unfold next
  rw [hrest]
  simp [hbreak, hmark]

theorem next_lineFeed (hrest : c.rest = '\n' :: cs) :
    c.next.line = c.line + 1 ∧ c.next.column = 0 := by
  unfold next
  rw [hrest]
  exact ⟨rfl, rfl⟩

/-! ## Several characters -/

theorem skip_add (m n : Nat) (c : Cursor) : c.skip (m + n) = (c.skip m).skip n := by
  induction m generalizing c with
  | zero => rw [Nat.zero_add]; rfl
  | succ m ih => rw [Nat.succ_add]; exact ih c.next

theorem skip_succ (n : Nat) (c : Cursor) : c.skip (n + 1) = c.next.skip n := rfl

theorem skip_rest (n : Nat) (c : Cursor) : (c.skip n).rest = c.rest.drop n := by
  induction n generalizing c with
  | zero => rfl
  | succ n ih => rw [skip_succ, ih, next_rest, List.drop_tail]

theorem skip_rest_append (h : c.rest = v ++ after) : (c.skip v.length).rest = after := by
  rw [skip_rest, h, List.drop_left]

theorem IsSound.skip (h : c.IsSound) (n : Nat) : (c.skip n).IsSound := by
  induction n generalizing c with
  | zero => exact h
  | succ n ih => exact ih h.next

theorem index_le_skip (n : Nat) (c : Cursor) : c.index ≤ (c.skip n).index := by
  induction n generalizing c with
  | zero => exact Nat.le_refl _
  | succ n ih => exact (index_le_next c).trans (ih c.next)

theorem line_le_skip (n : Nat) (c : Cursor) : c.line ≤ (c.skip n).line := by
  induction n generalizing c with
  | zero => exact Nat.le_refl _
  | succ n ih => exact (line_le_next c).trans (ih c.next)

theorem skip_index (h : c.rest = v ++ after) :
    (c.skip v.length).index = c.index + v.length := by
  induction v generalizing c with
  | nil => rfl
  | cons ch cs ih =>
      rw [List.length_cons, skip_succ, ih (by rw [next_rest, h]; rfl), next_index h]
      omega

/-- Characters of one line leave the line as it is. -/
theorem skip_line (h : c.rest = v ++ after) (hpre : IsOneLine v) :
    (c.skip v.length).line = c.line := by
  induction v generalizing c with
  | nil => rfl
  | cons ch cs ih =>
      rw [List.length_cons, skip_succ, ih (by rw [next_rest, h]; rfl) hpre.tail,
        next_line h (hpre ch List.mem_cons_self)]

/-- Characters of one line do not lead back to an earlier column. -/
theorem column_le_skip (h : c.rest = v ++ after) (hpre : IsOneLine v) :
    c.column ≤ (c.skip v.length).column := by
  induction v generalizing c with
  | nil => exact Nat.le_refl _
  | cons ch cs ih =>
      have hstep : c.column ≤ c.next.column := by
        unfold next
        rw [h]
        simp only [List.cons_append, hpre ch List.mem_cons_self, Bool.false_and, Bool.false_eq_true,
          if_false]
        split
        · exact Nat.le_refl _
        · exact Nat.le_succ _
      exact hstep.trans (ih (by rw [next_rest, h]; rfl) hpre.tail)

/-- A line end among the characters puts the cursor on a later line. -/
theorem line_lt_skip (h : c.rest = v ++ '\n' :: after) {n : Nat} (hn : v.length < n) :
    c.line < (c.skip n).line := by
  obtain ⟨k, rfl⟩ := Nat.exists_eq_add_of_lt hn
  rw [Nat.add_assoc, skip_add, skip_succ]
  have hfeed := (next_lineFeed (skip_rest_append h)).1
  have hbefore := line_le_skip v.length c
  have hbehind := line_le_skip k (c.skip v.length).next
  omega

/-- Spaces take a column each. -/
theorem skip_spaces_column {n : Nat} (h : c.rest = List.replicate n ' ' ++ after) :
    (c.skip n).column = c.column + n := by
  induction n generalizing c with
  | zero => rfl
  | succ n ih =>
      rw [List.replicate_succ, List.cons_append] at h
      rw [skip_succ, ih (by rw [next_rest, h]; rfl), next_column h rfl (by decide)]
      omega

/-- Behind a line end and the indentation of the next line. -/
theorem skip_newLine {n : Nat} (h : c.rest = v ++ '\n' :: (List.replicate n ' ' ++ after)) :
    (c.skip (v.length + (1 + n))).rest = after ∧
      (c.skip (v.length + (1 + n))).column = n := by
  have hbehind : (c.skip v.length).rest = '\n' :: (List.replicate n ' ' ++ after) :=
    skip_rest_append h
  have hnext : (c.skip v.length).next.rest = List.replicate n ' ' ++ after := by
    rw [next_rest, hbehind, List.tail_cons]
  rw [skip_add, Nat.add_comm 1, skip_succ, skip_rest, hnext, skip_spaces_column hnext,
    (next_lineFeed hbehind).2, Nat.zero_add]
  exact ⟨List.drop_left' List.length_replicate, rfl⟩

/-! ## Spans -/

theorem span_append {p : Char → Bool} (h : c.rest = v ++ after) (hpre : ∀ ch ∈ v, p ch = true)
    (hafter : ∀ ch ∈ after.head?, p ch = false) : c.span p = v := by
  unfold span
  rw [h, List.takeWhile_append_of_pos hpre]
  cases after with
  | nil => simp
  | cons ch cs => rw [List.takeWhile_cons, if_neg (by simp [hafter ch rfl]), List.append_nil]

theorem span_eq_nil {p : Char → Bool} (h : ∀ ch ∈ c.rest.head?, p ch = false) :
    c.span p = [] :=
  span_append (List.nil_append _).symm (by simp) h

/-- Blanks are skipped up to what stands behind them. -/
theorem span_spaces {n : Nat} (h : c.rest = List.replicate n ' ' ++ after)
    (hafter : ∀ ch ∈ after.head?, ch ≠ ' ') : c.span (· == ' ') = List.replicate n ' ' :=
  span_append h (fun ch hch => by simp [List.eq_of_mem_replicate hch])
    fun ch hch => by simp [hafter ch hch]

theorem span_blanks {n : Nat} (h : c.rest = List.replicate n ' ' ++ after)
    (hafter : ∀ ch ∈ after.head?, (ch == ' ' || ch == '\t') = false) :
    (c.span fun ch => ch == ' ' || ch == '\t') = List.replicate n ' ' :=
  span_append h (fun ch hch => by simp [List.eq_of_mem_replicate hch]) hafter

theorem isBlank_of_isSolid (h : IsSolid cs) :
    ∀ ch ∈ cs.head?, (ch == ' ' || ch == '\t') = false := by
  intro ch hch
  have hgap := h ch hch
  simp only [isGap, Bool.or_eq_false_iff] at hgap ⊢
  exact hgap.1

theorem isBlank_of_isBreak (h : isBreak ch = true) : (ch == ' ' || ch == '\t') = false := by
  simp only [isBreak, Bool.or_eq_true, beq_iff_eq] at h
  rcases h with (((rfl | rfl) | rfl) | rfl) | rfl <;> rfl

/-! ## Line ends -/

theorem isBreak_of_isKeptBreak (h : isKeptBreak ch = true) : isBreak ch = true := by
  simp only [isKeptBreak, Bool.or_eq_true, beq_iff_eq] at h
  rcases h with (rfl | rfl) | rfl <;> rfl

theorem takeBreak_kept (h : c.rest = ch :: cs) (hch : isKeptBreak ch = true) :
    c.takeBreak = some (ch, c.next) := by
  simp only [isKeptBreak, Bool.or_eq_true, beq_iff_eq] at hch
  unfold takeBreak
  rw [h]
  rcases hch with (rfl | rfl) | rfl <;> rfl

theorem takeBreak_eq_none (h : ∀ ch ∈ c.rest.head?, isBreak ch = false) : c.takeBreak = none := by
  unfold takeBreak
  split
  · next heq =>
    rw [heq] at h
    exact absurd (h _ rfl) (by decide)
  · next ch cs _ heq =>
    rw [heq] at h
    have hch := h ch rfl
    have hsplit : (ch == '\u2028' || ch == '\u2029') = false := by
      simp only [isBreak, Bool.or_eq_false_iff] at hch ⊢
      exact ⟨hch.1.2, hch.2⟩
    simp [hsplit, hch]
  · rfl

theorem atSeparator_eq_false (h : ∀ ch ∈ c.rest.head?, ch ≠ '-' ∧ ch ≠ '.') :
    c.atSeparator = false := by
  unfold atSeparator begins
  cases hrest : c.rest with
  | nil => rfl
  | cons ch cs =>
      rw [hrest] at h
      obtain ⟨hdash, hpoint⟩ := h ch rfl
      have hminus : "---".toList.isPrefixOf (ch :: cs) = false := by
        show (('-' == ch) && _) = false
        simp [Ne.symm hdash]
      have hdots : "...".toList.isPrefixOf (ch :: cs) = false := by
        show (('.' == ch) && _) = false
        simp [Ne.symm hpoint]
      rw [hminus, hdots]
      rfl

end Cursor

end Casebook.Yaml

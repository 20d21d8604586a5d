import Casebook.Proofs.Sequence.Matching
import Casebook.Sequence.Patch

/-!
# Segments and hunks, as they cover both sequences

The segments of two sequences cover both from beginning to end without a gap (`tiles_segments`).
Hunks are some of these segments, and unchanged ones are cut down to context in them. What is cut
away is alike on both sides, so the hunks leave out nothing but equal parts: `hunks_cases` says
so for all hunks at once, and that between two of them something is left out.
-/

namespace Casebook.Sequence

variable {α : Type}

/-! ## Slices -/

theorem slice_append {xs : List α} {i j k : Nat} (hij : i ≤ j) (hjk : j ≤ k) :
    slice xs i j ++ slice xs j k = slice xs i k := by
  have htake : xs.take j = (xs.take k).take j := by rw [List.take_take, Nat.min_eq_left hjk]
  have hdrop : (xs.take k).drop j = ((xs.take k).drop i).drop (j - i) := by
    rw [List.drop_drop, Nat.add_sub_cancel' hij]
  rw [slice, slice, slice, htake, List.drop_take, hdrop, List.take_append_drop]

theorem slice_self (xs : List α) (i : Nat) : slice xs i i = [] := by
  rw [slice, List.drop_take, Nat.sub_self, List.take_zero]

theorem slice_length (xs : List α) (i : Nat) : slice xs i xs.length = xs.drop i := by
  rw [slice, List.take_length]

theorem IsCommon.slice_eq {as bs : List α} {r : Run} (h : IsCommon as bs r) :
    slice as r.left (r.left + r.size) = slice bs r.right (r.right + r.size) := by
  apply List.ext_getElem?
  intro k
  simp only [slice, List.getElem?_drop, List.getElem?_take]
  by_cases hk : k < r.size
  · rw [if_pos (by omega), if_pos (by omega), h.agree k hk]
  · rw [if_neg (by omega), if_neg (by omega)]

/-- A part of a common run. -/
theorem IsCommon.part {as bs : List α} {left right size a b : Nat}
    (h : IsCommon as bs ⟨left, right, size⟩) (hb : a + b ≤ size) :
    IsCommon as bs ⟨left + a, right + a, b⟩ := by
  have hleft : left + size ≤ as.length := h.left_le
  have hright : right + size ≤ bs.length := h.right_le
  refine ⟨by dsimp only; omega, by dsimp only; omega, fun k hk => ?_⟩
  have hagree := h.agree (a + k) (by dsimp only at hk ⊢; omega)
  simpa only [Nat.add_assoc] using hagree

/-- From one pair of places to another, the two sequences are alike. -/
structure Alike (as bs : List α) (i j m n : Nat) : Prop where
  left_le : i ≤ m
  right_le : j ≤ n
  slice_eq : slice as i m = slice bs j n

theorem Alike.refl (as bs : List α) (i j : Nat) : Alike as bs i j i j :=
  ⟨Nat.le_refl i, Nat.le_refl j, by rw [slice_self, slice_self]⟩

theorem Alike.trans {as bs : List α} {i j l r m n : Nat} (h : Alike as bs i j l r)
    (h' : Alike as bs l r m n) : Alike as bs i j m n := by
  refine ⟨h.left_le.trans h'.left_le, h.right_le.trans h'.right_le, ?_⟩
  rw [← slice_append h.left_le h'.left_le, ← slice_append h.right_le h'.right_le, h.slice_eq,
    h'.slice_eq]

theorem IsCommon.alike {as bs : List α} {left right size : Nat}
    (h : IsCommon as bs ⟨left, right, size⟩) :
    Alike as bs left right (left + size) (right + size) :=
  ⟨Nat.le_add_right .., Nat.le_add_right .., h.slice_eq⟩

/-! ## Segments -/

/-- The segment lies within both sequences, and one that is the same is a common run. -/
structure Segment.Fits (as bs : List α) (s : Segment) : Prop where
  left_le : s.left ≤ s.leftEnd
  right_le : s.right ≤ s.rightEnd
  leftEnd_le : s.leftEnd ≤ as.length
  rightEnd_le : s.rightEnd ≤ bs.length
  common : s.same = true → ∃ size, s.leftEnd = s.left + size ∧ s.rightEnd = s.right + size ∧
    IsCommon as bs ⟨s.left, s.right, size⟩

/-- The segments follow each other without a gap from one pair of places to another. -/
def Tiles (as bs : List α) (i j : Nat) : List Segment → Nat → Nat → Prop
  | [], m, n => i = m ∧ j = n
  | s :: ss, m, n => s.left = i ∧ s.right = j ∧ s.Fits as bs ∧
      Tiles as bs s.leftEnd s.rightEnd ss m n

section
variable {as bs : List α} {i j m n : Nat}

theorem tiles_append {ss ts : List Segment} :
    Tiles as bs i j (ss ++ ts) m n ↔
      ∃ l r, Tiles as bs i j ss l r ∧ Tiles as bs l r ts m n := by
  induction ss generalizing i j with
  | nil =>
      constructor
      · exact fun h => ⟨i, j, ⟨rfl, rfl⟩, h⟩
      · rintro ⟨l, r, ⟨rfl, rfl⟩, h⟩
        exact h
  | cons s ss ih =>
      constructor
      · rintro ⟨hl, hr, hfits, h⟩
        obtain ⟨l, r, hss, hts⟩ := ih.mp h
        exact ⟨l, r, ⟨hl, hr, hfits, hss⟩, hts⟩
      · rintro ⟨l, r, ⟨hl, hr, hfits, hss⟩, hts⟩
        exact ⟨hl, hr, hfits, ih.mpr ⟨l, r, hss, hts⟩⟩

theorem Tiles.singleton {s : Segment} (h : s.Fits as bs) :
    Tiles as bs s.left s.right [s] s.leftEnd s.rightEnd :=
  ⟨rfl, rfl, h, rfl, rfl⟩

theorem Tiles.le {ss : List Segment} (h : Tiles as bs i j ss m n) : i ≤ m ∧ j ≤ n := by
  induction ss generalizing i j with
  | nil => exact ⟨Nat.le_of_eq h.1, Nat.le_of_eq h.2⟩
  | cons s ss ih =>
      obtain ⟨rfl, rfl, hfits, hrest⟩ := h
      have hle := ih hrest
      exact ⟨hfits.left_le.trans hle.1, hfits.right_le.trans hle.2⟩

/-- The part between two runs, if there is one, is changed. -/
theorem Tiles.change {i' j' : Nat} {ss : List Segment} (hi : i ≤ i') (hj : j ≤ j')
    (hi' : i' ≤ as.length) (hj' : j' ≤ bs.length) (h : Tiles as bs i' j' ss m n) :
    Tiles as bs i j ((if i < i' || j < j' then [⟨false, i, i', j, j'⟩] else []) ++ ss) m n := by
  split
  · exact ⟨rfl, rfl, ⟨hi, hj, hi', hj', fun hsame => nomatch hsame⟩, h⟩
  · next hno =>
    have hnone : ¬ i < i' ∧ ¬ j < j' := by simpa using hno
    obtain rfl : i = i' := by omega
    obtain rfl : j = j' := by omega
    exact h

theorem tiles_segmentsFrom {rs : List Run} (h : AreRuns as bs i j rs) :
    Tiles as bs i j (segmentsFrom i j as.length bs.length rs) as.length bs.length := by
  induction rs generalizing i j with
  | nil =>
      rw [segmentsFrom, ← List.append_nil (ite _ _ _)]
      exact .change h.1 h.2 (Nat.le_refl _) (Nat.le_refl _) ⟨rfl, rfl⟩
  | cons r rs ih =>
      obtain ⟨hi, hj, hcommon, hrs⟩ := h
      have hleft := hcommon.left_le
      have hright := hcommon.right_le
      rw [segmentsFrom]
      refine .change hi hj (by omega) (by omega) ⟨rfl, rfl, ?_, ih hrs⟩
      exact ⟨Nat.le_add_right .., Nat.le_add_right .., hleft, hright,
        fun _ => ⟨r.size, rfl, rfl, hcommon⟩⟩

end

/-- **The segments cover both sequences.** -/
theorem tiles_segments [BEq α] [LawfulBEq α] (as bs : List α) :
    Tiles as bs 0 0 (segments as bs) as.length bs.length :=
  tiles_segmentsFrom (areRuns_runs as bs)

/-! ## Context -/

section
variable {as bs : List α} {i j m n : Nat}

/-- A part of a common run is a segment, and what lies on both sides of it is alike. -/
theorem IsCommon.segment {left right size a b : Nat} (h : IsCommon as bs ⟨left, right, size⟩)
    (hb : a + b ≤ size) :
    Segment.Fits as bs ⟨true, left + a, left + a + b, right + a, right + a + b⟩ ∧
      Alike as bs left right (left + a) (right + a) ∧
      Alike as bs (left + a + b) (right + a + b) (left + size) (right + size) := by
  have hpart := h.part hb
  have hfront := h.part (a := 0) (b := a) (by omega)
  have hback := (h.part (a := a + b) (b := size - (a + b)) (by omega)).alike
  rw [show left + (a + b) + (size - (a + b)) = left + size by omega,
    show right + (a + b) + (size - (a + b)) = right + size by omega, ← Nat.add_assoc,
    ← Nat.add_assoc] at hback
  exact ⟨⟨Nat.le_add_right .., Nat.le_add_right .., hpart.left_le, hpart.right_le,
    fun _ => ⟨b, rfl, rfl, hpart⟩⟩, hfront.alike, hback⟩

theorem Segment.Fits.exists_common {s : Segment} (h : s.Fits as bs) (hsame : s.same = true) :
    ∃ left right size, s = ⟨true, left, left + size, right, right + size⟩ ∧
      IsCommon as bs ⟨left, right, size⟩ := by
  obtain ⟨size, hl, hr, hcommon⟩ := h.common hsame
  exact ⟨s.left, s.right, size, by rw [← hl, ← hr, ← hsame], hcommon⟩

theorem Segment.firstPart_mk (left right size : Nat) :
    Segment.firstPart ⟨true, left, left + size, right, right + size⟩ =
      ⟨true, left, left + min size context, right, right + min size context⟩ := by
  simp only [Segment.firstPart, Nat.add_min_add_left]

theorem Segment.lastPart_mk (left right size : Nat) :
    Segment.lastPart ⟨true, left, left + size, right, right + size⟩ =
      ⟨true, left + (size - context), left + size, right + (size - context), right + size⟩ := by
  have hmax : ∀ k, max k (k + size - context) = k + (size - context) := fun k => by omega
  simp only [Segment.lastPart, hmax]

/-- The beginning of an unchanged segment: what is behind it is alike. -/
theorem Segment.Fits.firstPart {s : Segment} (h : s.Fits as bs) (hsame : s.same = true) :
    s.firstPart.Fits as bs ∧
      Alike as bs s.firstPart.leftEnd s.firstPart.rightEnd s.leftEnd s.rightEnd := by
  obtain ⟨left, right, size, rfl, hcommon⟩ := h.exists_common hsame
  obtain ⟨hfits, -, hrest⟩ := hcommon.segment (a := 0) (b := min size context) (by omega)
  rw [Segment.firstPart_mk]
  exact ⟨hfits, hrest⟩

/-- The end of an unchanged segment: what stands before it is alike. -/
theorem Segment.Fits.lastPart {s : Segment} (h : s.Fits as bs) (hsame : s.same = true) :
    s.lastPart.Fits as bs ∧ Alike as bs s.left s.right s.lastPart.left s.lastPart.right := by
  obtain ⟨left, right, size, rfl, hcommon⟩ := h.exists_common hsame
  obtain ⟨hfits, hfront, -⟩ :=
    hcommon.segment (a := size - context) (b := size - (size - context)) (by omega)
  rw [show left + (size - context) + (size - (size - context)) = left + size by omega,
    show right + (size - context) + (size - (size - context)) = right + size by omega] at hfits
  rw [Segment.lastPart_mk]
  exact ⟨hfits, hfront⟩

/-- Of a long unchanged segment something is left between its beginning and its end. -/
theorem Segment.Fits.middle {s : Segment} (h : s.Fits as bs) (hsame : s.same = true)
    (hlong : s.leftEnd - s.left > 2 * context) :
    s.firstPart.leftEnd < s.lastPart.left ∧ s.firstPart.rightEnd < s.lastPart.right ∧
      Alike as bs s.firstPart.leftEnd s.firstPart.rightEnd s.lastPart.left s.lastPart.right := by
  obtain ⟨left, right, size, rfl, hcommon⟩ := h.exists_common hsame
  have hsize : size > 2 * context := by simpa using hlong
  have hmiddle := (hcommon.part (a := context) (b := size - 2 * context) (by omega)).alike
  rw [show left + context + (size - 2 * context) = left + (size - context) by omega,
    show right + context + (size - 2 * context) = right + (size - context) by omega] at hmiddle
  rw [Segment.firstPart_mk, Segment.lastPart_mk, Nat.min_eq_right (by omega)]
  exact ⟨by dsimp only; omega, by dsimp only; omega, hmiddle⟩

/-- Cutting the first segment down to context leaves out what is alike. -/
theorem Tiles.clipFirst {s : Segment} {ss : List Segment} (h : Tiles as bs i j (s :: ss) m n) :
    ∃ l r, Alike as bs i j l r ∧
      Tiles as bs l r ((if s.same then s.lastPart else s) :: ss) m n := by
  obtain ⟨rfl, rfl, hfits, hrest⟩ := h
  split
  · next hsame =>
    obtain ⟨hlast, halike⟩ := hfits.lastPart hsame
    exact ⟨_, _, halike, rfl, rfl, hlast, hrest⟩
  · exact ⟨_, _, .refl .., rfl, rfl, hfits, hrest⟩

theorem Tiles.clipLast {s : Segment} {ss : List Segment} (h : Tiles as bs i j (ss ++ [s]) m n) :
    ∃ l r, Tiles as bs i j (ss ++ [if s.same then s.firstPart else s]) l r ∧
      Alike as bs l r m n := by
  obtain ⟨l, r, hss, rfl, rfl, hfits, rfl, rfl⟩ := tiles_append.mp h
  split
  · next hsame =>
    obtain ⟨hfirst, halike⟩ := hfits.firstPart hsame
    exact ⟨_, _, tiles_append.mpr ⟨_, _, hss, .singleton hfirst⟩, halike⟩
  · exact ⟨_, _, h, .refl ..⟩

theorem Tiles.clip {ss : List Segment} (h : Tiles as bs i j ss m n) :
    ∃ l r m' n', Alike as bs i j l r ∧ Tiles as bs l r (clip ss) m' n' ∧
      Alike as bs m' n' m n := by
  cases ss with
  | nil => exact ⟨i, j, m, n, .refl .., h, .refl ..⟩
  | cons s ss =>
      obtain ⟨l, r, hfront, htiles⟩ := h.clipFirst
      unfold Sequence.clip
      dsimp only
      generalize (if s.same then s.lastPart else s) :: ss = ts at htiles
      split
      · next t rest hrev =>
        rw [List.reverse_eq_cons_iff] at hrev
        rw [hrev] at htiles
        obtain ⟨m', n', htiles', hback⟩ := htiles.clipLast
        rw [List.reverse_cons]
        exact ⟨l, r, m', n', hfront, htiles', hback⟩
      · next hrev =>
        rw [List.reverse_eq_nil_iff] at hrev
        rw [hrev] at htiles
        exact ⟨l, r, m, n, hfront, htiles, .refl ..⟩

end

/-! ## Hunks -/

/-- Behind a pair of places, each hunk begins further on and covers both sequences without a
gap; what is left out between hunks, and behind the last one, is alike. -/
def Behind (as bs : List α) (i j : Nat) : List (List Segment) → Prop
  | [] => Alike as bs i j as.length bs.length
  | h :: hs => ∃ l r m n, i < l ∧ j < r ∧ Alike as bs i j l r ∧ h ≠ [] ∧ Tiles as bs l r h m n ∧
      Behind as bs m n hs

/-- Segments that show no change are alike. -/
theorem Tiles.alike {as bs : List α} {i j m n : Nat} {ss : List Segment}
    (h : Tiles as bs i j ss m n) (hno : showsChange ss = false) : Alike as bs i j m n := by
  match ss, h, hno with
  | [], ⟨hi, hj⟩, _ =>
      subst hi hj
      exact .refl ..
  | [s], ⟨hl, hr, hfits, hm, hn⟩, hno =>
      subst hl hr hm hn
      have hsame : s.same = true := by simpa [showsChange] using hno
      obtain ⟨left, right, size, rfl, hcommon⟩ := hfits.exists_common hsame
      exact hcommon.alike

/-- Segments that follow an open hunk come in hunks, or there is no change at all. -/
theorem group_cases {as bs : List α} {opened ss : List Segment} {i j l r m n : Nat}
    (hopened : Tiles as bs i j opened l r) (h : Tiles as bs l r ss m n)
    (hend : Alike as bs m n as.length bs.length) :
    (group opened ss = [] ∧ Alike as bs i j as.length bs.length) ∨
      ∃ hunk hs m' n', group opened ss = hunk :: hs ∧ hunk ≠ [] ∧ Tiles as bs i j hunk m' n' ∧
        Behind as bs m' n' hs := by
  induction ss generalizing opened i j l r with
  | nil =>
      obtain ⟨rfl, rfl⟩ := h
      rw [group]
      split
      · next hchange =>
        refine Or.inr ⟨opened, [], l, r, rfl, ?_, hopened, hend⟩
        rintro rfl
        cases hchange
      · next hno => exact Or.inl ⟨rfl, (hopened.alike (Bool.eq_false_iff.mpr hno)).trans hend⟩
  | cons s ss ih =>
      obtain ⟨rfl, rfl, hfits, hss⟩ := h
      rw [group]
      split
      · next hlong =>
        obtain ⟨hsame, hlength⟩ : s.same = true ∧ s.leftEnd - s.left > 2 * context := by
          simpa using hlong
        obtain ⟨hleft, hright, hmiddle⟩ := hfits.middle hsame hlength
        refine Or.inr ⟨_, _, s.firstPart.leftEnd, s.firstPart.rightEnd, rfl, by simp,
          tiles_append.mpr ⟨_, _, hopened, .singleton (hfits.firstPart hsame).1⟩, ?_⟩
        -- the end of the segment opens the next hunk, if there is one
        rcases ih (.singleton (hfits.lastPart hsame).1) hss with ⟨hnil, halike⟩ |
          ⟨hunk, hs, m', n', hcons, hne, htiles, hbehind⟩
        · rw [hnil]
          exact hmiddle.trans halike
        · rw [hcons]
          exact ⟨_, _, m', n', hleft, hright, hmiddle, hne, htiles, hbehind⟩
      · exact ih (tiles_append.mpr ⟨_, _, hopened, .singleton hfits⟩) hss

/-- **Hunks leave out what is alike.** There are none only if the sequences are equal; otherwise
the first of them begins where something alike ends, and the others stand behind it. -/
theorem hunks_cases [BEq α] [LawfulBEq α] (as bs : List α) :
    (hunks as bs = [] ∧ as = bs) ∨
      ∃ hunk hs i j m n, hunks as bs = hunk :: hs ∧ Alike as bs 0 0 i j ∧ hunk ≠ [] ∧
        Tiles as bs i j hunk m n ∧ Behind as bs m n hs := by
  obtain ⟨i, j, m, n, hfront, htiles, hend⟩ := (tiles_segments as bs).clip
  have hnone : Tiles as bs i j [] i j := ⟨rfl, rfl⟩
  rcases group_cases hnone htiles hend with ⟨hnil, halike⟩ |
    ⟨hunk, hs, m', n', hcons, hne, hhunk, hbehind⟩
  · have hslices := (hfront.trans halike).slice_eq
    rw [slice_length, slice_length] at hslices
    exact Or.inl ⟨hnil, hslices⟩
  · exact Or.inr ⟨hunk, hs, i, j, m', n', hcons, hfront, hne, hhunk, hbehind⟩

/-- **Equal sequences have no hunks.** -/
theorem hunks_self [BEq α] [LawfulBEq α] (as : List α) : hunks as as = [] := by
  by_cases h : as = []
  · subst h
    rfl
  · have hsegments : segments as as = [⟨true, 0, as.length, 0, as.length⟩] := by
      simp [segments, runs_self h, segmentsFrom]
    have hclip : clip [⟨true, 0, as.length, 0, as.length⟩] =
        [Segment.firstPart (Segment.lastPart ⟨true, 0, as.length, 0, as.length⟩)] := rfl
    -- one unchanged segment is cut down to context and then shows no change
    rw [hunks, hsegments, hclip, group, if_neg]
    · rfl
    · intro hlong
      have hlength := of_decide_eq_true (Bool.and_eq_true_iff.mp hlong).2
      simp only [Segment.firstPart, Segment.lastPart] at hlength
      omega

end Casebook.Sequence

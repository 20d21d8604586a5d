import Casebook.Proofs.CaseFile.Reading

/-!
# Which lines are a case file

Four conditions on lines, each about where header lines stand and none about how lines are
grouped or read: what begins like a header is one, no part comes before the first case, a
part is not repeated without a case header in between, and no case name is repeated. They
hold exactly if the outline of the lines fits and is sound (`admissible_iff`).
-/

namespace Casebook.Case

/-- The line is the header of a case. -/
def IsCaseHeader (line : List Char) : Prop := ∃ name, IsHeader (.case name) line

/-- A part stands only behind a case header. -/
def PartsAreOpened (lines : List (List Char)) : Prop :=
  ∀ before line after h, lines = before ++ line :: after → h.IsPart → IsHeader h line →
    ∃ first ∈ before, IsCaseHeader first

/-- Between two equal headers of parts, so with the same file name or both of output, there
is the header of another case. -/
def PartsAreDistinct (lines : List (List Char)) : Prop :=
  ∀ before line between later after h,
    lines = before ++ line :: (between ++ later :: after) → h.IsPart →
    IsHeader h line → IsHeader h later → ∃ other ∈ between, IsCaseHeader other

/-- No two case headers give one name. -/
def CasesAreDistinct (lines : List (List Char)) : Prop :=
  lines.Pairwise fun line later => ∀ name, IsHeader (.case name) line → ¬ IsHeader (.case name) later

structure Admissible (lines : List (List Char)) : Prop where
  headers : ∀ line ∈ lines, BeginsLikeHeader line → ∃ h, IsHeader h line
  opened : PartsAreOpened lines
  parts : PartsAreDistinct lines
  cases : CasesAreDistinct lines

/-! ## Headers before any case -/

/-- A header stands in the lines before any header of a case. -/
def StandsFirst (h : Header) (lines : List (List Char)) : Prop :=
  ∃ before line after, lines = before ++ line :: after ∧ IsHeader h line ∧
    ∀ l ∈ before, ¬ IsCaseHeader l

theorem standsFirst_cons {h : Header} {line : List Char} {lines : List (List Char)} :
    StandsFirst h (line :: lines) ↔
      IsHeader h line ∨ (¬ IsCaseHeader line ∧ StandsFirst h lines) := by
  constructor
  · rintro ⟨before, l, after, heq, hl, hbefore⟩
    cases before with
    | nil =>
        cases heq
        exact Or.inl hl
    | cons first before =>
        cases heq
        exact Or.inr ⟨hbefore line List.mem_cons_self, before, l, after, rfl, hl,
          fun x hx => hbefore x (List.mem_cons_of_mem _ hx)⟩
  · rintro (hl | ⟨hc, before, l, after, rfl, hl, hbefore⟩)
    · exact ⟨[], line, lines, rfl, hl, by simp⟩
    · exact ⟨line :: before, l, after, rfl, hl, List.forall_mem_cons.mpr ⟨hc, hbefore⟩⟩

theorem not_isHeader_of_none {line : List Char} (hn : header? line = none) (h : Header) :
    ¬ IsHeader h line := fun hh => by
  rw [header?_eq_some_iff.mpr hh] at hn
  cases hn

theorem not_isCaseHeader_of_part {line : List Char} {h : Header} (hh : IsHeader h line)
    (hp : h.IsPart) : ¬ IsCaseHeader line := by
  rintro ⟨name, hc⟩
  exact hp name (hh.unique hc)

/-- Those headers are the ones of the stray parts of the outline. -/
theorem standsFirst_iff {h : Header} (hp : h.IsPart) (lines : List (List Char)) :
    StandsFirst h lines ↔ h ∈ (outlineOf lines).stray.map Block.header := by
  induction lines with
  | nil =>
      constructor
      · rintro ⟨before, line, after, heq, -⟩
        simp at heq
      · intro hm
        simp [outlineOf] at hm
  | cons line lines ih =>
      rw [standsFirst_cons, ih]
      show _ ↔ h ∈ ((outlineOf lines).cons line).stray.map Block.header
      rcases header_cases line with hn | ⟨name, hc⟩ | ⟨hd, hdp, hc⟩
      · have hno := not_isHeader_of_none hn
        rw [Outline.cons_plain hn]
        constructor
        · rintro (hh | ⟨-, hm⟩)
          · exact absurd hh (hno h)
          · exact hm
        · intro hm
          refine Or.inr ⟨?_, hm⟩
          rintro ⟨name, hc⟩
          exact hno _ hc
      · rw [Outline.cons_case hc]
        constructor
        · rintro (hh | ⟨hno, -⟩)
          · exact absurd (hh.unique hc) (hp name)
          · exact absurd ⟨name, hc⟩ hno
        · intro hm
          cases hm
      · rw [Outline.cons_part hc hdp, List.map_cons, List.mem_cons]
        constructor
        · rintro (hh | ⟨-, hm⟩)
          · exact Or.inl (hh.unique hc)
          · exact Or.inr hm
        · rintro (rfl | hm)
          · exact Or.inl hc
          · exact Or.inr ⟨not_isCaseHeader_of_part hc hdp, hm⟩

/-- The headers of stray parts are headers of parts. -/
theorem isPart_of_stray (lines : List (List Char)) :
    ∀ b ∈ (outlineOf lines).stray, b.header.IsPart := by
  induction lines with
  | nil => simp [outlineOf]
  | cons line lines ih =>
      show ∀ b ∈ ((outlineOf lines).cons line).stray, b.header.IsPart
      rcases header_cases line with hn | ⟨name, hc⟩ | ⟨hd, hdp, hc⟩
      · rw [Outline.cons_plain hn]
        exact ih
      · rw [Outline.cons_case hc]
        simp
      · rw [Outline.cons_part hc hdp]
        exact List.forall_mem_cons.mpr ⟨hdp, ih⟩

theorem partsAreOpened_iff (lines : List (List Char)) :
    PartsAreOpened lines ↔ (outlineOf lines).stray = [] := by
  constructor
  · intro hopened
    by_contra hne
    obtain ⟨b, hb⟩ := List.exists_mem_of_ne_nil _ hne
    have hp := isPart_of_stray lines b hb
    obtain ⟨before, line, after, heq, hh, hbefore⟩ :=
      (standsFirst_iff hp lines).mpr (List.mem_map_of_mem hb)
    obtain ⟨first, hfirst, hc⟩ := hopened before line after _ heq hp hh
    exact hbefore first hfirst hc
  · intro hnil before line after h heq hp hh
    by_contra hno
    have hstands : StandsFirst h lines :=
      ⟨before, line, after, heq, hh, fun l hl hc => hno ⟨l, hl, hc⟩⟩
    rw [standsFirst_iff hp, hnil] at hstands
    cases hstands

/-! ## Repeated parts -/

/-- Parts have distinct headers exactly when their files have distinct names and there is
one of output at most. -/
theorem headers_nodup_iff {bs : List Block} (h : ∀ b ∈ bs, b.header.IsPart) :
    (bs.map Block.header).Nodup ↔
      ((bs.filterMap Block.file?).map Prod.fst).Nodup ∧ (bs.filterMap Block.out?).length ≤ 1 := by
  induction bs with
  | nil => simp
  | cons b bs ih =>
      obtain ⟨hb, hbs⟩ := List.forall_mem_cons.mp h
      rw [List.map_cons, List.nodup_cons, ih hbs]
      obtain ⟨header, line, body⟩ := b
      cases header with
      | case name => exact absurd rfl (hb name)
      | file name =>
          have hmem : Header.file name ∈ bs.map Block.header ↔
              name ∈ (bs.filterMap Block.file?).map Prod.fst := by
            simp only [List.mem_map, List.mem_filterMap]
            constructor
            · rintro ⟨⟨hd, l, body'⟩, hm, rfl⟩
              exact ⟨_, ⟨_, hm, rfl⟩, rfl⟩
            · rintro ⟨f, ⟨⟨hd, l, body'⟩, hm, hf⟩, rfl⟩
              cases hd with
              | case n => cases hf
              | out => cases hf
              | file n =>
                  cases hf
                  exact ⟨_, hm, rfl⟩
          rw [hmem, List.filterMap_cons_some (f := Block.file?) rfl,
            List.filterMap_cons_none (f := Block.out?) rfl, List.map_cons, List.nodup_cons,
            and_assoc]
      | out =>
          have hmem : Header.out ∈ bs.map Block.header ↔ bs.filterMap Block.out? ≠ [] := by
            constructor
            · intro hm
              obtain ⟨⟨hd, l, body'⟩, hm, rfl⟩ := List.mem_map.mp hm
              exact List.ne_nil_of_mem (List.mem_filterMap.mpr ⟨_, hm, rfl⟩)
            · intro hne
              obtain ⟨lines, hlines⟩ := List.exists_mem_of_ne_nil _ hne
              obtain ⟨⟨hd, l, body'⟩, hm, hf⟩ := List.mem_filterMap.mp hlines
              rw [List.mem_map]
              cases hd with
              | case n => cases hf
              | file n => cases hf
              | out => exact ⟨_, hm, rfl⟩
          rw [hmem, List.filterMap_cons_none (f := Block.file?) rfl,
            List.filterMap_cons_some (f := Block.out?) rfl, List.length_cons, not_not]
          constructor
          · rintro ⟨hnil, hf, -⟩
            exact ⟨hf, by rw [hnil]; exact Nat.le_refl 1⟩
          · rintro ⟨hf, hlen⟩
            have hnil : bs.filterMap Block.out? = [] := List.length_eq_zero_iff.mp (by omega)
            exact ⟨hnil, hf, by omega⟩

theorem partsAreDistinct_cons {line : List Char} {lines : List (List Char)} :
    PartsAreDistinct (line :: lines) ↔
      (∀ h : Header, h.IsPart → IsHeader h line → ¬ StandsFirst h lines) ∧
        PartsAreDistinct lines := by
  constructor
  · intro hd
    refine ⟨?_, ?_⟩
    · rintro h hp hh ⟨between, later, after, rfl, hl, hbetween⟩
      obtain ⟨other, hother, hc⟩ := hd [] line between later after h rfl hp hh hl
      exact hbetween other hother hc
    · rintro before l between later after h rfl
      exact hd (line :: before) l between later after h rfl
  · rintro ⟨hfirst, hrest⟩ before l between later after h heq hp hh hl
    cases before with
    | nil =>
        cases heq
        by_contra hno
        exact hfirst h hp hh ⟨between, later, after, rfl, hl, fun x hx hc => hno ⟨x, hx, hc⟩⟩
    | cons first before =>
        cases heq
        exact hrest before l between later after h rfl hp hh hl

theorem partsAreDistinct_iff (lines : List (List Char)) :
    PartsAreDistinct lines ↔
      ((outlineOf lines).stray.map Block.header).Nodup ∧
        ∀ c ∈ (outlineOf lines).cases, (c.sections.map Block.header).Nodup := by
  induction lines with
  | nil =>
      constructor
      · intro _
        simp [outlineOf]
      · rintro - before line between later after h heq
        simp at heq
  | cons line lines ih =>
      rw [partsAreDistinct_cons, ih]
      show _ ↔ (((outlineOf lines).cons line).stray.map Block.header).Nodup ∧
        ∀ c ∈ ((outlineOf lines).cons line).cases, (c.sections.map Block.header).Nodup
      rcases header_cases line with hn | ⟨name, hc⟩ | ⟨hd, hdp, hc⟩
      · rw [Outline.cons_plain hn]
        exact and_iff_right fun h _ hh => absurd hh (not_isHeader_of_none hn h)
      · rw [Outline.cons_case hc]
        constructor
        · rintro ⟨-, hstray, hcases⟩
          exact ⟨List.nodup_nil, List.forall_mem_cons.mpr ⟨hstray, hcases⟩⟩
        · rintro ⟨-, hcases⟩
          exact ⟨fun h hp hh => absurd (hh.unique hc) (hp name), List.forall_mem_cons.mp hcases⟩
      · rw [Outline.cons_part hc hdp, List.map_cons, List.nodup_cons, and_assoc]
        refine and_congr_left fun _ => ?_
        rw [← standsFirst_iff hdp]
        exact ⟨fun hall => hall hd hdp hc, fun hno h _ hh => hh.unique hc ▸ hno⟩

/-! ## Repeated cases -/

theorem mem_names_iff {name : Text} (lines : List (List Char)) :
    name ∈ (outlineOf lines).cases.map CaseBlock.name ↔
      ∃ line ∈ lines, IsHeader (.case name) line := by
  induction lines with
  | nil => simp [outlineOf]
  | cons line lines ih =>
      have hcons : (∃ l ∈ line :: lines, IsHeader (.case name) l) ↔
          IsHeader (.case name) line ∨ name ∈ (outlineOf lines).cases.map CaseBlock.name := by
        rw [ih]
        simp only [List.mem_cons, or_and_right, exists_or, exists_eq_left]
      rw [hcons]
      show name ∈ ((outlineOf lines).cons line).cases.map CaseBlock.name ↔ _
      rcases header_cases line with hn | ⟨n, hc⟩ | ⟨hd, hdp, hc⟩
      · rw [Outline.cons_plain hn]
        exact (or_iff_right (not_isHeader_of_none hn _)).symm
      · rw [Outline.cons_case hc, List.map_cons, List.mem_cons]
        have hhere : name = n ↔ IsHeader (.case name) line := by
          constructor
          · rintro rfl
            exact hc
          · intro hh
            cases hh.unique hc
            rfl
        rw [hhere]
      · rw [Outline.cons_part hc hdp]
        exact (or_iff_right fun hh => not_isCaseHeader_of_part hc hdp ⟨name, hh⟩).symm

theorem casesAreDistinct_iff (lines : List (List Char)) :
    CasesAreDistinct lines ↔ ((outlineOf lines).cases.map CaseBlock.name).Nodup := by
  unfold CasesAreDistinct
  induction lines with
  | nil => simp [outlineOf]
  | cons line lines ih =>
      rw [List.pairwise_cons, ih]
      show _ ↔ (((outlineOf lines).cons line).cases.map CaseBlock.name).Nodup
      rcases header_cases line with hn | ⟨name, hc⟩ | ⟨hd, hdp, hc⟩
      · rw [Outline.cons_plain hn]
        exact and_iff_right fun _ _ name hh => absurd hh (not_isHeader_of_none hn _)
      · rw [Outline.cons_case hc, List.map_cons, List.nodup_cons]
        refine and_congr_left fun _ => ?_
        rw [mem_names_iff]
        constructor
        · rintro hall ⟨later, hl, hh⟩
          exact hall later hl name hc hh
        · intro hno later hl n hh hl'
          cases hh.unique hc
          exact hno ⟨later, hl, hl'⟩
      · rw [Outline.cons_part hc hdp]
        exact and_iff_right fun _ _ name hh => absurd ⟨name, hh⟩ (not_isCaseHeader_of_part hc hdp)

/-! ## Together -/

/-- **The four conditions are those of a sound outline.** -/
theorem admissible_iff (lines : List (List Char)) :
    Admissible lines ↔ (outlineOf lines).Fits ∧ (outlineOf lines).IsSound := by
  have hsound : (outlineOf lines).Fits → ∀ c ∈ (outlineOf lines).cases,
      ((c.sections.map Block.header).Nodup ↔ c.IsSound) := by
    intro hfits c hc
    rw [headers_nodup_iff fun b hb => ((hfits.cases c hc).sections b hb).isPart]
    constructor
    · rintro ⟨hf, ho⟩
      exact ⟨hf, ho⟩
    · rintro ⟨hf, ho⟩
      exact ⟨hf, ho⟩
  constructor
  · rintro ⟨hheaders, hopened, hparts, hcases⟩
    have hfits := fits_outlineOf hheaders
    exact ⟨hfits, (partsAreOpened_iff lines).mp hopened,
      fun c hc => (hsound hfits c hc).mp (((partsAreDistinct_iff lines).mp hparts).2 c hc),
      (casesAreDistinct_iff lines).mp hcases⟩
  · rintro ⟨hfits, hstray, hcases, hnames⟩
    refine ⟨?_, (partsAreOpened_iff lines).mpr hstray, (partsAreDistinct_iff lines).mpr ?_,
      (casesAreDistinct_iff lines).mpr hnames⟩
    · intro line hline hb
      exact hfits.isHeader ((lines_outlineOf lines).symm ▸ hline) hb
    · exact ⟨by rw [hstray]; exact List.nodup_nil,
        fun c hc => (hsound hfits c hc).mpr (hcases c hc)⟩

end Casebook.Case

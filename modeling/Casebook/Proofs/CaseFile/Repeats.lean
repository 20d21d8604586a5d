import Casebook.Proofs.CaseFile.Exact

/-!
# What is repeated first

Going through a list, the first element that was met before is what a check for repeats reports
(`IsFirstAgain`). On lines it is the first header that an earlier line gave (`IsFirstRepeat`). A
complete case is refused for the first part that its lines repeat (`finish_eq_error_iff`), and
cases are refused for the first name that is repeated (`firstRepeat_eq_some_iff`).
-/

namespace Casebook.Case

/-! ## Repeats -/

/-- Going through a list, `x` is the first element that was met before. -/
def IsFirstAgain {α : Type} (xs : List α) (x : α) : Prop :=
  ∃ before after, xs = before ++ x :: after ∧ before.Nodup ∧ x ∈ before

/-- Going through lines, `x` is the first that a line gives after an earlier line gave it. -/
def IsFirstRepeat {α : Type} (gives : α → List Char → Prop) (lines : List (List Char))
    (x : α) : Prop :=
  ∃ before line after, lines = before ++ line :: after ∧ gives x line ∧
    (∃ earlier ∈ before, gives x earlier) ∧
    before.Pairwise fun l later => ∀ y, gives y l → ¬ gives y later

section
variable {α : Type} {xs : List α} {x y : α}

theorem IsFirstAgain.unique (hx : IsFirstAgain xs x) (hy : IsFirstAgain xs y) : x = y := by
  obtain ⟨before, after, rfl, hnd, hmem⟩ := hx
  obtain ⟨before', after', heq, hnd', hmem'⟩ := hy
  -- the longer of the two lists of distinct elements would have the other's repeat in it
  rcases List.append_eq_append_iff.mp heq with ⟨between, rfl, hb⟩ | ⟨between, rfl, hb⟩
  · cases between with
    | nil => exact (List.cons.inj hb).1
    | cons z between =>
        obtain ⟨rfl, -⟩ := List.cons.inj hb
        exact absurd rfl ((List.nodup_append.mp hnd').2.2 x hmem x List.mem_cons_self)
  · cases between with
    | nil => exact (List.cons.inj hb).1.symm
    | cons z between =>
        obtain ⟨rfl, -⟩ := List.cons.inj hb
        exact absurd rfl ((List.nodup_append.mp hnd).2.2 y hmem' y List.mem_cons_self)

theorem not_isFirstAgain (h : xs.Nodup) : ¬ IsFirstAgain xs x := by
  rintro ⟨before, after, rfl, -, hmem⟩
  exact (List.nodup_append.mp h).2.2 x hmem x List.mem_cons_self rfl

/-- Behind distinct elements, one of them is the first repeat. -/
theorem isFirstAgain_iff_of_mem {seen : List α} (hnd : seen.Nodup) (hmem : x ∈ seen) :
    IsFirstAgain (seen ++ x :: xs) y ↔ y = x := by
  have hx : IsFirstAgain (seen ++ x :: xs) x := ⟨seen, xs, rfl, hnd, hmem⟩
  constructor
  · exact fun hy => hy.unique hx
  · rintro rfl
    exact hx

/-- What lines give is repeated first where the list of all that they give repeats first. -/
theorem isFirstRepeat_iff {gives : α → List Char → Prop} {read : List Char → Option α}
    (hread : ∀ x line, read line = some x ↔ gives x line) {lines : List (List Char)} :
    IsFirstRepeat gives lines x ↔ IsFirstAgain (lines.filterMap read) x := by
  have hdistinct : ∀ before : List (List Char), (before.filterMap read).Nodup ↔
      before.Pairwise fun l later => ∀ y, gives y l → ¬ gives y later := by
    intro before
    rw [List.Nodup, List.pairwise_filterMap]
    refine List.Pairwise.iff fun l later => ?_
    constructor
    · exact fun h y hl hlater => h y ((hread y l).mpr hl) y ((hread y later).mpr hlater) rfl
    · rintro h y hl _ hlater rfl
      exact h y ((hread y l).mp hl) ((hread y later).mp hlater)
  have hmem : ∀ before : List (List Char), x ∈ before.filterMap read ↔
      ∃ earlier ∈ before, gives x earlier := fun before => by
    simp only [List.mem_filterMap, hread]
  constructor
  · rintro ⟨before, line, after, rfl, hline, hearlier, hpair⟩
    refine ⟨before.filterMap read, after.filterMap read, ?_, (hdistinct before).mpr hpair,
      (hmem before).mpr hearlier⟩
    rw [List.filterMap_append, List.filterMap_cons_some ((hread x line).mpr hline)]
  · rintro ⟨given, rest, heq, hnd, hx⟩
    obtain ⟨before, tail, rfl, rfl, htail⟩ := List.filterMap_eq_append_iff.mp heq
    obtain ⟨skipped, line, after, rfl, hskipped, hline, -⟩ := List.filterMap_eq_cons_iff.mp htail
    -- lines that give nothing can stand on either side of the cut
    have hnone : skipped.filterMap read = [] := List.filterMap_eq_nil_iff.mpr hskipped
    have hbefore : (before ++ skipped).filterMap read = before.filterMap read := by
      rw [List.filterMap_append, hnone, List.append_nil]
    refine ⟨before ++ skipped, line, after, (List.append_assoc ..).symm, (hread x line).mp hline,
      (hmem _).mp (hbefore ▸ hx), (hdistinct _).mp (hbefore ▸ hnd)⟩

end

/-! ## Sections -/

/-- The fault of a case in which a part is repeated. -/
def repeatFault (case : Text) : Header → Fault
  | .file name => .duplicateFile case name
  | _ => .secondOut case

/-- The header that a section was read from. -/
def Section.header : Section → Header
  | .file name _ => .file name
  | .out _ => .out

/-- The case has taken a section with this header. -/
def HasTaken (c : CaseSpec) : Header → Prop
  | .case _ => False
  | .file name => name ∈ c.files.map Prod.fst
  | .out => c.expected.isSome = true

/-- A section is refused exactly if the case has taken one with its header. -/
theorem addSection_of_taken {c : CaseSpec} {s : Section} (h : HasTaken c s.header) :
    addSection c s = .error (repeatFault c.name s.header) := by
  cases s with
  | file name contents =>
      have hany : c.files.any (·.1 == name) = true := by
        by_contra hno
        exact any_eq_false_iff.mp (Bool.eq_false_iff.mpr hno) h
      exact if_pos hany
  | out lines =>
      obtain ⟨old, hold⟩ := Option.isSome_iff_exists.mp h
      rw [addSection, hold]
      rfl

theorem addSection_of_not_taken {c : CaseSpec} {s : Section} (h : ¬ HasTaken c s.header) :
    ∃ c', addSection c s = .ok c' ∧ c'.name = c.name ∧
      ∀ hd, HasTaken c' hd ↔ HasTaken c hd ∨ hd = s.header := by
  cases s with
  | file name contents =>
      refine ⟨{ c with files := c.files ++ [(name, contents)] }, ?_, rfl, ?_⟩
      · rw [addSection, if_neg]
        rw [any_eq_false_iff.mpr h]
        exact Bool.false_ne_true
      · intro hd
        cases hd <;> simp [HasTaken, Section.header]
  | out lines =>
      have hnone : c.expected = none := by simpa [HasTaken, Section.header] using h
      refine ⟨{ c with expected := some lines }, ?_, rfl, ?_⟩
      · rw [addSection, hnone]
      · intro hd
        cases hd <;> simp [HasTaken, Section.header, hnone]

/-- A case refuses the first section whose header it has met before. -/
theorem foldlM_addSection_eq_error_iff {sections : List Section} {c : CaseSpec}
    {seen : List Header} {fault : Fault} (hnd : seen.Nodup)
    (hseen : ∀ hd, hd ∈ seen ↔ HasTaken c hd) :
    sections.foldlM addSection c = .error fault ↔
      ∃ hd, IsFirstAgain (seen ++ sections.map Section.header) hd ∧
        fault = repeatFault c.name hd := by
  induction sections generalizing c seen with
  | nil =>
      constructor
      · intro h
        cases h
      · rintro ⟨hd, hagain, -⟩
        rw [List.map_nil, List.append_nil] at hagain
        exact absurd hagain (not_isFirstAgain hnd)
  | cons s sections ih =>
      rw [List.foldlM_cons, List.map_cons]
      by_cases htaken : HasTaken c s.header
      · rw [addSection_of_taken htaken]
        have hfirst (hd : Header) :
            IsFirstAgain (seen ++ s.header :: sections.map Section.header) hd ↔ hd = s.header :=
          isFirstAgain_iff_of_mem hnd ((hseen _).mpr htaken)
        constructor
        · intro h
          exact ⟨s.header, (hfirst _).mpr rfl, (Except.error.inj h).symm⟩
        · rintro ⟨hd, hagain, rfl⟩
          rw [(hfirst hd).mp hagain]
          rfl
      · obtain ⟨c', hadd, hname, hc'⟩ := addSection_of_not_taken htaken
        have hnd' : (seen ++ [s.header]).Nodup := by
          rw [← List.concat_eq_append]
          exact hnd.concat fun hm => htaken ((hseen _).mp hm)
        rw [hadd, ← hname, List.append_cons]
        refine ih hnd' fun hd => ?_
        rw [List.mem_append, List.mem_singleton, hc', hseen]

/-! ## Complete cases -/

/-- The parts of a case, with the text below each. -/
def sectionsOf (parts : List (Header × List (List Char))) : List Section :=
  parts.filterMap fun (h, lines) => sectionOf h (textOf lines)

/-- Every part gives a section with its header. -/
theorem headers_sectionsOf {parts : List (Header × List (List Char))}
    (h : ∀ hd ∈ parts.map Prod.fst, hd.IsPart) :
    (sectionsOf parts).map Section.header = parts.map Prod.fst := by
  induction parts with
  | nil => rfl
  | cons part parts ih =>
      rw [List.map_cons, List.forall_mem_cons] at h
      have hsection : ∃ s, sectionOf part.1 (textOf part.2) = some s ∧ s.header = part.1 := by
        obtain ⟨⟨name⟩ | name | _, lines⟩ := part
        · exact absurd rfl (h.1 _)
        · exact ⟨_, rfl, rfl⟩
        · exact ⟨_, rfl, rfl⟩
      obtain ⟨s, hs, hheader⟩ := hsection
      have hcons : sectionsOf (part :: parts) = s :: sectionsOf parts :=
        List.filterMap_cons_some hs
      rw [hcons, List.map_cons, List.map_cons, hheader, ih h.2]

/-- A complete case is refused exactly if one of its parts is repeated on its lines. -/
theorem finish_eq_error_iff {body : List (List Char)} {d : Draft} {fault : Fault}
    (hparts : d.parts.reverse.map Prod.fst = .case d.name :: body.filterMap header?)
    (hbody : ∀ l ∈ body, ¬ IsCaseHeader l) :
    d.finish = .error fault ↔
      ∃ h, IsFirstRepeat IsHeader body h ∧ fault = repeatFault d.name h := by
  cases hrev : d.parts.reverse with
  | nil =>
      rw [hrev] at hparts
      cases hparts
  | cons source parts =>
      rw [hrev, List.map_cons] at hparts
      have hheaders := (List.cons.inj hparts).2
      have hpart : ∀ hd ∈ parts.map Prod.fst, hd.IsPart := by
        rw [hheaders]
        rintro hd hmem name rfl
        obtain ⟨l, hl, hh⟩ := List.mem_filterMap.mp hmem
        exact hbody l hl ⟨name, header?_eq_some_iff.mp hh⟩
      have hfinish : d.finish = (sectionsOf parts).foldlM addSection
          ⟨d.name, .ofChars (textOf source.2), [], none⟩ := by
        unfold Draft.finish
        rw [hrev]
        rfl
      have hnone : ∀ hd, hd ∈ ([] : List Header) ↔
          HasTaken ⟨d.name, .ofChars (textOf source.2), [], none⟩ hd := by
        intro hd
        cases hd <;> simp [HasTaken]
      rw [hfinish, foldlM_addSection_eq_error_iff List.nodup_nil hnone, List.nil_append,
        headers_sectionsOf hpart, hheaders]
      simp only [isFirstRepeat_iff fun _ _ => header?_eq_some_iff]

theorem finishOpen_some_eq_error_iff {d : Draft} {fault : Fault} :
    finishOpen (some d) = .error fault ↔ d.finish = .error fault := by
  show (do return [← d.finish]) = Except.error fault ↔ _
  cases d.finish <;> simp [bind, Except.bind, pure, Except.pure]

/-! ## Names of cases -/

def caseName? (line : List Char) : Option Text :=
  match header? line with
  | some (.case name) => some name
  | _ => none

theorem caseName?_eq_some_iff (name : Text) (line : List Char) :
    caseName? line = some name ↔ IsHeader (.case name) line := by
  rw [← header?_eq_some_iff, caseName?]
  cases header? line with
  | none => simp
  | some h => cases h <;> simp

theorem names_outlineOf (lines : List (List Char)) :
    (outlineOf lines).cases.map CaseBlock.name = lines.filterMap caseName? := by
  induction lines with
  | nil => rfl
  | cons line lines ih =>
      show ((outlineOf lines).cons line).cases.map CaseBlock.name = _
      rcases header_cases line with hn | ⟨name, hc⟩ | ⟨h, hp, hh⟩
      · have hno : caseName? line = none := by rw [caseName?, hn]
        rw [Outline.cons_plain hn, List.filterMap_cons_none hno, ih]
      · rw [Outline.cons_case hc,
          List.filterMap_cons_some ((caseName?_eq_some_iff name line).mpr hc), ← ih]
        rfl
      · have hno : caseName? line = none := by
          rw [caseName?, header?_eq_some_iff.mpr hh]
          cases h with
          | case name => exact absurd rfl (hp name)
          | file name => rfl
          | out => rfl
        rw [Outline.cons_part hh hp, List.filterMap_cons_none hno, ih]

theorem firstRepeat_eq_some_iff {seen names : List Text} {name : Text} (hnd : seen.Nodup) :
    firstRepeat seen names = some name ↔ IsFirstAgain (seen.reverse ++ names) name := by
  have hnd' : seen.reverse.Nodup := List.nodup_reverse.mpr hnd
  induction names generalizing seen with
  | nil =>
      rw [List.append_nil]
      exact iff_of_false (by simp [firstRepeat]) (not_isFirstAgain hnd')
  | cons n names ih =>
      rw [firstRepeat]
      by_cases hseen : n ∈ seen
      · rw [if_pos (by simpa using hseen),
          isFirstAgain_iff_of_mem hnd' (List.mem_reverse.mpr hseen), Option.some.injEq, eq_comm]
      · have hcons : (n :: seen).Nodup := List.nodup_cons.mpr ⟨hseen, hnd⟩
        have hih := ih hcons (List.nodup_reverse.mpr hcons)
        rw [List.reverse_cons, List.append_assoc, List.singleton_append] at hih
        rw [if_neg (by simpa using hseen)]
        exact hih

end Casebook.Case

import Casebook.Proofs.CaseFile.Outline

/-!
# What reading a case file gives

The reader keeps a draft of the open case and judges a case when it is complete. A draft
that goes on with lines and then with parts is complete exactly when no two files have one
name and there is one block of output at most (`finish_eq_ok_iff`). By induction on the
lines, reading succeeds exactly on lines whose outline fits and is sound, and gives the
cases of the outline (`readLines_eq_ok_iff`).
-/

namespace Casebook.Case

/-! ## Sections -/

def Section.file? : Section → Option (Text × Text)
  | .file name contents => some (name, contents)
  | .out _ => none

def Section.out? : Section → Option (List Text)
  | .file _ _ => none
  | .out lines => some lines

theorem any_eq_false_iff {files : List (Text × Text)} {name : Text} :
    (files.any (·.1 == name)) = false ↔ name ∉ files.map Prod.fst := by
  simp only [List.any_eq_false, beq_iff_eq, List.mem_map, not_exists, not_and]

/-- A case takes sections if the names of all its files stay distinct and its output stays
the only one; it then has the files in order and that output. -/
theorem foldlM_addSection_eq_ok_iff {sections : List Section} {c c' : CaseSpec}
    (hc : (c.files.map Prod.fst).Nodup) (hout : c.expected.toList.length ≤ 1) :
    sections.foldlM addSection c = .ok c' ↔
      ((c.files ++ sections.filterMap Section.file?).map Prod.fst).Nodup ∧
      (c.expected.toList ++ sections.filterMap Section.out?).length ≤ 1 ∧
      c' = { c with
        files := c.files ++ sections.filterMap Section.file?
        expected := (c.expected.toList ++ sections.filterMap Section.out?).head? } := by
  induction sections generalizing c with
  | nil =>
      have hhead : c.expected.toList.head? = c.expected := by cases c.expected <;> rfl
      simp only [List.foldlM_nil, List.filterMap_nil, List.append_nil, hhead]
      constructor
      · intro h
        cases h
        exact ⟨hc, hout, rfl⟩
      · rintro ⟨-, -, rfl⟩
        rfl
  | cons s sections ih =>
      rw [List.foldlM_cons]
      cases s with
      | file name contents =>
          by_cases hname : c.files.any (·.1 == name) = true
          · have hdup : addSection c (.file name contents) = .error (.duplicateFile c.name name) :=
              if_pos hname
            rw [hdup]
            constructor
            · intro h
              cases h
            · rintro ⟨hnd, -⟩
              rw [List.map_append, List.nodup_append] at hnd
              have hmem : name ∈ c.files.map Prod.fst := by
                simpa [any_eq_false_iff] using hname
              exact absurd rfl (hnd.2.2 name hmem name (by simp [Section.file?]))
          · have hfalse := Bool.eq_false_iff.mpr hname
            have hadd : addSection c (.file name contents) =
                .ok { c with files := c.files ++ [(name, contents)] } := if_neg hname
            have hnd : ((c.files ++ [(name, contents)]).map Prod.fst).Nodup := by
              rw [List.map_append, List.nodup_append]
              refine ⟨hc, by simp, ?_⟩
              rintro a ha b hb rfl
              simp only [List.map_cons, List.map_nil, List.mem_singleton] at hb
              exact any_eq_false_iff.mp hfalse (hb ▸ ha)
            rw [hadd]
            refine Iff.trans (@ih { c with files := c.files ++ [(name, contents)] } hnd hout) ?_
            rw [List.filterMap_cons_some (f := Section.file?) rfl,
              List.filterMap_cons_none (f := Section.out?) rfl]
            simp only [List.append_assoc, List.singleton_append]
      | out lines =>
          cases he : c.expected with
          | some old =>
              have hsecond : addSection c (.out lines) = .error (.secondOut c.name) := by
                rw [addSection, he]
              rw [hsecond]
              constructor
              · intro h
                cases h
              · rintro ⟨-, hlen, -⟩
                simp [Section.out?] at hlen
          | none =>
              have hadd : addSection c (.out lines) = .ok { c with expected := some lines } := by
                rw [addSection, he]
              rw [hadd]
              refine Iff.trans (@ih { c with expected := some lines } hc (by simp)) ?_
              rw [List.filterMap_cons_none (f := Section.file?) rfl,
                List.filterMap_cons_some (f := Section.out?) rfl]
              simp only [Option.toList_some, Option.toList_none, List.singleton_append,
                List.nil_append]

/-! ## Drafts -/

namespace Draft

/-- The draft after more lines of the part opened last. -/
def addLines (d : Draft) (lines : List (List Char)) : Draft := lines.foldl addLine d

/-- The draft after a part with its lines. -/
def addBlock (d : Draft) (b : Block) : Draft := (d.addPart b.header).addLines b.body

def addBlocks (d : Draft) (blocks : List Block) : Draft := blocks.foldl addBlock d

theorem addLines_mk (name : Text) (h : Header) (taken : List (List Char))
    (parts : List (Header × List (List Char))) (lines : List (List Char)) :
    addLines ⟨name, (h, taken) :: parts⟩ lines = ⟨name, (h, lines.reverse ++ taken) :: parts⟩ := by
  induction lines generalizing taken with
  | nil => rfl
  | cons line lines ih =>
      show addLines ⟨name, (h, line :: taken) :: parts⟩ lines = _
      rw [ih, List.reverse_cons, List.append_assoc]
      rfl

theorem addBlocks_mk (name : Text) (parts : List (Header × List (List Char)))
    (blocks : List Block) :
    addBlocks ⟨name, parts⟩ blocks =
      ⟨name, (blocks.map fun b => (b.header, b.body.reverse)).reverse ++ parts⟩ := by
  induction blocks generalizing parts with
  | nil => rfl
  | cons b blocks ih =>
      show addBlocks (addLines ⟨name, (b.header, []) :: parts⟩ b.body) blocks = _
      rw [addLines_mk, ih]
      simp

end Draft

theorem textOf_reverse (lines : List (List Char)) : textOf lines.reverse = lines.flatten := by
  rw [textOf, List.reverse_reverse]

theorem file?_bind_sectionOf (b : Block) :
    (sectionOf b.header b.body.flatten).bind Section.file? = b.file? := by
  unfold sectionOf Block.file?
  cases b.header <;> rfl

theorem out?_bind_sectionOf (b : Block) :
    (sectionOf b.header b.body.flatten).bind Section.out? = b.out? := by
  unfold sectionOf Block.out?
  cases b.header <;> rfl

/-- The draft of a case is complete if and only if the case is sound, and gives the case. -/
theorem finish_eq_ok_iff (c : CaseBlock) (spec : CaseSpec) :
    (((Draft.opened c.name).addLines c.source).addBlocks c.sections).finish = .ok spec ↔
      c.IsSound ∧ spec = c.spec := by
  rw [Draft.opened, Draft.addLines_mk, Draft.addBlocks_mk]
  unfold Draft.finish
  rw [List.reverse_append, List.reverse_reverse, List.reverse_singleton, List.singleton_append]
  simp only [List.append_nil, List.filterMap_map, Function.comp_def, textOf_reverse]
  refine Iff.trans (foldlM_addSection_eq_ok_iff (by simp) (by simp)) ?_
  have hfiles : (c.sections.filterMap fun b => sectionOf b.header b.body.flatten).filterMap
      Section.file? = c.sections.filterMap Block.file? := by
    rw [List.filterMap_filterMap]
    exact congrArg (List.filterMap · _) (funext file?_bind_sectionOf)
  have houts : (c.sections.filterMap fun b => sectionOf b.header b.body.flatten).filterMap
      Section.out? = c.sections.filterMap Block.out? := by
    rw [List.filterMap_filterMap]
    exact congrArg (List.filterMap · _) (funext out?_bind_sectionOf)
  rw [hfiles, houts, List.nil_append, Option.toList_none, List.nil_append]
  constructor
  · rintro ⟨hf, ho, rfl⟩
    exact ⟨⟨hf, ho⟩, rfl⟩
  · rintro ⟨⟨hf, ho⟩, rfl⟩
    exact ⟨hf, ho, rfl⟩

/-! ## Lines -/

/-- The cases that the free lines and stray parts in front of an outline complete: with an
open case they belong to it, and without one there may be no parts. -/
def Outline.Completes (o : Outline) : Option Draft → List CaseSpec → Prop
  | none, done => o.stray = [] ∧ done = []
  | some d, done => ∃ c, ((d.addLines o.preamble).addBlocks o.stray).finish = .ok c ∧ done = [c]

theorem completes_nil_iff {opened : Option Draft} {done : List CaseSpec} {cs : List CaseBlock} :
    Outline.Completes ⟨[], [], cs⟩ opened done ↔ finishOpen opened = .ok done := by
  cases opened with
  | none =>
      constructor
      · rintro ⟨-, rfl⟩
        rfl
      · intro h
        cases h
        exact ⟨rfl, rfl⟩
  | some d =>
      show (∃ c, d.finish = .ok c ∧ done = [c]) ↔ (do return [← d.finish]) = .ok done
      cases d.finish with
      | error fault =>
          constructor
          · rintro ⟨c, h, -⟩
            cases h
          · intro h
            cases h
      | ok c =>
          constructor
          · rintro ⟨c', h, rfl⟩
            cases h
            rfl
          · intro h
            cases h
            exact ⟨c, rfl, rfl⟩

/-- Lines can be read as an outline: no line is malformed, what comes first completes the
open case, and every later case is sound. -/
structure Outline.Reads (o : Outline) (lines : List (List Char)) (opened : Option Draft)
    (specs : List CaseSpec) : Prop where
  headers : ∀ line ∈ lines, kindOf line ≠ .malformed
  sound : ∀ c ∈ o.cases, c.IsSound
  specs_eq : ∃ done, o.Completes opened done ∧ specs = done ++ o.cases.map CaseBlock.spec

theorem Outline.reads_plain {line : List Char} (hk : kindOf line = .plain) (o : Outline)
    (lines : List (List Char)) (opened : Option Draft) (specs : List CaseSpec) :
    (o.cons line).Reads (line :: lines) opened specs ↔
      o.Reads lines (opened.map (·.addLine line)) specs := by
  rw [Outline.cons_plain (header?_eq_none (kindOf_eq_plain_iff.mp hk))]
  -- the line goes to the draft, so both sides complete the same draft
  have hcompletes : ∀ done, Outline.Completes { o with preamble := line :: o.preamble } opened done ↔
      o.Completes (opened.map (·.addLine line)) done := by
    intro done
    cases opened <;> exact Iff.rfl
  constructor
  · rintro ⟨hh, hs, done, hd, rfl⟩
    exact ⟨(List.forall_mem_cons.mp hh).2, hs, done, (hcompletes done).mp hd, rfl⟩
  · rintro ⟨hh, hs, done, hd, rfl⟩
    exact ⟨List.forall_mem_cons.mpr ⟨by rw [hk]; simp, hh⟩, hs, done,
      (hcompletes done).mpr hd, rfl⟩

theorem Outline.reads_part {line : List Char} {h : Header} (hk : kindOf line = .header h)
    (hp : h.IsPart) (o : Outline) (lines : List (List Char)) (d : Draft) (specs : List CaseSpec) :
    (o.cons line).Reads (line :: lines) (some d) specs ↔
      o.Reads lines (some (d.addPart h)) specs := by
  rw [Outline.cons_part (kindOf_eq_header_iff.mp hk) hp]
  constructor
  · rintro ⟨hh, hs, hd⟩
    exact ⟨(List.forall_mem_cons.mp hh).2, hs, hd⟩
  · rintro ⟨hh, hs, hd⟩
    exact ⟨List.forall_mem_cons.mpr ⟨by rw [hk]; simp, hh⟩, hs, hd⟩

theorem Outline.reads_case {line : List Char} {name : Text}
    (hk : kindOf line = .header (.case name)) (o : Outline) (lines : List (List Char))
    (opened : Option Draft) (specs : List CaseSpec) :
    (o.cons line).Reads (line :: lines) opened specs ↔
      ∃ done rest, finishOpen opened = .ok done ∧
        o.Reads lines (some (.opened name)) rest ∧ specs = done ++ rest := by
  rw [Outline.cons_case (kindOf_eq_header_iff.mp hk)]
  have hfinish := finish_eq_ok_iff ⟨name, line, o.preamble, o.stray⟩
  constructor
  · rintro ⟨hh, hs, done, hd, rfl⟩
    obtain ⟨hsound, hs⟩ := List.forall_mem_cons.mp hs
    refine ⟨done, _, completes_nil_iff.mp hd, ⟨(List.forall_mem_cons.mp hh).2, hs, _,
      ⟨_, (hfinish _).mpr ⟨hsound, rfl⟩, rfl⟩, rfl⟩, ?_⟩
    rfl
  · rintro ⟨done, rest, hd, ⟨hh, hs, first, ⟨spec, hspec, rfl⟩, rfl⟩, rfl⟩
    obtain ⟨hsound, rfl⟩ := (hfinish spec).mp hspec
    exact ⟨List.forall_mem_cons.mpr ⟨by rw [hk]; simp, hh⟩, List.forall_mem_cons.mpr ⟨hsound, hs⟩,
      done, completes_nil_iff.mpr hd, rfl⟩

theorem readLines_case {line : List Char} {name : Text}
    (hk : kindOf line = .header (.case name)) (n : Nat) (opened : Option Draft)
    (lines : List (List Char)) (specs : List CaseSpec) :
    readLines n opened (line :: lines) = .ok specs ↔
      ∃ done rest, finishOpen opened = .ok done ∧
        readLines (n + 1) (some (.opened name)) lines = .ok rest ∧ specs = done ++ rest := by
  rw [readLines.eq_4 _ _ _ _ _ hk]
  cases finishOpen opened with
  | error fault =>
      constructor
      · intro h
        cases h
      · rintro ⟨done, rest, h, -⟩
        cases h
  | ok done =>
      cases readLines (n + 1) (some (.opened name)) lines with
      | error fault =>
          constructor
          · intro h
            cases h
          · rintro ⟨_, rest, -, h, -⟩
            cases h
      | ok rest =>
          constructor
          · intro h
            cases h
            exact ⟨done, rest, rfl, rfl, rfl⟩
          · rintro ⟨_, _, h, h', rfl⟩
            cases h
            cases h'
            rfl

/-- **Reading lines.** Lines are read exactly when their outline can be, and give its cases. -/
theorem readLines_eq_ok_iff (lines : List (List Char)) (n : Nat) (opened : Option Draft)
    (specs : List CaseSpec) :
    readLines n opened lines = .ok specs ↔ (outlineOf lines).Reads lines opened specs := by
  induction lines generalizing n opened specs with
  | nil =>
      show finishOpen opened = .ok specs ↔ Outline.Reads ⟨[], [], []⟩ [] opened specs
      rw [← @completes_nil_iff opened specs []]
      constructor
      · intro h
        exact ⟨by simp, by simp, specs, h, by simp⟩
      · rintro ⟨-, -, done, h, rfl⟩
        simpa using h
  | cons line lines ih =>
      show _ ↔ ((outlineOf lines).cons line).Reads (line :: lines) opened specs
      cases hk : kindOf line with
      | plain =>
          rw [Outline.reads_plain hk, ← ih (n + 1), readLines.eq_3 _ _ _ _ hk]
      | malformed =>
          rw [readLines.eq_2 _ _ _ _ hk]
          constructor
          · intro h
            cases h
          · rintro ⟨hh, -, -⟩
            exact absurd hk (hh line List.mem_cons_self)
      | header h =>
          by_cases hp : h.IsPart
          · cases opened with
            | some d =>
                rw [Outline.reads_part hk hp, ← ih (n + 1), readLines.eq_5 _ _ _ _ _ hp hk]
            | none =>
                -- a part without a case is stray in the outline and a fault for the reader
                rw [readLines.eq_6 _ _ _ _ hp hk]
                constructor
                · intro h
                  cases h
                · rintro ⟨-, -, done, ⟨hstray, -⟩, -⟩
                  rw [Outline.cons_part (kindOf_eq_header_iff.mp hk) hp] at hstray
                  cases hstray
          · obtain ⟨name, rfl⟩ : ∃ name, h = .case name := by
              simpa [Header.IsPart] using hp
            rw [readLines_case hk, Outline.reads_case hk]
            simp only [ih]

end Casebook.Case

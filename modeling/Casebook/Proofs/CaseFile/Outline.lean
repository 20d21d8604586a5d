import Casebook.Proofs.CaseFile.Header

/-!
# Outlines of case files

An outline says how lines are grouped: free lines, then parts that belong to no case, then
cases, each a header with its source and its sections. The lines of an outline are put
together again by `Outline.lines`, so an outline cannot lose or move a line. `outlineOf`
finds the outline of lines; it is the only one (`outlineOf_eq`). A reader that keeps a
draft of the open case is shown to read off exactly this (`readLines_eq_ok_iff`).
-/

namespace Casebook.Case

/-- A header of a file or of output, its line, and the lines below it. -/
structure Block where
  header : Header
  line : List Char
  body : List (List Char)

/-- A case: its name, the line of its header, the lines of its source, its sections. -/
structure CaseBlock where
  name : Text
  line : List Char
  source : List (List Char)
  sections : List Block

/-- Lines in groups. Stray parts are those before the first case. -/
structure Outline where
  preamble : List (List Char)
  stray : List Block
  cases : List CaseBlock

/-! ## The lines of an outline -/

def Block.lines (b : Block) : List (List Char) := b.line :: b.body

def CaseBlock.lines (c : CaseBlock) : List (List Char) :=
  c.line :: (c.source ++ c.sections.flatMap Block.lines)

def Outline.lines (o : Outline) : List (List Char) :=
  o.preamble ++ (o.stray.flatMap Block.lines ++ o.cases.flatMap CaseBlock.lines)

/-! ## Lines that are what the outline says -/

/-- No line begins like a header. -/
def ArePlain (lines : List (List Char)) : Prop := ∀ line ∈ lines, ¬ BeginsLikeHeader line

/-- The header of a part, not of a case. -/
def Header.IsPart (h : Header) : Prop := ∀ name, h ≠ .case name

structure Block.Fits (b : Block) : Prop where
  isPart : b.header.IsPart
  line : IsHeader b.header b.line
  body : ArePlain b.body

structure CaseBlock.Fits (c : CaseBlock) : Prop where
  line : IsHeader (.case c.name) c.line
  source : ArePlain c.source
  sections : ∀ b ∈ c.sections, b.Fits

structure Outline.Fits (o : Outline) : Prop where
  preamble : ArePlain o.preamble
  stray : ∀ b ∈ o.stray, b.Fits
  cases : ∀ c ∈ o.cases, c.Fits

/-! ## What an outline stands for -/

/-- The name and contents of a file. -/
def Block.file? (b : Block) : Option (Text × Text) :=
  match b.header with
  | .file name => some (name, .ofChars b.body.flatten)
  | _ => none

/-- The lines of expected output. -/
def Block.out? (b : Block) : Option (List Text) :=
  match b.header with
  | .out => some (expectedLines b.body.flatten)
  | _ => none

/-- The case that a group of lines stands for. -/
def CaseBlock.spec (c : CaseBlock) : CaseSpec :=
  ⟨c.name, .ofChars c.source.flatten, c.sections.filterMap Block.file?,
    (c.sections.filterMap Block.out?).head?⟩

/-- No two files of the case have one name, and there is one block of output at most. -/
structure CaseBlock.IsSound (c : CaseBlock) : Prop where
  files : ((c.sections.filterMap Block.file?).map Prod.fst).Nodup
  outs : (c.sections.filterMap Block.out?).length ≤ 1

/-- Every part belongs to a case, every case is sound, and no two cases have one name. -/
structure Outline.IsSound (o : Outline) : Prop where
  stray : o.stray = []
  cases : ∀ c ∈ o.cases, c.IsSound
  names : (o.cases.map CaseBlock.name).Nodup

def Outline.document (o : Outline) : CaseDocument :=
  ⟨CaseDocument.defaultVersion, o.cases.map CaseBlock.spec⟩

/-! ## The outline of lines -/

/-- The outline with one more line in front. -/
def Outline.cons (line : List Char) (o : Outline) : Outline :=
  match header? line with
  | none => { o with preamble := line :: o.preamble }
  | some (.case name) => ⟨[], [], ⟨name, line, o.preamble, o.stray⟩ :: o.cases⟩
  | some h => ⟨[], ⟨h, line, o.preamble⟩ :: o.stray, o.cases⟩

/-- The outline of lines, read from the end. -/
def outlineOf (lines : List (List Char)) : Outline := lines.foldr Outline.cons ⟨[], [], []⟩

theorem Outline.cons_plain {line : List Char} (h : header? line = none) (o : Outline) :
    o.cons line = { o with preamble := line :: o.preamble } := by
  rw [Outline.cons, h]

theorem Outline.cons_case {line : List Char} {name : Text} (h : IsHeader (.case name) line)
    (o : Outline) :
    o.cons line = ⟨[], [], ⟨name, line, o.preamble, o.stray⟩ :: o.cases⟩ := by
  rw [Outline.cons, header?_eq_some_iff.mpr h]

theorem Outline.cons_part {line : List Char} {h : Header} (hh : IsHeader h line)
    (hp : h.IsPart) (o : Outline) :
    o.cons line = ⟨[], ⟨h, line, o.preamble⟩ :: o.stray, o.cases⟩ := by
  rw [Outline.cons, header?_eq_some_iff.mpr hh]
  cases h with
  | case name => exact absurd rfl (hp name)
  | file name => rfl
  | out => rfl

theorem header?_eq_none {line : List Char} (h : ¬ BeginsLikeHeader line) :
    header? line = none := by
  by_contra hsome
  obtain ⟨hd, hhd⟩ := Option.ne_none_iff_exists'.mp hsome
  exact h (.of_isHeader (header?_eq_some_iff.mp hhd))

/-- What a line in front of an outline can be. -/
theorem header_cases (line : List Char) :
    header? line = none ∨ (∃ name, IsHeader (.case name) line) ∨
      ∃ h, h.IsPart ∧ IsHeader h line := by
  cases hh : header? line with
  | none => exact Or.inl rfl
  | some h =>
      have hline := header?_eq_some_iff.mp hh
      refine Or.inr ?_
      cases h with
      | case name => exact Or.inl ⟨name, hline⟩
      | file name => exact Or.inr ⟨.file name, fun _ => Header.noConfusion, hline⟩
      | out => exact Or.inr ⟨.out, fun _ => Header.noConfusion, hline⟩

theorem Outline.lines_cons (line : List Char) (o : Outline) :
    (o.cons line).lines = line :: o.lines := by
  rcases header_cases line with h | ⟨name, h⟩ | ⟨hd, hp, h⟩
  · rw [Outline.cons_plain h]
    rfl
  · rw [Outline.cons_case h]
    simp [Outline.lines, CaseBlock.lines]
  · rw [Outline.cons_part h hp]
    simp [Outline.lines, Block.lines]

/-- No line is lost or moved. -/
theorem lines_outlineOf (lines : List (List Char)) : (outlineOf lines).lines = lines := by
  induction lines with
  | nil => rfl
  | cons line lines ih =>
      show ((outlineOf lines).cons line).lines = line :: lines
      rw [Outline.lines_cons, ih]

/-- Lines of which those that begin like headers are headers have an outline that fits. -/
theorem fits_outlineOf {lines : List (List Char)}
    (h : ∀ line ∈ lines, BeginsLikeHeader line → ∃ hd, IsHeader hd line) :
    (outlineOf lines).Fits := by
  induction lines with
  | nil => exact ⟨by simp [outlineOf, ArePlain], by simp [outlineOf], by simp [outlineOf]⟩
  | cons line lines ih =>
      obtain ⟨hpre, hstray, hcases⟩ := ih fun l hl => h l (List.mem_cons_of_mem _ hl)
      show ((outlineOf lines).cons line).Fits
      rcases header_cases line with hn | ⟨name, hc⟩ | ⟨hd, hp, hc⟩
      · have hplain : ¬ BeginsLikeHeader line := fun hb => by
          obtain ⟨hd, hhd⟩ := h line List.mem_cons_self hb
          rw [header?_eq_some_iff.mpr hhd] at hn
          cases hn
        rw [Outline.cons_plain hn]
        exact ⟨List.forall_mem_cons.mpr ⟨hplain, hpre⟩, hstray, hcases⟩
      · rw [Outline.cons_case hc]
        exact ⟨by simp [ArePlain], by simp,
          List.forall_mem_cons.mpr ⟨⟨hc, hpre, hstray⟩, hcases⟩⟩
      · rw [Outline.cons_part hc hp]
        exact ⟨by simp [ArePlain], List.forall_mem_cons.mpr ⟨⟨hp, hc, hpre⟩, hstray⟩, hcases⟩

/-! ## The only outline -/

theorem foldr_cons_plain {lines : List (List Char)} (h : ArePlain lines) (o : Outline) :
    lines.foldr Outline.cons o = { o with preamble := lines ++ o.preamble } := by
  induction lines with
  | nil => rfl
  | cons line lines ih =>
      rw [List.foldr_cons, ih fun l hl => h l (List.mem_cons_of_mem _ hl),
        Outline.cons_plain (header?_eq_none (h line List.mem_cons_self))]
      rfl

theorem foldr_cons_blocks {blocks : List Block} (h : ∀ b ∈ blocks, b.Fits) {o : Outline}
    (ho : o.preamble = []) :
    (blocks.flatMap Block.lines).foldr Outline.cons o = { o with stray := blocks ++ o.stray } := by
  induction blocks with
  | nil => rfl
  | cons b blocks ih =>
      obtain ⟨hp, hline, hbody⟩ := h b List.mem_cons_self
      rw [List.flatMap_cons, List.foldr_append, ih fun b hb => h b (List.mem_cons_of_mem _ hb),
        Block.lines, List.foldr_cons, foldr_cons_plain hbody, Outline.cons_part hline hp]
      simp [ho]

theorem foldr_cons_cases {cs : List CaseBlock} (h : ∀ c ∈ cs, c.Fits) :
    (cs.flatMap CaseBlock.lines).foldr Outline.cons ⟨[], [], []⟩ = ⟨[], [], cs⟩ := by
  induction cs with
  | nil => rfl
  | cons c cs ih =>
      obtain ⟨hline, hsource, hsections⟩ := h c List.mem_cons_self
      rw [List.flatMap_cons, List.foldr_append, ih fun c hc => h c (List.mem_cons_of_mem _ hc),
        CaseBlock.lines, List.foldr_cons, List.foldr_append, foldr_cons_blocks hsections rfl,
        foldr_cons_plain hsource, Outline.cons_case hline]
      simp

/-- **Lines have one outline.** Any outline that fits its own lines is the one that is found. -/
theorem outlineOf_eq {o : Outline} (h : o.Fits) : outlineOf o.lines = o := by
  rw [outlineOf, Outline.lines, List.foldr_append, List.foldr_append,
    foldr_cons_cases h.cases, foldr_cons_blocks h.stray rfl, foldr_cons_plain h.preamble]
  simp

/-- In an outline that fits, what begins like a header is one. -/
theorem Outline.Fits.isHeader {o : Outline} (h : o.Fits) {line : List Char}
    (hline : line ∈ o.lines) (hb : BeginsLikeHeader line) : ∃ hd, IsHeader hd line := by
  have inBlocks : ∀ bs : List Block, (∀ b ∈ bs, b.Fits) → line ∈ bs.flatMap Block.lines →
      ∃ hd, IsHeader hd line := by
    intro bs hbs hmem
    obtain ⟨b, hbmem, hlb⟩ := List.mem_flatMap.mp hmem
    rcases List.mem_cons.mp hlb with rfl | hlb
    · exact ⟨b.header, (hbs b hbmem).line⟩
    · exact absurd hb ((hbs b hbmem).body line hlb)
  rcases List.mem_append.mp hline with hl | hl
  · exact absurd hb (h.preamble line hl)
  · rcases List.mem_append.mp hl with hl | hl
    · exact inBlocks _ h.stray hl
    · obtain ⟨c, hc, hlc⟩ := List.mem_flatMap.mp hl
      rcases List.mem_cons.mp hlc with rfl | hlc
      · exact ⟨_, (h.cases c hc).line⟩
      · rcases List.mem_append.mp hlc with hlc | hlc
        · exact absurd hb ((h.cases c hc).source line hlc)
        · exact inBlocks _ (h.cases c hc).sections hlc

end Casebook.Case

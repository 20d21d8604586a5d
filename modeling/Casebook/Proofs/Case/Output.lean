import Casebook.Proofs.Case.Order
import Casebook.Proofs.CaseFile.Exact
import Casebook.Proofs.Text.Lines

/-!
# Output that is put into a case file

The lines that a case reports are put behind it as its expected output. The text is read as before,
with that output as the last part of its last case (`parse_withOutput`). Only the expected lines are
split at breaks and trimmed, not those that are reported; so the case passes exactly if no line has
a break in it or a blank at its end. Main statement (`accepted_output_passes_iff`).
-/

namespace Casebook.Case

open Checker Stub.Provider

/-! ## Lines of output -/

/-- A line that is not blank, has no line feed in it and does not begin like a header. -/
structure IsOutput (line : List Char) : Prop where
  solid : ∃ c ∈ line, Text.isBlank c = false
  feedless : '\n' ∉ line
  plain : ¬ BeginsLikeHeader line

/-- A line feed at the end makes no line begin like a header. -/
theorem BeginsLikeHeader.of_feed {line : List Char} (h : BeginsLikeHeader (line ++ ['\n'])) :
    BeginsLikeHeader line := by
  obtain ⟨word, hword, c, rest, heq, hc⟩ := h
  rcases List.eq_nil_or_concat rest with rfl | ⟨rest, last, rfl⟩
  · have hlast : line ++ ['\n'] = ('[' :: word.toList) ++ [c] := heq
    obtain ⟨-, hfeed⟩ := List.append_inj' hlast rfl
    obtain rfl := List.head_eq_of_cons_eq hfeed
    rcases hc with hc | hc | hc
    · cases hc
    · cases hc
    · cases hc
  · have hlast : line ++ ['\n'] = ('[' :: (word.toList ++ c :: rest)) ++ [last] := by
      rw [heq, List.concat_eq_append]
      simp
    exact ⟨word, hword, c, rest, (List.append_inj' hlast rfl).1, hc⟩

/-- Expected lines are read back exactly if none of them has a break in it or a blank at its end. -/
theorem expectedLines_feedLines_iff {lines : List (List Char)}
    (hsolid : ∀ line ∈ lines, ∃ c ∈ line, Text.isBlank c = false) :
    expectedLines (Text.feedLines lines) = lines.map Text.ofChars ↔
      ∀ line ∈ lines, (∀ c ∈ line, Text.isLineBreak c = false) ∧ Text.EndsSolid line := by
  unfold expectedLines
  constructor
  · intro heq line hline
    have hmem : Text.ofChars line ∈ lines.map Text.ofChars := List.mem_map_of_mem hline
    rw [← heq] at hmem
    -- the line was split off, and trimmed after that
    obtain ⟨piece, hpiece, htrim⟩ := List.mem_map.mp (List.mem_filter.mp hmem).1
    rw [Text.trimEnd_ofChars] at htrim
    obtain rfl := Text.ofChars_injective htrim
    refine ⟨fun c hc => ?_, Text.endsSolid_rdropWhile piece⟩
    exact Text.not_isLineBreak_of_mem_splitLines hpiece c
      ((List.rdropWhile_prefix Text.isBlank piece).subset hc)
  · intro h
    rw [Text.splitLines_feeds fun line hline => (h line hline).1]
    have htrim : lines.map (fun line => (Text.ofChars line).trimEnd) = lines.map Text.ofChars := by
      refine List.map_congr_left fun line hline => ?_
      rw [Text.trimEnd_ofChars, Text.rdropWhile_of_endsSolid (h line hline).2]
    rw [htrim, List.filter_eq_self]
    intro t ht
    obtain ⟨line, hline, rfl⟩ := List.mem_map.mp ht
    obtain ⟨c, hc, -⟩ := hsolid line hline
    cases line with
    | nil => cases hc
    | cons first rest => rfl

/-! ## Reading them -/

/-- The text of a case file with lines behind it, as the output of its last case. -/
def withOutput (text : List Char) (lines : List (List Char)) : List Char :=
  withFinalFeed text ++ Text.feedLines ("[out]".toList :: lines)

/-- The header of output and the lines below it. -/
def outBlock (lines : List (List Char)) : Block :=
  ⟨.out, "[out]".toList ++ ['\n'], lines.map (· ++ ['\n'])⟩

theorem linesOf_flatten {lines : List (List Char)}
    (h : ∀ line ∈ lines, ∃ body, '\n' ∉ body ∧ line = body ++ ['\n']) :
    linesOf lines.flatten = lines := by
  rcases List.eq_nil_or_concat lines with rfl | ⟨front, last, rfl⟩
  · rfl
  · obtain ⟨body, -, rfl⟩ := h last (by simp)
    have hlast : (front.concat (body ++ ['\n'])).flatten.getLast? = some '\n' := by
      rw [List.concat_eq_append, List.flatten_concat, ← List.append_assoc, List.getLast?_concat]
    unfold linesOf
    rw [hlast, if_pos (by simp), Text.cutLines_flatten h]

theorem linesOf_withOutput (text : List Char) {lines : List (List Char)}
    (h : ∀ line ∈ lines, '\n' ∉ line) :
    linesOf (withOutput text lines) = linesOf text ++ (outBlock lines).lines := by
  have hlines := areLinesOf_linesOf text
  have hwhole : withOutput text lines = (linesOf text ++ (outBlock lines).lines).flatten := by
    rw [List.flatten_append, hlines.whole]
    unfold withOutput Text.feedLines outBlock Block.lines
    rw [List.flatMap_cons, List.flatten_cons, List.flatMap_def]
  rw [hwhole]
  refine linesOf_flatten ?_
  intro line hline
  rcases List.mem_append.mp hline with hline | hline
  · exact hlines.feeds line hline
  · rcases List.mem_cons.mp hline with rfl | hline
    · exact ⟨"[out]".toList, by decide, rfl⟩
    · obtain ⟨body, hbody, rfl⟩ := List.mem_map.mp hline
      exact ⟨body, h body hbody, rfl⟩

/-- An outline of the lines of a text is what the text is read as. -/
theorem parse_of_lines {text : List Char} {o : Outline} (hlines : o.lines = linesOf text)
    (hfits : o.Fits) (hsound : o.IsSound) : parse text = .ok o.document := by
  have ho : outlineOf (linesOf text) = o := hlines ▸ outlineOf_eq hfits
  rw [parse_eq_ok_iff_outlineOf, ho]
  exact ⟨⟨hfits, hsound⟩, rfl⟩

/-- The case with output as its last part. -/
def CaseBlock.withOut (c : CaseBlock) (lines : List (List Char)) : CaseBlock :=
  { c with sections := c.sections ++ [outBlock lines] }

theorem fits_withOut {c : CaseBlock} (h : c.Fits) {lines : List (List Char)}
    (hplain : ∀ line ∈ lines, ¬ BeginsLikeHeader line) : (c.withOut lines).Fits := by
  obtain ⟨hline, hsource, hsections⟩ := h
  refine ⟨hline, hsource, ?_⟩
  intro b hb
  rcases List.mem_append.mp hb with hb | hb
  · exact hsections b hb
  · obtain rfl := List.mem_singleton.mp hb
    refine ⟨fun _ => Header.noConfusion, ⟨[], rfl, by simp [IsGaps]⟩, ?_⟩
    intro line hline
    obtain ⟨body, hbody, rfl⟩ := List.mem_map.mp hline
    exact fun hbegins => hplain body hbody hbegins.of_feed

theorem filterMap_out?_eq_nil {c : CaseBlock} (h : c.spec.expected = none) :
    c.sections.filterMap Block.out? = [] := List.head?_eq_none_iff.mp h

theorem filterMap_file?_withOut (c : CaseBlock) (lines : List (List Char)) :
    (c.withOut lines).sections.filterMap Block.file? = c.sections.filterMap Block.file? := by
  unfold CaseBlock.withOut
  rw [List.filterMap_append]
  exact List.append_nil _

theorem filterMap_out?_withOut {c : CaseBlock} (h : c.spec.expected = none)
    (lines : List (List Char)) :
    (c.withOut lines).sections.filterMap Block.out? =
      [expectedLines (Text.feedLines lines)] := by
  unfold CaseBlock.withOut
  rw [List.filterMap_append, filterMap_out?_eq_nil h, Text.feedLines, List.flatMap_def]
  rfl

theorem isSound_withOut {c : CaseBlock} (h : c.IsSound) (hnone : c.spec.expected = none)
    (lines : List (List Char)) : (c.withOut lines).IsSound := by
  refine ⟨?_, ?_⟩
  · rw [filterMap_file?_withOut]
    exact h.files
  · rw [filterMap_out?_withOut hnone]
    exact Nat.le_refl 1

theorem spec_withOut {c : CaseBlock} (h : c.spec.expected = none) (lines : List (List Char)) :
    (c.withOut lines).spec =
      { c.spec with expected := some (expectedLines (Text.feedLines lines)) } := by
  unfold CaseBlock.spec
  rw [filterMap_file?_withOut, filterMap_out?_withOut h]
  rfl

/-- **Lines that are put behind a case become its output.** -/
theorem parse_withOutput {text : List Char} {d : CaseDocument} {before : List CaseSpec}
    {c : CaseSpec} {lines : List (List Char)} (hparse : parse text = .ok d)
    (hcases : d.cases = before ++ [c]) (hnone : c.expected = none)
    (hlines : ∀ line ∈ lines, IsOutput line) :
    parse (withOutput text lines) = .ok { d with
      cases := before ++ [{ c with expected := some (expectedLines (Text.feedLines lines)) }] } := by
  obtain ⟨⟨hfits, hstray, hsound, hnames⟩, rfl⟩ := (parse_eq_ok_iff_outlineOf text d).mp hparse
  have hwhole := lines_outlineOf (linesOf text)
  generalize outlineOf (linesOf text) = o at *
  obtain ⟨preamble, stray, cases⟩ := o
  obtain rfl : stray = [] := hstray
  -- the last group of lines is the case's
  obtain ⟨blocks, last, rfl, rfl, hlast⟩ := List.map_eq_append_iff.mp hcases
  obtain ⟨b, rfl, rfl⟩ := List.map_eq_singleton_iff.mp hlast
  have hread : parse (withOutput text lines) =
      .ok (Outline.document ⟨preamble, [], blocks ++ [b.withOut lines]⟩) := by
    refine parse_of_lines ?_ ⟨hfits.preamble, hfits.stray, ?_⟩ ⟨rfl, ?_, ?_⟩
    · rw [linesOf_withOutput text fun line hline => (hlines line hline).feedless, ← hwhole]
      simp [Outline.lines, CaseBlock.lines, CaseBlock.withOut]
    · refine List.forall_mem_append.mpr ⟨fun e he => hfits.cases e (List.mem_append_left _ he), ?_⟩
      exact List.forall_mem_singleton.mpr (fits_withOut (hfits.cases b (by simp))
        fun line hline => (hlines line hline).plain)
    · refine List.forall_mem_append.mpr ⟨fun e he => hsound e (List.mem_append_left _ he), ?_⟩
      exact List.forall_mem_singleton.mpr (isSound_withOut (hsound b (by simp)) hnone lines)
    · rw [List.map_append] at hnames ⊢
      exact hnames
  rw [hread]
  unfold Outline.document
  rw [List.map_append, List.map_singleton, spec_withOut hnone]

/-! ## Running the case -/

variable {compile : Compiler} {w : Disk.Workspace} {b : Bench}

/-- A case that expects lines passes exactly if it reports them. -/
theorem run_expecting (compile : Compiler) (w : Disk.Workspace) (b : Bench) {c : CaseSpec}
    {expected : List Text} {r : CompileResult}
    (hexpected : c.expected = some expected) (hfiles : ∀ file ∈ c.files, file.1 ≠ "")
    (hcompiles : ∀ own, ownProvider c b.provider = .ok own →
      (compile w own c.source).result = .ok r) :
    ∃ v, (run compile w c b).1 = .ok v ∧ (v.status = .passed ↔ r.lines = expected) ∧
      (v.status ≠ .passed → v.status = .failed) := by
  obtain ⟨own, hown⟩ := ownProvider_ok c hfiles b.provider
  rw [(run_outcome compile w c b).1]
  unfold outcome
  rw [hown]
  dsimp only
  rw [hcompiles own hown]
  unfold judged
  rw [hexpected]
  refine ⟨_, rfl, ?_⟩
  unfold Verdict.ofResult
  by_cases heq : r.lines = expected
  · rw [if_pos heq]
    exact ⟨iff_of_true rfl heq, fun hno => absurd rfl hno⟩
  · rw [if_neg heq]
    exact ⟨iff_of_false nofun heq, fun _ => rfl⟩

/-- A case that expects what was put into its text passes exactly if that was read back. -/
theorem run_withOutput (compile : Compiler) (w : Disk.Workspace) (b : Bench) {c : CaseSpec}
    {lines : List (List Char)}
    (hfiles : ∀ file ∈ c.files, file.1 ≠ "") (hlines : ∀ line ∈ lines, IsOutput line)
    {r : CompileResult} (hr : r.lines = lines.map Text.ofChars)
    (hcompiles : ∀ own, ownProvider c b.provider = .ok own →
      (compile w own c.source).result = .ok r) :
    ∃ v, (run compile w
        { c with expected := some (expectedLines (Text.feedLines lines)) } b).1 = .ok v ∧
      (v.status = .passed ↔
        ∀ line ∈ lines, (∀ ch ∈ line, Text.isLineBreak ch = false) ∧ Text.EndsSolid line) ∧
      (v.status ≠ .passed → v.status = .failed) := by
  obtain ⟨v, hv, hpassed, hfailed⟩ := run_expecting compile w b
    (c := { c with expected := some (expectedLines (Text.feedLines lines)) }) rfl hfiles hcompiles
  refine ⟨v, hv, ?_, hfailed⟩
  rw [hpassed, hr, ← expectedLines_feedLines_iff fun line hline => (hlines line hline).solid]
  exact eq_comm

/-- **Reported output passes, unless a line has a break in it or a blank at its end.** The lines
that the last case of a text reports are put behind the text as its output. The text with them is
read, with the same cases but for the expected lines of the last; and that case is run, and passes
exactly if no line has a character in it that ends a line, or ends in a blank. -/
theorem accepted_output_passes_iff {text : List Char} {d : CaseDocument} {before : List CaseSpec}
    {c : CaseSpec} {lines : List (List Char)} (hparse : parse text = .ok d)
    (hcases : d.cases = before ++ [c]) (hnone : c.expected = none)
    (hfiles : ∀ file ∈ c.files, file.1 ≠ "") (hlines : ∀ line ∈ lines, IsOutput line)
    {r : CompileResult} (hr : r.lines = lines.map Text.ofChars)
    (hcompiles : ∀ own, ownProvider c b.provider = .ok own →
      (compile w own c.source).result = .ok r) :
    ∃ expected v,
      parse (withOutput text lines) =
        .ok { d with cases := before ++ [{ c with expected := some expected }] } ∧
      (run compile w { c with expected := some expected } b).1 = .ok v ∧
      (v.status = .passed ↔
        ∀ line ∈ lines, (∀ ch ∈ line, Text.isLineBreak ch = false) ∧ Text.EndsSolid line) ∧
      (v.status ≠ .passed → v.status = .failed) := by
  obtain ⟨v, hv⟩ := run_withOutput compile w b hfiles hlines hr hcompiles
  exact ⟨_, v, parse_withOutput hparse hcases hnone hlines, hv⟩

/-- A line that begins with a character that is neither blank nor a bracket. -/
theorem isOutput_cons {c : Char} {line : List Char} (hc : c ≠ '[')
    (hblank : Text.isBlank c = false) (hfeed : '\n' ∉ c :: line) : IsOutput (c :: line) := by
  refine ⟨⟨c, List.mem_cons_self, hblank⟩, hfeed, ?_⟩
  rintro ⟨word, -, d, rest, heq, -⟩
  exact hc (List.head_eq_of_cons_eq heq)

/-- A case that reports a line and expects nothing. -/
def reportingLine (line : List Char) : CaseSpec :=
  ⟨"a", .ofChars ("#emit ".toList ++ line ++ ['\n']), [], none⟩

/-- The text of that case. -/
def reportingText (line : List Char) : List Char :=
  Text.feedLines ["[case a]".toList, "#emit ".toList ++ line]

theorem isHeader_case_a : IsHeader (.case "a") "[case a]\n".toList :=
  header?_eq_some_iff.mp (by decide)

theorem parse_reportingText {line : List Char} (h : '\n' ∉ line) :
    parse (reportingText line) = .ok ⟨CaseDocument.defaultVersion, [] ++ [reportingLine line]⟩ := by
  have hsource : ¬ BeginsLikeHeader ("#emit ".toList ++ line ++ ['\n']) := by
    rintro ⟨word, -, c, rest, heq, -⟩
    exact absurd (List.head_eq_of_cons_eq heq) (by decide)
  have hfeeds : ∀ l ∈ ["[case a]\n".toList, "#emit ".toList ++ line ++ ['\n']],
      ∃ body, '\n' ∉ body ∧ l = body ++ ['\n'] :=
    List.forall_mem_cons.mpr ⟨⟨"[case a]".toList, by decide, rfl⟩,
      List.forall_mem_singleton.mpr ⟨"#emit ".toList ++ line, by simp [h], rfl⟩⟩
  have hread : parse (reportingText line) = .ok (Outline.document ⟨[], [],
      [⟨"a", "[case a]\n".toList, ["#emit ".toList ++ line ++ ['\n']], []⟩]⟩) := by
    refine parse_of_lines (linesOf_flatten hfeeds).symm
      ⟨by simp [ArePlain], by simp, ?_⟩ ⟨rfl, ?_, by simp⟩
    · exact List.forall_mem_singleton.mpr
        ⟨isHeader_case_a, List.forall_mem_singleton.mpr hsource, by simp⟩
    · exact List.forall_mem_singleton.mpr ⟨by simp, by simp⟩
  rw [hread]
  simp [Outline.document, CaseBlock.spec, reportingLine]

/-- The lines that the case reports. -/
def reportedLines (line : List Char) : Outcome (List Text) :=
  ((scripted ⟨.folder [], []⟩ oneFile (reportingLine line).source).result).map CompileResult.lines

theorem result_of_reportedLines {line : List Char}
    (h : reportedLines line = .ok ([line].map Text.ofChars)) :
    ∃ r : CompileResult, r.lines = [line].map Text.ofChars ∧
      ∀ own, ownProvider (reportingLine line) (Bench.mk oneFile none).provider = .ok own →
        (scripted ⟨.folder [], []⟩ own (reportingLine line).source).result = .ok r := by
  unfold reportedLines at h
  cases hresult : (scripted ⟨.folder [], []⟩ oneFile (reportingLine line).source).result with
  | error fault =>
      rw [hresult] at h
      cases h
  | ok r =>
      rw [hresult] at h
      refine ⟨r, Except.ok.inj h, ?_⟩
      rintro own ⟨⟩
      exact hresult

theorem accepted_output_passes_iff_plain :
    ∃ expected v,
      parse (withOutput (reportingText "main:1: error: X".toList) ["main:1: error: X".toList]) =
        .ok ⟨CaseDocument.defaultVersion,
          [{ reportingLine "main:1: error: X".toList with expected := some expected }]⟩ ∧
      (run scripted ⟨.folder [], []⟩
        { reportingLine "main:1: error: X".toList with expected := some expected }
        ⟨oneFile, none⟩).1 = .ok v ∧ v.status = .passed := by
  have hfeed : '\n' ∉ "main:1: error: X".toList := by decide
  have hlines : ∀ line ∈ ["main:1: error: X".toList], IsOutput line :=
    List.forall_mem_singleton.mpr (isOutput_cons (by decide) (by decide) (by decide))
  have hreported : reportedLines "main:1: error: X".toList =
      .ok (["main:1: error: X".toList].map Text.ofChars) := by cbv
  obtain ⟨r, hr, hcompiles⟩ := result_of_reportedLines hreported
  obtain ⟨expected, v, hread, hv, hpassed, -⟩ := accepted_output_passes_iff
    (parse_reportingText hfeed) rfl rfl (by decide) hlines hr hcompiles
  have hends : Text.EndsSolid ("main:1: error: ".toList ++ ['X']) :=
    Text.endsSolid_concat (by decide) "main:1: error: ".toList
  have hnone : ("main:1: error: X".toList.any Text.isLineBreak) = false := by decide
  have hbreaks : ∀ ch ∈ "main:1: error: X".toList, Text.isLineBreak ch = false := by
    intro ch hch
    exact Bool.eq_false_iff.mpr (List.any_eq_false.mp hnone ch hch)
  exact ⟨expected, v, hread, hv, hpassed.mpr (List.forall_mem_singleton.mpr ⟨hbreaks, hends⟩)⟩

/-- The line is reported and put behind the text as its output, and the case fails. -/
def FailsAsOutput (line : List Char) : Prop :=
  IsOutput line ∧
  parse (reportingText line) = .ok ⟨CaseDocument.defaultVersion, [reportingLine line]⟩ ∧
  reportedLines line = .ok ([line].map Text.ofChars) ∧
  ∃ expected v,
    parse (withOutput (reportingText line) [line]) = .ok ⟨CaseDocument.defaultVersion,
      [{ reportingLine line with expected := some expected }]⟩ ∧
    (run scripted ⟨.folder [], []⟩ { reportingLine line with expected := some expected }
      ⟨oneFile, none⟩).1 = .ok v ∧
    v.status = .failed

theorem failsAsOutput {line : List Char} (houtput : IsOutput line)
    (hreported : reportedLines line = .ok ([line].map Text.ofChars))
    (hnot : ¬ ((∀ ch ∈ line, Text.isLineBreak ch = false) ∧ Text.EndsSolid line)) :
    FailsAsOutput line := by
  have hparse := parse_reportingText houtput.feedless
  have hlines : ∀ l ∈ [line], IsOutput l := List.forall_mem_singleton.mpr houtput
  have hfiles : ∀ file ∈ (reportingLine line).files, file.1 ≠ "" := by
    rintro file ⟨⟩
  obtain ⟨r, hr, hcompiles⟩ := result_of_reportedLines hreported
  obtain ⟨v, hv, hpassed, hfailed⟩ :=
    run_withOutput scripted ⟨.folder [], []⟩ ⟨oneFile, none⟩ hfiles hlines hr hcompiles
  refine ⟨houtput, hparse, hreported,
    ⟨_, v, parse_withOutput hparse rfl rfl hlines, hv, hfailed ?_⟩⟩
  rw [ne_eq, hpassed, List.forall_mem_singleton]
  exact hnot

/-- **Not all reported output passes.** A line with a blank at its end is reported as it is and
expected without the blank; one with a line separator in it is expected as two lines. -/
theorem accepted_output_fails :
    FailsAsOutput "main:1: error: X ".toList ∧
      FailsAsOutput "main:1: error: X\u2028y".toList := by
  have hblank : reportedLines "main:1: error: X ".toList =
      .ok (["main:1: error: X ".toList].map Text.ofChars) := by cbv
  have hseparator : reportedLines "main:1: error: X\u2028y".toList =
      .ok (["main:1: error: X\u2028y".toList].map Text.ofChars) := by cbv
  refine ⟨failsAsOutput (isOutput_cons (by decide) (by decide) (by decide)) hblank ?_,
    failsAsOutput (isOutput_cons (by decide) (by decide) (by decide)) hseparator ?_⟩
  · rintro ⟨-, hends⟩
    exact absurd (hends ' ' rfl) (by decide)
  · rintro ⟨hwhole, -⟩
    exact absurd (hwhole '\u2028' (by decide)) (by decide)

end Casebook.Case

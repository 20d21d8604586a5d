import Casebook.Proofs.CaseFile.Admissible

/-!
# Case files, exactly

Main statement (`parse_exact`): a text is read if and only if its lines are admissible, and
then the document is that of the outline of the lines. The sources and contents in it are
the lines between two headers, put together as they stand.
-/

namespace Casebook.Case

/-! ## Lines of a text -/

/-- The text, with a line feed at its end unless it is empty. -/
def withFinalFeed (text : List Char) : List Char :=
  if text ≠ [] ∧ text.getLast? ≠ some '\n' then text ++ ['\n'] else text

/-- The lines make up the text, and each has one line feed, at its end. -/
structure AreLinesOf (lines : List (List Char)) (text : List Char) : Prop where
  whole : lines.flatten = withFinalFeed text
  feeds : ∀ line ∈ lines, ∃ body, '\n' ∉ body ∧ line = body ++ ['\n']

theorem feeds_cutLines {cs : List Char} (h : cs = [] ∨ cs.getLast? = some '\n') :
    ∀ line ∈ Text.cutLines cs, ∃ body, '\n' ∉ body ∧ line = body ++ ['\n'] := by
  induction cs with
  | nil => simp [Text.cutLines]
  | cons c cs ih =>
      have hcs : cs = [] ∧ c = '\n' ∨ cs.getLast? = some '\n' := by
        cases cs with
        | nil => exact Or.inl ⟨rfl, by simpa using h⟩
        | cons d cs => exact Or.inr (by simpa using h)
      have hih := ih (hcs.imp And.left id)
      by_cases hc : c = '\n'
      · rw [Text.cutLines, if_pos hc]
        exact List.forall_mem_cons.mpr ⟨⟨[], by simp, rfl⟩, hih⟩
      · rw [Text.cutLines, if_neg hc]
        split
        · next hnil =>
          -- a character other than a line feed is not the last one
          have hempty : cs = [] := by rw [← Text.flatten_cutLines cs, hnil]; rfl
          rcases hcs with ⟨-, hfeed⟩ | hlast
          · exact absurd hfeed hc
          · rw [hempty] at hlast
            cases hlast
        · next line lines heq =>
          rw [heq] at hih
          obtain ⟨⟨body, hbody, rfl⟩, hrest⟩ := List.forall_mem_cons.mp hih
          refine List.forall_mem_cons.mpr ⟨⟨c :: body, ?_, rfl⟩, hrest⟩
          simpa [hbody] using fun heq => hc heq.symm

theorem areLinesOf_linesOf (text : List Char) : AreLinesOf (linesOf text) text := by
  have hfeed : linesOf text = Text.cutLines (withFinalFeed text) := by
    unfold linesOf withFinalFeed
    by_cases hne : text = []
    · subst hne; rfl
    · by_cases hlast : text.getLast? = some '\n' <;> simp [hne, hlast]
  rw [hfeed]
  refine ⟨Text.flatten_cutLines _, feeds_cutLines ?_⟩
  unfold withFinalFeed
  split
  · exact Or.inr (by simp)
  · next h =>
    by_cases hne : text = []
    · exact Or.inl hne
    · exact Or.inr (by simpa [hne] using h)

/-! ## Names of cases -/

theorem firstRepeat_eq_none_iff {seen names : List Text} :
    firstRepeat seen names = none ↔ names.Nodup ∧ ∀ name ∈ names, name ∉ seen := by
  induction names generalizing seen with
  | nil => simp [firstRepeat]
  | cons name names ih =>
      rw [firstRepeat, List.nodup_cons, List.forall_mem_cons]
      by_cases hseen : name ∈ seen
      · simp [hseen]
      · rw [if_neg (by simpa using hseen), ih]
        constructor
        · rintro ⟨hnd, hfresh⟩
          refine ⟨⟨fun hm => hfresh name hm List.mem_cons_self, hnd⟩, hseen, ?_⟩
          exact fun n hn hns => hfresh n hn (List.mem_cons_of_mem _ hns)
        · rintro ⟨⟨hnot, hnd⟩, -, hfresh⟩
          refine ⟨hnd, fun n hn hns => ?_⟩
          rcases List.mem_cons.mp hns with rfl | hns
          · exact hnot hn
          · exact hfresh n hn hns

/-! ## Texts -/

theorem kindOf_ne_malformed_iff {line : List Char} :
    kindOf line ≠ .malformed ↔ (BeginsLikeHeader line → ∃ h, IsHeader h line) := by
  constructor
  · intro hk hb
    cases hkind : kindOf line with
    | plain => exact absurd hb (kindOf_eq_plain_iff.mp hkind)
    | header h => exact ⟨h, kindOf_eq_header_iff.mp hkind⟩
    | malformed => exact absurd hkind hk
  · intro hb hk
    by_cases hbegins : BeginsLikeHeader line
    · obtain ⟨h, hh⟩ := hb hbegins
      rw [kindOf_eq_header_iff.mpr hh] at hk
      cases hk
    · rw [kindOf_eq_plain_iff.mpr hbegins] at hk
      cases hk

theorem names_spec (cs : List CaseBlock) :
    (cs.map CaseBlock.spec).map CaseSpec.name = cs.map CaseBlock.name := by
  rw [List.map_map]
  rfl

/-- A text is read exactly if the outline of its lines fits and is sound. -/
theorem parse_eq_ok_iff_outlineOf (text : List Char) (d : CaseDocument) :
    parse text = .ok d ↔
      ((outlineOf (linesOf text)).Fits ∧ (outlineOf (linesOf text)).IsSound) ∧
        d = (outlineOf (linesOf text)).document := by
  have hread := readLines_eq_ok_iff (linesOf text) 1 none
  generalize hlines : linesOf text = lines at hread ⊢
  unfold parse
  rw [hlines]
  constructor
  · intro h
    cases hcs : readLines 1 none lines with
    | error fault =>
        rw [hcs] at h
        cases h
    | ok cs =>
        obtain ⟨hheaders, hsound, done, ⟨hstray, rfl⟩, rfl⟩ := (hread cs).mp hcs
        rw [hcs] at h
        simp only [bind, Except.bind, List.nil_append, names_spec] at h
        split at h
        · cases h
        · next hrepeat =>
          cases h
          exact ⟨⟨fits_outlineOf fun l hl => kindOf_ne_malformed_iff.mp (hheaders l hl),
            hstray, hsound, (firstRepeat_eq_none_iff.mp hrepeat).1⟩, rfl⟩
  · rintro ⟨⟨hfits, hstray, hsound, hnames⟩, rfl⟩
    have hheaders : ∀ l ∈ lines, kindOf l ≠ .malformed := fun l hl =>
      kindOf_ne_malformed_iff.mpr (hfits.isHeader ((lines_outlineOf lines).symm ▸ hl))
    have hcs := (hread _).mpr ⟨hheaders, hsound, [], ⟨hstray, rfl⟩, rfl⟩
    have hrepeat : firstRepeat [] ((outlineOf lines).cases.map CaseBlock.name) = none :=
      firstRepeat_eq_none_iff.mpr ⟨hnames, by simp⟩
    rw [hcs]
    simp only [bind, Except.bind, List.nil_append, names_spec, hrepeat]
    rfl

/-- **Case files.** The lines of a text are told apart by line feeds alone. A text is read
exactly if what begins like a header is one, every part stands behind a case header, no part
is repeated within a case, and no case name is repeated. The document read is that of the
outline into which the lines fall. -/
theorem parse_exact (text : List Char) :
    AreLinesOf (linesOf text) text ∧
      ((∃ d, parse text = .ok d) ↔ Admissible (linesOf text)) ∧
      ∀ d, parse text = .ok d ↔
        ∃ o : Outline, o.lines = linesOf text ∧ o.Fits ∧ o.IsSound ∧ d = o.document := by
  refine ⟨areLinesOf_linesOf text, ?_, fun d => ?_⟩
  · rw [admissible_iff]
    constructor
    · rintro ⟨d, hd⟩
      exact ((parse_eq_ok_iff_outlineOf text d).mp hd).1
    · intro h
      exact ⟨_, (parse_eq_ok_iff_outlineOf text _).mpr ⟨h, rfl⟩⟩
  · rw [parse_eq_ok_iff_outlineOf]
    constructor
    · rintro ⟨⟨hfits, hsound⟩, rfl⟩
      exact ⟨_, lines_outlineOf _, hfits, hsound, rfl⟩
    · rintro ⟨o, hlines, hfits, hsound, rfl⟩
      have ho : outlineOf (linesOf text) = o := hlines ▸ outlineOf_eq hfits
      rw [ho]
      exact ⟨⟨hfits, hsound⟩, rfl⟩

-- Of two gaps the second is a name, which is empty without blanks.
example : parse "[case  ]\n[cased]\n".toList =
    .ok ⟨"0.1", [⟨"", "[cased]\n", [], none⟩]⟩ := by decide

end Casebook.Case

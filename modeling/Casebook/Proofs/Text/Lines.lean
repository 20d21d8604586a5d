import Casebook.Text.Blank
import Casebook.Text.Lines
import Mathlib

/-!
# Lines, cut and split

A text of lines that each end in a line feed is cut into these lines again (`cutLines_flatten`).
Splitting is at more characters than line feeds: the lines come back exactly if none of them has any
other break (`splitLines_feeds` and `not_isLineBreak_of_mem_splitLines`).
-/

namespace Casebook.Text

/-- The lines, one after the other, with a line feed behind each. -/
def feedLines (lines : List (List Char)) : List Char := lines.flatMap (· ++ ['\n'])

/-! ## Cutting -/

theorem cutLines_feed {body : List Char} (h : '\n' ∉ body) (rest : List Char) :
    cutLines (body ++ '\n' :: rest) = (body ++ ['\n']) :: cutLines rest := by
  induction body with
  | nil =>
      rw [List.nil_append, cutLines, if_pos rfl]
      rfl
  | cons c body ih =>
      obtain ⟨hc, hbody⟩ := not_or.mp fun hmem => h (List.mem_cons.mpr hmem)
      rw [List.cons_append, cutLines, if_neg (Ne.symm hc), ih hbody]
      rfl

theorem cutLines_flatten {lines : List (List Char)}
    (h : ∀ line ∈ lines, ∃ body, '\n' ∉ body ∧ line = body ++ ['\n']) :
    cutLines lines.flatten = lines := by
  induction lines with
  | nil => rfl
  | cons line lines ih =>
      obtain ⟨⟨body, hbody, rfl⟩, hlines⟩ := List.forall_mem_cons.mp h
      rw [List.flatten_cons, List.append_assoc, List.singleton_append, cutLines_feed hbody,
        ih hlines]

/-! ## Splitting -/

theorem splitLines_break {c : Char} (h : isLineBreak c = true) (hc : c ≠ '\r') (cs : List Char) :
    splitLines (c :: cs) = [] :: splitLines cs := by
  rw [splitLines.eq_3 c cs (fun rest heq _ => hc heq), if_pos h]

theorem ne_return_of_not_isLineBreak {c : Char} (h : isLineBreak c = false) : c ≠ '\r' := by
  rintro rfl
  cases h

/-- Other characters go to the first of the lines behind them, or make a line of their own. -/
theorem splitLines_char_nil {c : Char} (h : isLineBreak c = false) {cs : List Char}
    (hcs : splitLines cs = []) : splitLines (c :: cs) = [[c]] := by
  rw [splitLines.eq_3 c cs (fun rest heq _ => ne_return_of_not_isLineBreak h heq), h,
    if_neg Bool.false_ne_true, hcs]

theorem splitLines_char_cons {c : Char} (h : isLineBreak c = false) {cs line : List Char}
    {lines : List (List Char)} (hcs : splitLines cs = line :: lines) :
    splitLines (c :: cs) = (c :: line) :: lines := by
  rw [splitLines.eq_3 c cs (fun rest heq _ => ne_return_of_not_isLineBreak h heq), h,
    if_neg Bool.false_ne_true, hcs]

/-- No line that was split off has a break in it. -/
theorem not_isLineBreak_of_mem_splitLines {cs line : List Char} (h : line ∈ splitLines cs) :
    ∀ c ∈ line, isLineBreak c = false := by
  induction cs using splitLines.induct generalizing line with
  | case1 => cases h
  | case2 cs ih =>
      rw [splitLines] at h
      rcases List.mem_cons.mp h with rfl | h
      · simp
      · exact ih h
  | case3 c cs hne hbreak ih =>
      rw [splitLines.eq_3 c cs hne, if_pos hbreak] at h
      rcases List.mem_cons.mp h with rfl | h
      · simp
      · exact ih h
  | case4 c cs hne hbreak hnil ih =>
      have hbreak := Bool.eq_false_iff.mpr hbreak
      rw [splitLines_char_nil hbreak hnil] at h
      obtain rfl := List.mem_singleton.mp h
      simpa using hbreak
  | case5 c cs hne hbreak l ls hcons ih =>
      have hbreak := Bool.eq_false_iff.mpr hbreak
      rw [splitLines_char_cons hbreak hcons] at h
      rw [hcons] at ih
      rcases List.mem_cons.mp h with rfl | h
      · exact List.forall_mem_cons.mpr ⟨hbreak, ih List.mem_cons_self⟩
      · exact ih (List.mem_cons_of_mem l h)

theorem splitLines_feed {line : List Char} (h : ∀ c ∈ line, isLineBreak c = false)
    (rest : List Char) : splitLines (line ++ '\n' :: rest) = line :: splitLines rest := by
  induction line with
  | nil => exact splitLines_break rfl (by decide) rest
  | cons c line ih =>
      obtain ⟨hc, hline⟩ := List.forall_mem_cons.mp h
      exact splitLines_char_cons hc (ih hline)

theorem splitLines_feeds {lines : List (List Char)}
    (h : ∀ line ∈ lines, ∀ c ∈ line, isLineBreak c = false) :
    splitLines (feedLines lines) = lines := by
  induction lines with
  | nil => rfl
  | cons line lines ih =>
      obtain ⟨hline, hlines⟩ := List.forall_mem_cons.mp h
      unfold feedLines at ih ⊢
      rw [List.flatMap_cons, List.append_assoc, List.singleton_append, splitLines_feed hline,
        ih hlines]

/-! ## Blanks at the end -/

/-- The last character, if there is one, is no blank. -/
def EndsSolid (cs : List Char) : Prop := ∀ c ∈ cs.getLast?, isBlank c = false

instance : DecidablePred EndsSolid := fun cs =>
  inferInstanceAs (Decidable (∀ c ∈ cs.getLast?, isBlank c = false))

theorem endsSolid_concat {c : Char} (h : isBlank c = false) (cs : List Char) :
    EndsSolid (cs ++ [c]) := by
  intro d hd
  rw [List.getLast?_concat] at hd
  rw [← Option.some.inj hd]
  exact h

theorem ofChars_injective : Function.Injective ofChars := fun _ _ h =>
  List.map_injective_iff.mpr (fun _ _ => Point.char.inj) (congrArg Text.points h)

/-- Trimming characters is dropping their blanks from the end. -/
theorem trimEnd_ofChars (cs : List Char) :
    (ofChars cs).trimEnd = ofChars (cs.rdropWhile isBlank) := by
  unfold trimEnd ofChars List.rdropWhile
  rw [← List.map_reverse, List.dropWhile_map, ← List.map_reverse]
  rfl

theorem endsSolid_rdropWhile (cs : List Char) : EndsSolid (cs.rdropWhile isBlank) := by
  intro c hc
  have hne : cs.rdropWhile isBlank ≠ [] := by
    intro hnil
    rw [hnil] at hc
    cases hc
  have hlast := List.rdropWhile_last_not isBlank cs hne
  rw [Option.mem_def, List.getLast?_eq_some_getLast hne] at hc
  rw [Option.some.inj hc] at hlast
  exact Bool.eq_false_iff.mpr hlast

theorem rdropWhile_of_endsSolid {cs : List Char} (h : EndsSolid cs) :
    cs.rdropWhile isBlank = cs := by
  rw [List.rdropWhile_eq_self_iff]
  intro hne
  rw [h _ (List.getLast?_eq_some_getLast hne)]
  exact Bool.false_ne_true

end Casebook.Text

import Casebook.Case.Parser
import Mathlib

/-!
# Header lines

What a line must look like to be a header, written as the shape of the line and not as a
reader of it. `kindOf` decides exactly these shapes (`kindOf_eq_plain_iff`,
`kindOf_eq_header_iff`), so nothing else about lines is needed to say what a case file is.
-/

namespace Casebook.Case

/-! ## Shapes -/

/-- Blanks and tabs only. -/
def IsGaps (cs : List Char) : Prop := ∀ c ∈ cs, isGap c = true

/-- The line begins like a header: a bracket, a header word, and then a blank, a tab or
the closing bracket. -/
def BeginsLikeHeader (line : List Char) : Prop :=
  ∃ word ∈ ["case", "file", "out"], ∃ c rest,
    line = '[' :: (word.toList ++ c :: rest) ∧ (c = ' ' ∨ c = '\t' ∨ c = ']')

/-- A header that gives a name: its word, a gap, at least one character up to the closing
bracket, and nothing but gaps after it. The name is what remains without blanks around it. -/
def IsNamedHeader (word : String) (name : Text) (line : List Char) : Prop :=
  ∃ gaps argument rest,
    line = '[' :: (word.toList ++ (gaps ++ (argument ++ ']' :: (rest ++ ['\n'])))) ∧
    gaps ≠ [] ∧ IsGaps gaps ∧
    argument ≠ [] ∧ (∀ c ∈ argument, c ≠ ']' ∧ c ≠ '\n') ∧
    IsGaps rest ∧ name = (Text.ofChars argument).trim

/-- The whole line is this header. -/
def IsHeader : Header → List Char → Prop
  | .case name, line => IsNamedHeader "case" name line
  | .file name, line => IsNamedHeader "file" name line
  | .out, line => ∃ rest, line = "[out]".toList ++ (rest ++ ['\n']) ∧ IsGaps rest

/-! ## Words and gaps -/

theorem isGap_iff {c : Char} : isGap c = true ↔ c = ' ' ∨ c = '\t' := by
  simp [isGap]

theorem isBlank_of_isGap {c : Char} (h : isGap c = true) : Text.isBlank c = true := by
  rcases isGap_iff.mp h with rfl | rfl <;> decide

theorem afterKeyword?_eq_some_iff {keyword line rest : List Char} :
    afterKeyword? keyword line = some rest ↔ line = '[' :: (keyword ++ rest) := by
  unfold afterKeyword?
  constructor
  · intro h
    split at h
    · next hp =>
      obtain ⟨tail, htail⟩ := List.isPrefixOf_iff_prefix.mp hp
      subst htail
      simp only [List.cons_append, List.drop_succ_cons, List.drop_left,
        Option.some.injEq] at h
      rw [← h, List.cons_append]
    · simp at h
  · rintro rfl
    have hp : ('[' :: keyword).isPrefixOf ('[' :: (keyword ++ rest)) = true :=
      List.isPrefixOf_iff_prefix.mpr ⟨rest, rfl⟩
    rw [if_pos hp]
    simp

theorem isRestOfHeader_iff {cs : List Char} :
    isRestOfHeader cs = true ↔ ∃ gaps, IsGaps gaps ∧ cs = gaps ++ ['\n'] := by
  unfold isRestOfHeader
  rw [beq_iff_eq]
  constructor
  · intro h
    refine ⟨cs.takeWhile isGap, fun c hc => (List.mem_takeWhile_imp hc), ?_⟩
    rw [← h, List.takeWhile_append_dropWhile]
  · rintro ⟨gaps, hgaps, rfl⟩
    rw [List.dropWhile_append_of_pos hgaps]
    rfl

/-! ## Headers with a name -/

/-- The characters that an argument consists of. -/
def isArgumentChar (c : Char) : Bool := c != ']' && c != '\n'

theorem isArgumentChar_iff {c : Char} : isArgumentChar c = true ↔ c ≠ ']' ∧ c ≠ '\n' := by
  simp [isArgumentChar]

theorem argument?_eq_some_iff {keyword line argument : List Char} :
    argument? keyword line = some argument ↔
      ∃ gap rest, line = '[' :: (keyword ++ gap :: (argument ++ ']' :: (rest ++ ['\n']))) ∧
        isGap gap = true ∧ argument ≠ [] ∧ (∀ c ∈ argument, isArgumentChar c = true) ∧
        IsGaps rest := by
  have split_at : ∀ cs : List Char, cs.takeWhile isArgumentChar ++ cs.dropWhile isArgumentChar = cs :=
    fun cs => List.takeWhile_append_dropWhile
  constructor
  · intro h
    unfold argument? at h
    split at h
    · next gap body hafter =>
      rw [show (fun c => c != ']' && c != '\n') = isArgumentChar from rfl] at h
      split at h
      · next rest hrest =>
        dsimp only at h
        split at h
        · next hgood =>
          simp only [Bool.and_eq_true, Bool.not_eq_true', List.isEmpty_eq_false_iff] at hgood
          obtain ⟨⟨hgap, hne⟩, hend⟩ := hgood
          obtain ⟨gaps, hgaps, rfl⟩ := isRestOfHeader_iff.mp hend
          have harg : body.takeWhile isArgumentChar = argument := Option.some.inj h
          have hbody : body = argument ++ ']' :: (gaps ++ ['\n']) := by
            rw [← split_at body, harg, hrest]
          rw [harg] at hne
          refine ⟨gap, gaps, ?_, hgap, hne, ?_, hgaps⟩
          · rw [afterKeyword?_eq_some_iff.mp hafter, hbody]
          · intro c hc
            exact List.mem_takeWhile_imp (harg ▸ hc)
        · simp at h
      · simp at h
    · simp at h
  · rintro ⟨gap, rest, rfl, hgap, hne, harg, hrest⟩
    unfold argument?
    rw [afterKeyword?_eq_some_iff.mpr rfl]
    rw [show (fun c => c != ']' && c != '\n') = isArgumentChar from rfl]
    have hclose : isArgumentChar ']' = false := rfl
    have htake : (argument ++ ']' :: (rest ++ ['\n'])).takeWhile isArgumentChar = argument := by
      rw [List.takeWhile_append_of_pos harg, List.takeWhile_cons_of_neg (by simp [hclose]),
        List.append_nil]
    have hdrop : (argument ++ ']' :: (rest ++ ['\n'])).dropWhile isArgumentChar =
        ']' :: (rest ++ ['\n']) := by
      rw [List.dropWhile_append_of_pos harg, List.dropWhile_cons_of_neg (by simp [hclose])]
    have hend : isRestOfHeader (rest ++ ['\n']) = true :=
      isRestOfHeader_iff.mpr ⟨rest, hrest, rfl⟩
    simp only [htake, hdrop]
    rw [if_pos]
    simp [hgap, hne, hend]

/-- Gaps in front of an argument do not change its name. -/
theorem nameOf_append_gaps {gaps argument : List Char} (h : IsGaps gaps) :
    nameOf (gaps ++ argument) = nameOf argument := by
  have hblank : ∀ p ∈ gaps.map Point.char, Point.passes Text.isBlank p = true := by
    intro p hp
    obtain ⟨c, hc, rfl⟩ := List.mem_map.mp hp
    exact isBlank_of_isGap (h c hc)
  simp only [nameOf, Text.trim, Text.trimmed, Text.ofChars, List.map_append]
  rw [List.dropWhile_append_of_pos hblank]

theorem isNamedHeader_iff {word : String} {name : Text} {line : List Char} :
    IsNamedHeader word name line ↔ (argument? word.toList line).map nameOf = some name := by
  rw [Option.map_eq_some_iff]
  constructor
  · rintro ⟨gaps, argument, rest, rfl, hne, hgaps, harg, hchars, hrest, rfl⟩
    cases gaps with
    | nil => exact absurd rfl hne
    | cons gap more =>
      have hmore : IsGaps more := fun c hc => hgaps c (List.mem_cons_of_mem _ hc)
      refine ⟨more ++ argument, argument?_eq_some_iff.mpr ⟨gap, rest, by simp,
        hgaps gap List.mem_cons_self, by simp [harg], ?_, hrest⟩, nameOf_append_gaps hmore⟩
      intro c hc
      rcases List.mem_append.mp hc with hc | hc
      · rcases isGap_iff.mp (hmore c hc) with rfl | rfl <;> rfl
      · exact isArgumentChar_iff.mpr (hchars c hc)
  · rintro ⟨argument, harg, rfl⟩
    obtain ⟨gap, rest, rfl, hgap, hne, hchars, hrest⟩ := argument?_eq_some_iff.mp harg
    exact ⟨[gap], argument, rest, by simp, by simp, by simpa [IsGaps] using hgap, hne,
      fun c hc => isArgumentChar_iff.mp (hchars c hc), hrest, rfl⟩

/-! ## Kinds of lines -/

/-- What follows a header word in a line that begins like a header. -/
def gapOrClose : Option (List Char) → Bool
  | some (c :: _) => isGap c || c == ']'
  | _ => false

theorem gapOrClose_iff {keyword line : List Char} :
    gapOrClose (afterKeyword? keyword line) = true ↔
      ∃ c rest, line = '[' :: (keyword ++ c :: rest) ∧ (c = ' ' ∨ c = '\t' ∨ c = ']') := by
  constructor
  · intro h
    unfold gapOrClose at h
    split at h
    · next c rest hafter =>
      refine ⟨c, rest, afterKeyword?_eq_some_iff.mp hafter, ?_⟩
      simpa [isGap, or_assoc] using h
    · cases h
  · rintro ⟨c, rest, hline, hc⟩
    rw [afterKeyword?_eq_some_iff.mpr hline, gapOrClose]
    simpa [isGap, or_assoc] using hc

theorem isMarker_iff {line : List Char} : isMarker line = true ↔ BeginsLikeHeader line := by
  have hmarker : isMarker line = keywords.any fun keyword =>
      gapOrClose (afterKeyword? keyword line) := rfl
  rw [hmarker, List.any_eq_true]
  unfold BeginsLikeHeader
  constructor
  · rintro ⟨keyword, hmem, h⟩
    obtain ⟨word, hword, rfl⟩ : ∃ word ∈ ["case", "file", "out"], word.toList = keyword := by
      simpa [keywords, or_comm, eq_comm] using hmem
    exact ⟨word, hword, gapOrClose_iff.mp h⟩
  · rintro ⟨word, hword, h⟩
    refine ⟨word.toList, ?_, gapOrClose_iff.mpr h⟩
    simp only [List.mem_cons, List.not_mem_nil, or_false] at hword
    rcases hword with rfl | rfl | rfl <;> simp [keywords]

/-- A line with one header word does not begin with another one. -/
theorem argument?_eq_none {word other line : List Char} {c d : Char}
    (h : afterKeyword? (c :: word) line ≠ none) (hcd : c ≠ d) :
    argument? (d :: other) line = none := by
  obtain ⟨rest, hrest⟩ := Option.ne_none_iff_exists'.mp h
  rw [afterKeyword?_eq_some_iff] at hrest
  by_contra hsome
  obtain ⟨argument, harg⟩ := Option.ne_none_iff_exists'.mp hsome
  obtain ⟨gap, tail, hline, -⟩ := argument?_eq_some_iff.mp harg
  rw [hrest] at hline
  simp only [List.cons_append, List.cons.injEq, true_and] at hline
  exact hcd hline.1

theorem afterKeyword?_of_argument? {keyword line argument : List Char}
    (h : argument? keyword line = some argument) : afterKeyword? keyword line ≠ none := by
  obtain ⟨gap, rest, hline, -⟩ := argument?_eq_some_iff.mp h
  rw [afterKeyword?_eq_some_iff.mpr hline]
  simp

theorem afterOut_iff {line : List Char} :
    (match afterKeyword? "out".toList line with
      | some (']' :: rest) => if isRestOfHeader rest then some Header.out else none
      | _ => none) = some .out ↔ IsHeader .out line := by
  constructor
  · intro h
    split at h
    · next rest hafter =>
      split at h
      · next hend =>
        obtain ⟨gaps, hgaps, rfl⟩ := isRestOfHeader_iff.mp hend
        exact ⟨gaps, by rw [afterKeyword?_eq_some_iff.mp hafter]; rfl, hgaps⟩
      · simp at h
    · simp at h
  · rintro ⟨gaps, hline, hgaps⟩
    have hafter : afterKeyword? "out".toList line = some (']' :: (gaps ++ ['\n'])) :=
      afterKeyword?_eq_some_iff.mpr (by rw [hline]; rfl)
    rw [hafter]
    exact if_pos (isRestOfHeader_iff.mpr ⟨gaps, hgaps, rfl⟩)

theorem header?_eq_some_iff {line : List Char} {h : Header} :
    header? line = some h ↔ IsHeader h line := by
  have hcase (name : Text) : IsHeader (.case name) line ↔
      (argument? "case".toList line).map nameOf = some name := isNamedHeader_iff
  have hfile (name : Text) : IsHeader (.file name) line ↔
      (argument? "file".toList line).map nameOf = some name := isNamedHeader_iff
  -- a line of output has neither of the other two words
  have hout : IsHeader .out line → argument? "case".toList line = none ∧
      argument? "file".toList line = none := by
    rintro ⟨gaps, hline, -⟩
    have hafter : afterKeyword? "out".toList line ≠ none := by
      have hrest : line = '[' :: ("out".toList ++ ']' :: (gaps ++ ['\n'])) := by rw [hline]; rfl
      rw [afterKeyword?_eq_some_iff.mpr hrest]
      simp
    exact ⟨argument?_eq_none hafter (by decide), argument?_eq_none hafter (by decide)⟩
  unfold header?
  cases hc : argument? "case".toList line with
  | some a =>
      have hafter := afterKeyword?_of_argument? hc
      have hf : argument? "file".toList line = none := argument?_eq_none hafter (by decide)
      cases h with
      | case name => rw [hcase, hc]; simp
      | file name => rw [hfile, hf]; simp
      | out =>
          have hno : ¬ IsHeader .out line := fun h => by rw [(hout h).1] at hc; cases hc
          simp [hno]
  | none =>
      cases hf : argument? "file".toList line with
      | some a =>
          cases h with
          | case name => rw [hcase, hc]; simp
          | file name => rw [hfile, hf]; simp
          | out =>
              have hno : ¬ IsHeader .out line := fun h => by rw [(hout h).2] at hf; cases hf
              simp [hno]
      | none =>
          cases h with
          | case name => rw [hcase, hc]; dsimp only; split <;> (try split) <;> simp
          | file name => rw [hfile, hf]; dsimp only; split <;> (try split) <;> simp
          | out => exact afterOut_iff

/-- A header begins like one. -/
theorem BeginsLikeHeader.of_isHeader {line : List Char} {h : Header} (hh : IsHeader h line) :
    BeginsLikeHeader line := by
  have named : ∀ {word : String} {name : Text}, word ∈ ["case", "file", "out"] →
      IsNamedHeader word name line → BeginsLikeHeader line := by
    rintro word name hword ⟨gaps, argument, rest, hline, hne, hgaps, -⟩
    cases gaps with
    | nil => exact absurd rfl hne
    | cons gap more =>
        refine ⟨word, hword, gap, more ++ (argument ++ ']' :: (rest ++ ['\n'])), hline, ?_⟩
        rcases isGap_iff.mp (hgaps gap List.mem_cons_self) with h | h
        · exact Or.inl h
        · exact Or.inr (Or.inl h)
  cases h with
  | case name => exact named (by decide) hh
  | file name => exact named (by decide) hh
  | out =>
      obtain ⟨rest, rfl, -⟩ := hh
      exact ⟨"out", by decide, ']', rest ++ ['\n'], rfl, by decide⟩

theorem kindOf_eq_plain_iff {line : List Char} :
    kindOf line = .plain ↔ ¬ BeginsLikeHeader line := by
  rw [← isMarker_iff]
  unfold kindOf
  cases isMarker line with
  | false => simp
  | true => simp only [Bool.not_true, Bool.false_eq_true, if_false]; split <;> simp

theorem kindOf_eq_header_iff {line : List Char} {h : Header} :
    kindOf line = .header h ↔ IsHeader h line := by
  rw [← header?_eq_some_iff]
  unfold kindOf
  cases hm : isMarker line with
  | false =>
      have hno : header? line ≠ some h := fun hh => by
        have := isMarker_iff.mpr (.of_isHeader (header?_eq_some_iff.mp hh))
        rw [hm] at this
        exact Bool.noConfusion this
      simp [hno]
  | true =>
      simp only [Bool.not_true, Bool.false_eq_true, if_false]
      split
      · next h' heq => rw [heq]; simp
      · next heq => rw [heq]; simp

/-- A line is one header at most. -/
theorem IsHeader.unique {line : List Char} {h h' : Header} (hh : IsHeader h line)
    (hh' : IsHeader h' line) : h = h' := by
  rw [← header?_eq_some_iff] at hh hh'
  exact Option.some.inj (hh.symm.trans hh')

end Casebook.Case

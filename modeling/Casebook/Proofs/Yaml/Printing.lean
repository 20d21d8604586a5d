import Casebook.Proofs.Text.Half
import Casebook.Proofs.Yaml.Line

/-!
# Printing scalars

What is written for a text stands in the relation to it that reading asks for, wherever lines are
folded. A text that is written plain or between single quotes is taken apart into runs (`Pieces`)
first. Main statement: `Page.written_scalarValue`.
-/

namespace Casebook.Yaml

/-! ## Runs -/

/-- A character of a word. -/
def isInner (c : Char) : Bool := c != ' ' && !Style.isFoldable c

theorem isInner_eq_true {c : Char} : isInner c = true ↔ c ≠ ' ' ∧ Style.isFoldable c = false := by
  simp [isInner]

theorem isFoldable_space : Style.isFoldable ' ' = false := by decide

/-- Of the characters that are shown, gaps are what words are parted by. -/
theorem isGap_of_isShown {c : Char} (h : Style.isShown c = true) : isGap c = !isInner c := by
  have htab : (c == '\t') = false := beq_eq_false_iff_ne.mpr (by rintro rfl; cases h)
  have hreturn : (c == '\r') = false := beq_eq_false_iff_ne.mpr (by rintro rfl; cases h)
  simp [isGap, isBreak, isInner, Style.isFoldable, htab, hreturn, bne]

theorem isSpace_of_isShown {c : Char} (h : Style.isShown c = true) :
    Style.isSpace c = !isInner c := by
  have htab : (c == '\t') = false := beq_eq_false_iff_ne.mpr (by rintro rfl; cases h)
  have hreturn : (c == '\r') = false := beq_eq_false_iff_ne.mpr (by rintro rfl; cases h)
  have hzero : (c == '\x00') = false := beq_eq_false_iff_ne.mpr (by rintro rfl; cases h)
  simp [Style.isSpace, isInner, htab, hreturn, hzero, bne]

/-- A text and its longest runs of one kind. -/
inductive Pieces : List Char → List Page.Piece → Prop
  | nil : Pieces [] []
  | word {cs t ps} : cs ≠ [] → (∀ c ∈ cs, isInner c = true) → (∀ c ∈ t.head?, isInner c = false) →
      Pieces t ps → Pieces (cs ++ t) (.word cs :: ps)
  | spaces {t ps} (n : Nat) : (∀ c ∈ t.head?, c ≠ ' ') → Pieces t ps →
      Pieces (List.replicate (n + 1) ' ' ++ t) (.spaces (n + 1) :: ps)
  | breaks {t ps} (b : Char) (bs : List Char) : (∀ c ∈ b :: bs, Style.isFoldable c = true) →
      (∀ c ∈ t.head?, Style.isFoldable c = false) → Pieces t ps →
      Pieces (b :: bs ++ t) (.breaks (b :: bs) :: ps)

theorem pieces_cons_space {t : List Char} {ps : List Page.Piece} (h : Pieces t ps) :
    Pieces (' ' :: t) (Page.Piece.cons ' ' ps) := by
  unfold Page.Piece.cons
  rw [if_pos (by decide)]
  cases h with
  | nil => exact .spaces 0 (by simp) .nil
  | @word cs t ps hne hin hhead h =>
      obtain ⟨c, cs, rfl⟩ := List.exists_cons_of_ne_nil hne
      refine .spaces 0 ?_ (.word hne hin hhead h)
      rintro _ ⟨⟩
      exact (isInner_eq_true.mp (hin c List.mem_cons_self)).1
  | spaces n hhead h => exact .spaces (n + 1) hhead h
  | breaks b bs hbs hhead h =>
      refine .spaces 0 ?_ (.breaks b bs hbs hhead h)
      rintro _ ⟨⟩ rfl
      exact absurd (hbs _ List.mem_cons_self) (by decide)

theorem pieces_cons_break {t : List Char} {ps : List Page.Piece} (h : Pieces t ps) {c : Char}
    (hc : Style.isFoldable c = true) : Pieces (c :: t) (Page.Piece.cons c ps) := by
  have hspace : ¬ (c == ' ') = true := by
    rw [beq_iff_eq]
    rintro rfl
    cases hc
  unfold Page.Piece.cons
  rw [if_neg hspace, if_pos hc]
  cases h with
  | nil => exact .breaks c [] (by simpa using hc) (by simp) .nil
  | @word cs t ps hne hin hhead h =>
      obtain ⟨d, cs, rfl⟩ := List.exists_cons_of_ne_nil hne
      refine .breaks c [] (by simpa using hc) ?_ (.word hne hin hhead h)
      rintro _ ⟨⟩
      exact (isInner_eq_true.mp (hin d List.mem_cons_self)).2
  | spaces n hhead h =>
      refine .breaks c [] (by simpa using hc) ?_ (.spaces n hhead h)
      rintro _ ⟨⟩
      exact isFoldable_space
  | breaks b bs hbs hhead h => exact .breaks c (b :: bs) (List.forall_mem_cons.mpr ⟨hc, hbs⟩) hhead h

theorem pieces_cons_inner {t : List Char} {ps : List Page.Piece} (h : Pieces t ps) {c : Char}
    (hc : isInner c = true) : Pieces (c :: t) (Page.Piece.cons c ps) := by
  obtain ⟨hspace, hfold⟩ := isInner_eq_true.mp hc
  unfold Page.Piece.cons
  rw [if_neg (by simpa using hspace), if_neg (by simp [hfold])]
  cases h with
  | nil => exact .word (List.cons_ne_nil c []) (by simpa using hc) (by simp) .nil
  | word hne hin hhead h =>
      exact .word (List.cons_ne_nil _ _) (List.forall_mem_cons.mpr ⟨hc, hin⟩) hhead h
  | spaces n hhead h =>
      refine .word (List.cons_ne_nil c []) (by simpa using hc) ?_ (.spaces n hhead h)
      rintro _ ⟨⟩
      rfl
  | breaks b bs hbs hhead h =>
      refine .word (List.cons_ne_nil c []) (by simpa using hc) ?_ (.breaks b bs hbs hhead h)
      rintro _ ⟨⟩
      simp [isInner, hbs b List.mem_cons_self]

theorem pieces_ofText (t : List Char) : Pieces t (Page.Piece.ofText t) := by
  induction t with
  | nil => exact .nil
  | cons c t ih =>
      show Pieces (c :: t) (Page.Piece.cons c (Page.Piece.ofText t))
      by_cases hspace : c = ' '
      · subst hspace
        exact pieces_cons_space ih
      · by_cases hfold : Style.isFoldable c = true
        · exact pieces_cons_break ih hfold
        · exact pieces_cons_inner ih (isInner_eq_true.mpr ⟨hspace, Bool.eq_false_iff.mpr hfold⟩)

/-! ## Pages -/

namespace Page

/-- A step writes characters and ends within a text. -/
structure Adds (p q : Page) (w : List Char) : Prop where
  written : q.written = w.reverse ++ p.written
  blank : q.blank = false
  indented : q.indented = false

section
variable {p q : Page} {w v : List Char} {indent n : Nat} {fold : Bool}

theorem Adds.trans {r : Page} (h : Adds p q w) (h' : Adds q r v) : Adds p r (w ++ v) :=
  ⟨by rw [h'.written, h.written, List.reverse_append, List.append_assoc], h'.blank, h'.indented⟩

theorem adds_put (hblank : p.blank = false) (hindented : p.indented = false) (cs : List Char) :
    Adds p (p.put cs) cs := ⟨rfl, hblank, hindented⟩

/-- A new line is begun within a text, and wherever the line is too long already. -/
theorem indent_newLine (h : p.indented = false ∨ n < p.column) :
    p.indent n = { p with
      written := List.replicate n ' ' ++ '\n' :: p.written
      column := n
      blank := true
      indented := true } := by
  have hnew : (!p.indented || decide (p.column > n) || (p.column == n && !p.blank)) = true := by
    rcases h with h | h <;> simp [h]
  unfold indent
  rw [if_pos hnew]
  show (if 0 < n then _ else _) = _
  split
  · simp [put, endLine]
  · obtain rfl : n = 0 := by omega
    rfl

/-- The indentation of a line on which nothing stands yet. -/
theorem indent_here (hcolumn : p.column = 0) (hblank : p.blank = true) (hindented : p.indented = true) :
    p.indent n = { p with written := List.replicate n ' ' ++ p.written, column := n } := by
  have hhere : ¬ (!p.indented || decide (p.column > n) || (p.column == n && !p.blank)) = true := by
    simp [hcolumn, hblank, hindented]
  unfold indent
  rw [if_neg hhere]
  show (if p.column < n then _ else _) = _
  rw [hcolumn]
  split
  · simp [put, hcolumn, hblank]
  · obtain rfl : n = 0 := by omega
    show p = { p with column := 0 }
    rw [← hcolumn]

/-- Spaces within a text are written as they are, or a single one becomes a line end. -/
theorem spaces_cases (hindent : indent ≤ lineWidth) (n : Nat) (fold : Bool) (p : Page) :
    p.spaces n indent fold = p.put (List.replicate n ' ') ∨
      n = 1 ∧ fold = true ∧ (p.spaces n indent fold).written =
        List.replicate indent ' ' ++ '\n' :: p.written := by
  unfold spaces
  split
  · rename_i h
    simp only [Bool.and_eq_true, beq_iff_eq, decide_eq_true_eq] at h
    obtain ⟨⟨hn, hcolumn⟩, hfold⟩ := h
    refine .inr ⟨hn, hfold, ?_⟩
    rw [indent_newLine (.inr (Nat.lt_of_le_of_lt hindent hcolumn))]
  · exact .inl rfl

end

end Page

/-! ## Plain texts -/

/-- What comes behind a word of a text that is written plain. -/
inductive PlainTail (indent : Nat) : List Char → List Char → Prop
  | nil : PlainTail indent [] []
  | spaces {t w} (n : Nat) : Plain indent t w →
      PlainTail indent (List.replicate (n + 1) ' ' ++ t) (List.replicate (n + 1) ' ' ++ w)
  | fold {t w} : Plain indent t w →
      PlainTail indent (' ' :: t) ('\n' :: (List.replicate indent ' ' ++ w))

theorem Plain.of_tail {indent : Nat} {cs t w : List Char} (hword : IsWord cs)
    (h : PlainTail indent t w) : Plain indent (cs ++ t) (cs ++ w) := by
  cases h with
  | nil =>
      rw [List.append_nil]
      exact .word hword
  | spaces n h => exact .spaces n hword h
  | fold h => exact .fold hword h

section
variable {cs t w : List Char} {b : Bool}

/-- Behind a word of a text without inner indicators there is none either. -/
theorem innerIndicator_word (hcs : ∀ c ∈ cs, isInner c = true ∧ Style.isShown c = true)
    (hne : cs ≠ []) (h : Style.innerIndicator b (cs ++ t) = false) :
    (b = true → cs.head? ≠ some '#') ∧
      ((∀ c ∈ t.head?, Style.isSpace c = true) → cs.getLast? ≠ some ':') ∧
      Style.innerIndicator false t = false := by
  induction cs generalizing b with
  | nil => exact absurd rfl hne
  | cons c cs ih =>
      obtain ⟨hc, hcs⟩ := List.forall_mem_cons.mp hcs
      have hspace : Style.isSpace c = false := by rw [isSpace_of_isShown hc.2, hc.1]; rfl
      rw [List.cons_append, Style.innerIndicator, hspace] at h
      simp only [Bool.or_eq_false_iff, Bool.and_eq_false_iff, beq_eq_false_iff_ne] at h
      obtain ⟨⟨hcolon, hmark⟩, h⟩ := h
      have hhead : b = true → (c :: cs).head? ≠ some '#' := by
        rintro rfl hc
        exact hmark.elim (fun hne => hne (Option.some.inj hc)) (fun h => by cases h)
      cases cs with
      | nil =>
          refine ⟨hhead, fun ht hc => ?_, h⟩
          have hall : t.head?.all Style.isSpace = true := by
            cases t with
            | nil => rfl
            | cons d t => exact ht d rfl
          rcases hcolon with hne | hsome
          · exact hne (Option.some.inj hc)
          · rw [List.nil_append, hall] at hsome
            cases hsome
      | cons d cs =>
          obtain ⟨-, hlast, hrest⟩ := ih hcs (List.cons_ne_nil _ _) h
          exact ⟨hhead, fun ht => by rw [List.getLast?_cons_cons]; exact hlast ht, hrest⟩

theorem innerIndicator_spaces {n : Nat}
    (h : Style.innerIndicator b (List.replicate (n + 1) ' ' ++ t) = false) :
    Style.innerIndicator true t = false := by
  induction n generalizing b with
  | zero =>
      rw [List.replicate_succ, List.cons_append, Style.innerIndicator, Bool.or_eq_false_iff] at h
      exact h.2
  | succ n ih =>
      rw [List.replicate_succ, List.cons_append, Style.innerIndicator, Bool.or_eq_false_iff] at h
      exact ih h.2

end

namespace Page

theorem getLast?_ne_of_append {cs t : List Char} {c : Char} (h : (cs ++ t).getLast? ≠ some c) :
    t.getLast? ≠ some c := by
  intro ht
  rw [List.getLast?_append, ht] at h
  exact h rfl

/-- The pieces of a text that may be written plain. -/
theorem adds_plainPieces {indent : Nat} (hindent : indent ≤ lineWidth) {t : List Char}
    {ps : List Piece} (h : Pieces t ps) (hshown : ∀ c ∈ t, Style.isShown c = true)
    (hbreaks : ∀ c ∈ t, Style.isFoldable c = false) (hlast : t.getLast? ≠ some ' ') {b : Bool}
    (hquiet : Style.innerIndicator b t = false) (fold : Bool) {p : Page} (hblank : p.blank = false)
    (hindented : p.indented = false) :
    ∃ w, Adds p (plainPieces indent fold p ps) w ∧
      ((∀ c ∈ t.head?, isInner c = false) → PlainTail indent t w) ∧
      (b = true → (∃ c ∈ t.head?, isInner c = true) → Plain indent t w) ∧ (fold = false → w = t) := by
  induction h generalizing b p with
  | nil => exact ⟨[], ⟨rfl, hblank, hindented⟩, fun _ => .nil, by simp, fun _ => rfl⟩
  | @word cs t ps hne hin hhead h ih =>
      have hrest : ∀ c ∈ t, c ∈ cs ++ t := fun c hc => List.mem_append_right _ hc
      have hspace : ∀ c ∈ t.head?, Style.isSpace c = true := fun c hc => by
        rw [isSpace_of_isShown (hshown c (hrest c (List.mem_of_mem_head? hc))), hhead c hc]
        rfl
      obtain ⟨hmark, hcolon, hquiet⟩ := innerIndicator_word (fun c hc =>
        ⟨hin c hc, hshown c (List.mem_append_left _ hc)⟩) hne hquiet
      obtain ⟨w, hw, htail, -, hsame⟩ := ih (p := p.put cs) (fun c hc => hshown c (hrest c hc))
        (fun c hc => hbreaks c (hrest c hc)) (getLast?_ne_of_append hlast) hquiet hblank hindented
      refine ⟨cs ++ w, (adds_put hblank hindented cs).trans hw, ?_, ?_, fun hf => by rw [hsame hf]⟩
      · obtain ⟨c, cs, rfl⟩ := List.exists_cons_of_ne_nil hne
        intro hno
        have hc := hno c rfl
        rw [hin c List.mem_cons_self] at hc
        cases hc
      · rintro rfl -
        refine .of_tail ⟨hne, fun c hc => ?_, hmark rfl, hcolon hspace⟩ (htail hhead)
        rw [isGap_of_isShown (hshown c (List.mem_append_left _ hc)), hin c hc]
        rfl
  | @spaces t ps n hhead h ih =>
      have hrest : ∀ c ∈ t, c ∈ List.replicate (n + 1) ' ' ++ t :=
        fun c hc => List.mem_append_right _ hc
      obtain ⟨w, hw, -, hplain, hsame⟩ := ih (p := (p.spaces (n + 1) indent fold).inText)
        (fun c hc => hshown c (hrest c hc)) (fun c hc => hbreaks c (hrest c hc))
        (getLast?_ne_of_append hlast) (innerIndicator_spaces hquiet) rfl rfl
      have hinner : ∃ c ∈ t.head?, isInner c = true := by
        cases t with
        | nil =>
            rw [List.append_nil, List.getLast?_replicate, if_neg (Nat.succ_ne_zero n)] at hlast
            exact absurd rfl hlast
        | cons c t =>
            exact ⟨c, rfl, isInner_eq_true.mpr ⟨hhead c rfl, hbreaks c (hrest c List.mem_cons_self)⟩⟩
      have hno : ¬ ∃ c ∈ (List.replicate (n + 1) ' ' ++ t).head?, isInner c = true := by
        rintro ⟨_, ⟨⟩, hc⟩
        cases hc
      -- the spaces stay as they are, or the only one becomes a line end
      rcases spaces_cases hindent (n + 1) fold p with hput | ⟨hn, hf, hline⟩
      · refine ⟨List.replicate (n + 1) ' ' ++ w, ?_, fun _ => .spaces n (hplain rfl hinner),
          fun _ h => absurd h hno, fun hf => by rw [hsame hf]⟩
        exact Adds.trans ⟨by rw [hput]; rfl, rfl, rfl⟩ hw
      · obtain rfl : n = 0 := by omega
        refine ⟨'\n' :: (List.replicate indent ' ' ++ w), ?_, fun _ => .fold (hplain rfl hinner),
          fun _ h => absurd h hno, by simp [hf]⟩
        refine Adds.trans (w := '\n' :: List.replicate indent ' ') ⟨?_, rfl, rfl⟩ hw
        rw [List.reverse_cons, List.reverse_replicate, List.append_assoc]
        exact hline
  | breaks c cs hcs hhead h ih =>
      -- a text with line ends is never written plain
      have hno := hbreaks c List.mem_cons_self
      rw [hcs c List.mem_cons_self] at hno
      cases hno

end Page

/-! ## Texts between single quotes -/

/-- A character as it stands between single quotes. -/
def singleQuoted (c : Char) : List Char := if c == '\'' then ['\'', '\''] else [c]

/-- No line end stands beside a space. -/
structure IsTidy (t : List Char) : Prop where
  behind : t.IsChain fun a b => Style.isFoldable a = true → (b == ' ') = false
  before : t.IsChain fun a b => (a == ' ') = true → Style.isFoldable b = false

theorem isChain_of_hasPair {p q : Char → Bool} {t : List Char} (h : Style.hasPair p q t = false) :
    t.IsChain fun a b => p a = true → q b = false := by
  induction t with
  | nil => exact .nil
  | cons a t ih =>
      cases t with
      | nil => exact .singleton a
      | cons b t =>
          rw [Style.hasPair, Bool.or_eq_false_iff, Bool.and_eq_false_iff] at h
          refine .cons_cons (fun ha => h.1.resolve_left ?_) (ih h.2)
          rw [ha]
          simp

theorem IsTidy.right {cs t : List Char} (h : IsTidy (cs ++ t)) : IsTidy t :=
  ⟨(List.isChain_append.mp h.behind).2.1, (List.isChain_append.mp h.before).2.1⟩

theorem Single.word {indent : Nat} {cs t w : List Char} (h : Single indent t w)
    (hcs : ∀ c ∈ cs, isGap c = false) : Single indent (cs ++ t) (cs.flatMap singleQuoted ++ w) := by
  induction cs with
  | nil => exact h
  | cons c cs ih =>
      obtain ⟨hc, hcs⟩ := List.forall_mem_cons.mp hcs
      have hrest := ih hcs
      by_cases hquote : c = '\''
      · subst hquote
        exact .quote hrest
      · have hsame : singleQuoted c = [c] := if_neg (by simpa using hquote)
        rw [List.flatMap_cons, hsame]
        exact .shown hquote hc hrest

theorem isOneLine_flatMap_singleQuoted {cs : List Char} (h : IsOneLine cs) :
    IsOneLine (cs.flatMap singleQuoted) := by
  intro c hc
  obtain ⟨d, hd, hcd⟩ := List.mem_flatMap.mp hc
  rw [singleQuoted] at hcd
  split at hcd
  · have hquote : c = '\'' := by simpa using hcd
    rw [hquote]
    rfl
  · rw [List.mem_singleton.mp hcd]
    exact h d hd

theorem IsTidy.isSolid_spaces {n : Nat} {t : List Char}
    (h : IsTidy (List.replicate (n + 1) ' ' ++ t)) (hshown : ∀ c ∈ t, Style.isShown c = true)
    (hhead : ∀ c ∈ t.head?, c ≠ ' ') : IsSolid t := by
  intro c hc
  have hlast : ' ' ∈ (List.replicate (n + 1) ' ').getLast? := by
    rw [List.getLast?_replicate, if_neg (Nat.succ_ne_zero n)]
    rfl
  have hfold := (List.isChain_append.mp h.before).2.2 ' ' hlast c hc rfl
  rw [isGap_of_isShown (hshown c (List.mem_of_mem_head? hc)),
    isInner_eq_true.mpr ⟨hhead c hc, hfold⟩]
  rfl

theorem IsTidy.isSolid_breaks {b : Char} {bs t : List Char} (h : IsTidy (b :: bs ++ t))
    (hshown : ∀ c ∈ t, Style.isShown c = true)
    (hbs : ∀ c ∈ b :: bs, Style.isFoldable c = true)
    (hhead : ∀ c ∈ t.head?, Style.isFoldable c = false) : IsSolid t := by
  intro c hc
  have hlast := List.getLast_mem (List.cons_ne_nil b bs)
  have hspace := (List.isChain_append.mp h.behind).2.2 _ (List.getLast?_eq_getLast_of_ne_nil _) c hc
    (hbs _ hlast)
  rw [isGap_of_isShown (hshown c (List.mem_of_mem_head? hc)),
    isInner_eq_true.mpr ⟨beq_eq_false_iff_ne.mp hspace, hhead c hc⟩]
  rfl

theorem isKeptBreak_of_isFoldable {c : Char} (h : Style.isFoldable c = true) (hc : c ≠ '\x85') :
    isKeptBreak c = true := by
  have hnext : (c == '\x85') = false := beq_eq_false_iff_ne.mpr hc
  rw [Style.isFoldable, hnext, Bool.or_false] at h
  exact h

namespace Page

section
variable {p : Page} {indent : Nat} {fold : Bool}

theorem foldl_endLine (cs : List Char) (hcolumn : p.column = 0) (hblank : p.blank = true)
    (hindented : p.indented = true) :
    cs.foldl endLine p = { p with written := cs.reverse ++ p.written } := by
  induction cs generalizing p with
  | nil => rfl
  | cons c cs ih =>
      rw [List.foldl_cons, ih rfl rfl rfl]
      simp [endLine, hcolumn, hblank, hindented]

theorem breaks_written (b : Char) (bs : List Char) :
    (p.breaks (b :: bs) indent).written = List.replicate indent ' ' ++ ((b :: bs).reverse ++
      ((if b = '\n' then ['\n'] else []) ++ p.written)) := by
  have hline : (if (b :: bs).head? == some '\n' then p.endLine '\n' else p).written =
      (if b = '\n' then ['\n'] else []) ++ p.written := by
    by_cases hb : b = '\n' <;> simp [hb, endLine]
  unfold breaks
  dsimp only
  rw [List.foldl_cons, foldl_endLine bs rfl rfl rfl, indent_here rfl rfl rfl]
  show _ ++ (bs.reverse ++ b :: (ite _ _ _ : Page).written) = _
  rw [hline]
  simp

/-- The pieces of a text that may stand between single quotes. -/
theorem written_singlePieces (hindent : indent ≤ lineWidth) (fold : Bool) {t : List Char}
    {ps : List Piece} (h : Pieces t ps) (hshown : ∀ c ∈ t, Style.isShown c = true)
    (hnext : '\x85' ∉ t) (htidy : IsTidy t) (p : Page) (inner : Bool) :
    ∃ w, (singlePieces indent fold inner p ps).written = w.reverse ++ p.written ∧
      Single indent t w ∧
      (fold = false → (∀ c ∈ t, Style.isFoldable c = false) → IsOneLine w) := by
  induction h generalizing p inner with
  | nil => exact ⟨[], rfl, .done, fun _ _ => by simp [IsOneLine]⟩
  | @word cs t ps hne hin hhead h ih =>
      have hgap : ∀ c ∈ cs, isGap c = false := fun c hc => by
        rw [isGap_of_isShown (hshown c (List.mem_append_left _ hc)), hin c hc]
        rfl
      obtain ⟨w, hw, hsingle, hline⟩ := ih (p := p.put (cs.flatMap singleQuoted))
        (fun c hc => hshown c (List.mem_append_right _ hc))
        (fun hc => hnext (List.mem_append_right _ hc)) htidy.right true
      refine ⟨cs.flatMap singleQuoted ++ w, ?_, hsingle.word hgap, fun hf hbreaks => ?_⟩
      · rw [List.reverse_append, List.append_assoc]
        exact hw
      · refine isOneLine_append.mpr ⟨fun c hc => ?_,
          hline hf fun c hc => hbreaks c (List.mem_append_right _ hc)⟩
        revert c
        refine isOneLine_flatMap_singleQuoted fun c hc => ?_
        have hnogap := hgap c hc
        simp only [isGap, Bool.or_eq_false_iff] at hnogap
        exact hnogap.2
  | @spaces t ps n hhead h ih =>
      have hrest : ∀ c ∈ t, c ∈ List.replicate (n + 1) ' ' ++ t :=
        fun c hc => List.mem_append_right _ hc
      have hsolid := htidy.isSolid_spaces (fun c hc => hshown c (hrest c hc)) hhead
      obtain ⟨w, hw, hsingle, hline⟩ := ih
        (p := p.spaces (n + 1) indent (fold && inner && !ps.isEmpty))
        (fun c hc => hshown c (hrest c hc)) (fun hc => hnext (hrest _ hc)) htidy.right true
      rcases spaces_cases hindent (n + 1) (fold && inner && !ps.isEmpty) p with
        hput | ⟨hn, hf, hnew⟩
      · refine ⟨List.replicate (n + 1) ' ' ++ w, ?_, .spaces n hsolid hsingle, fun hf hbreaks => ?_⟩
        · rw [List.reverse_append, List.append_assoc, singlePieces, hw, hput]
          rfl
        · refine isOneLine_append.mpr ⟨fun c hc => ?_, hline hf fun c hc => hbreaks c (hrest c hc)⟩
          rw [List.eq_of_mem_replicate hc]
          rfl
      · obtain rfl : n = 0 := by omega
        refine ⟨'\n' :: (List.replicate indent ' ' ++ w), ?_, .fold hsolid hsingle, fun hno => ?_⟩
        · rw [singlePieces, hw, hnew]
          simp
        · rw [hno] at hf
          cases hf
  | @breaks t ps b bs hbs hhead h ih =>
      have hrest : ∀ c ∈ t, c ∈ b :: bs ++ t := fun c hc => List.mem_append_right _ hc
      have hsolid := htidy.isSolid_breaks (fun c hc => hshown c (hrest c hc)) hbs hhead
      -- without a next-line control every line end that is written is read as itself
      have hkept : ∀ c ∈ b :: bs, isKeptBreak c = true := fun c hc =>
        isKeptBreak_of_isFoldable (hbs c hc) (by rintro rfl; exact hnext (List.mem_append_left _ hc))
      obtain ⟨w, hw, hsingle, -⟩ := ih (p := p.breaks (b :: bs) indent)
        (fun c hc => hshown c (hrest c hc)) (fun hc => hnext (hrest _ hc)) htidy.right true
      refine ⟨_, ?_, .breaks bs hkept hsolid hsingle, fun _ hbreaks => ?_⟩
      · rw [singlePieces, hw, breaks_written]
        by_cases hb : b = '\n' <;> simp [hb]
      · have hno := hbreaks b List.mem_cons_self
        rw [hbs b List.mem_cons_self] at hno
        cases hno

end

end Page

/-! ## Texts between double quotes -/

theorem Double.isSolid {indent : Nat} {ps : List Point} {w : List Char} (h : Double indent ps w)
    (hhead : ps.head? ≠ some (.char ' ')) : IsSolid w := by
  cases h with
  | done => exact isSolid_nil
  | @plain c ps w hplain h =>
      refine isSolid_cons.mpr (Bool.eq_false_iff.mpr fun hgap => hhead ?_)
      rw [eq_space_of_isDoublePlain hplain hgap]
      rfl
  | escape hescape h =>
      obtain ⟨body, rfl, -⟩ := scanEscape_escape? hescape
      exact isSolid_cons.mpr rfl
  | slashed h | fold hw h => exact isSolid_cons.mpr rfl

/-- A character that is shown within a line. -/
def isInk (c : Char) : Bool := Style.isShown c && !isBreak c

theorem isInk_hex {width n : Nat} : ∀ c ∈ (Text.hex width n).map Char.toUpper, isInk c = true := by
  have hdigit : ∀ d < 16, isInk (Text.hexDigit d).toUpper = true := by decide
  induction width generalizing n with
  | zero => simp [Text.hex]
  | succ width ih =>
      rw [Text.hex, List.map_append]
      refine List.forall_mem_append.mpr ⟨ih, ?_⟩
      simpa using hdigit (n % 16) (Nat.mod_lt n (by decide))

theorem isInk_escapeCode (n : Nat) : ∀ c ∈ Page.escapeCode n, isInk c = true := by
  unfold Page.escapeCode
  dsimp only
  split_ifs <;> exact List.forall_mem_cons.mpr ⟨rfl, List.forall_mem_cons.mpr ⟨rfl, isInk_hex⟩⟩

theorem isInk_escape? {p : Point} {cs : List Char} (h : Page.escape? p = some cs) :
    ∀ c ∈ cs, isInk c = true := by
  have hletters : Page.letters.all (fun e => isInk e.2) = true := by decide
  unfold Page.escape? at h
  cases p with
  | half half =>
      obtain rfl := Option.some.inj h
      exact isInk_escapeCode _
  | char c =>
      dsimp only at h
      split_ifs at h
      cases hletter : Page.letters.lookup c with
      | none =>
          rw [hletter] at h
          obtain rfl := Option.some.inj h
          exact isInk_escapeCode _
      | some letter =>
          rw [hletter] at h
          obtain rfl := Option.some.inj h
          rw [List.lookup_eq_some_iff] at hletter
          obtain ⟨front, back, hsplit, -⟩ := hletter
          have hmem : (c, letter) ∈ Page.letters := by
            rw [hsplit]
            simp
          have hink := List.all_eq_true.mp hletters _ hmem
          exact List.forall_mem_cons.mpr ⟨rfl, by simpa using hink⟩

theorem isInk_of_isDoublePlain {c : Char} (h : Page.isDoublePlain c = true) : isInk c = true := by
  have hbreak : isBreak c = false := by
    refine Bool.eq_false_iff.mpr fun hbreak => ?_
    obtain rfl := eq_space_of_isDoublePlain h (by rw [isGap, hbreak, Bool.or_true])
    cases hbreak
  rw [isInk, hbreak, Bool.not_false, Bool.and_true]
  simp only [Page.isDoublePlain, Bool.and_eq_true, Bool.or_eq_true, Bool.not_eq_true',
    Bool.or_eq_false_iff] at h
  obtain ⟨⟨-, hmark⟩, hlow | hhigh⟩ := h
  · simp [Style.isShown, hlow]
  · simp [Style.isShown, hhigh, bne, hmark]

theorem escape?_eq_none {p : Point} (h : Page.escape? p = none) :
    ∃ c, p = .char c ∧ Page.isDoublePlain c = true := by
  cases p with
  | half half => cases h
  | char c =>
      refine ⟨c, rfl, ?_⟩
      by_contra hplain
      unfold Page.escape? at h
      dsimp only at h
      rw [if_neg hplain] at h
      split at h <;> cases h

namespace Page

section
variable {p : Page} {indent : Nat} {fold : Bool}

theorem foldDouble_written (hindented : p.indented = false) (next : Option Point) :
    (p.foldDouble indent next).written = (if next = some (.char ' ') then ['\\'] else []) ++
      (List.replicate indent ' ' ++ '\n' :: '\\' :: p.written) := by
  unfold foldDouble
  dsimp only
  rw [indent_newLine (p := p.put ['\\']) (.inl hindented)]
  by_cases hnext : next = some (.char ' ') <;> simp [hnext, inText, put]

theorem foldDouble_column (hindented : p.indented = false) (indent : Nat) (next : Option Point) :
    (p.foldDouble indent next).column ≤ indent + 1 ∧
      (p.foldDouble indent next).indented = false := by
  unfold foldDouble
  dsimp only
  rw [indent_newLine (p := p.put ['\\']) (.inl hindented)]
  by_cases hnext : next = some (.char ' ') <;> simp [hnext, inText, put]

/-- What has been written of a text between double quotes, and what still has to be. -/
structure AddsDouble (indent : Nat) (fold : Bool) (p : Page) (before : List Char)
    (points : List Point) (q : Page) (w : List Char) : Prop where
  written : q.written = w.reverse ++ (before ++ p.written)
  double : Double indent points w
  /-- Where there is room on the line, it is not ended in front of a space. -/
  space : ∀ ps, points = .char ' ' :: ps → p.column + before.length ≤ lineWidth →
    ∃ v, w = ' ' :: v ∧ Double indent ps v
  oneLine : fold = false → IsOneLine w

theorem isOneLine_of_isInk {cs : List Char} (h : ∀ c ∈ cs, isInk c = true) : IsOneLine cs := by
  intro c hc
  have hink := h c hc
  simp only [isInk, Bool.and_eq_true, Bool.not_eq_true'] at hink
  exact hink.2

/-- The line is ended in front of a point that stands for itself. -/
theorem adds_foldPlain {before : List Char} {c : Char} {points : List Point} {q : Page}
    {w : List Char} (hindented : p.indented = false) (hplain : isDoublePlain c = true)
    (hfull : lineWidth < p.column + before.length) (hfold : fold = true)
    (h : AddsDouble indent fold ((p.put before.reverse).foldDouble indent (some (.char c))) [c]
      points q w) :
    ∃ v, AddsDouble indent fold p before (.char c :: points) q v := by
  have hwritten := h.written
  rw [foldDouble_written (p := p.put before.reverse) hindented] at hwritten
  by_cases hc : c = ' '
  · subst hc
    refine ⟨'\\' :: '\n' :: (List.replicate indent ' ' ++ '\\' :: ' ' :: w), ?_,
      .fold (isSolid_cons.mpr rfl) (.slashed h.double), fun _ _ hroom => by omega, by simp [hfold]⟩
    rw [hwritten]
    simp [put]
  · refine ⟨'\\' :: '\n' :: (List.replicate indent ' ' ++ c :: w), ?_,
      .fold ?_ (.plain hplain h.double), fun _ _ hroom => by omega, by simp [hfold]⟩
    · rw [hwritten]
      simp [put, hc]
    · refine isSolid_cons.mpr (Bool.eq_false_iff.mpr fun hgap => hc ?_)
      exact eq_space_of_isDoublePlain hplain hgap

/-- The line is ended behind an escape. -/
theorem adds_foldEscape {before cs : List Char} {point : Point} {points : List Point} {q : Page}
    {w : List Char} (hindent : indent < lineWidth) (hindented : p.indented = false)
    (hescape : escape? point = some cs) (hfold : fold = true)
    (h : AddsDouble indent fold (((p.put before.reverse).put cs).foldDouble indent points.head?) []
      points q w) :
    ∃ v, AddsDouble indent fold p before (point :: points) q v := by
  have hwritten := h.written
  have hput : ((p.put before.reverse).put cs).indented = false := hindented
  have hcolumn := (foldDouble_column hput indent points.head?).1
  rw [foldDouble_written hput] at hwritten
  have hno {v : List Char} : ∀ ps, point :: points = .char ' ' :: ps →
      p.column + before.length ≤ lineWidth → ∃ v', v = ' ' :: v' ∧ Double indent ps v' := by
    intro ps heq
    obtain rfl := (List.cons.inj heq).1
    cases hescape
  by_cases hhead : points.head? = some (.char ' ')
  · obtain ⟨ps, rfl⟩ := List.head?_eq_some_iff.mp hhead
    obtain ⟨v, rfl, hv⟩ := h.space ps rfl (by simpa using le_trans hcolumn hindent)
    refine ⟨cs ++ '\\' :: '\n' :: (List.replicate indent ' ' ++ '\\' :: ' ' :: v), ?_,
      .escape hescape (.fold (isSolid_cons.mpr rfl) (.slashed hv)), hno, by simp [hfold]⟩
    rw [hwritten]
    simp [put]
  · refine ⟨cs ++ '\\' :: '\n' :: (List.replicate indent ' ' ++ w), ?_,
      .escape hescape (.fold (h.double.isSolid hhead) h.double), hno, by simp [hfold]⟩
    rw [hwritten]
    simp [put, hhead]

/-- The points of a text between double quotes. -/
theorem adds_doublePoints (hindent : indent < lineWidth) (fold : Bool) (points : List Point)
    (first : Bool) (before : List Char) (hindented : p.indented = false) :
    ∃ w, AddsDouble indent fold p before points (doublePoints indent fold first before p points) w := by
  induction points generalizing first before p with
  | nil => exact ⟨[], by simp [doublePoints, put], .done, by simp, fun _ => by simp [IsOneLine]⟩
  | cons point points ih =>
      rw [doublePoints]
      cases hescape : escape? point with
      | none =>
          obtain ⟨c, rfl, hplain⟩ := escape?_eq_none hescape
          simp only [Option.isNone_none, ↓reduceIte]
          split
          · rename_i hfold
            simp only [Bool.and_eq_true, decide_eq_true_eq] at hfold
            obtain ⟨w, hw⟩ := ih false [c] (p := (p.put before.reverse).foldDouble indent
              (some (.char c))) (foldDouble_column (p := p.put before.reverse) hindented _ _).2
            exact adds_foldPlain hindented hplain hfold.2 hfold.1.1.1.1 hw
          · obtain ⟨w, hw⟩ := ih false (c :: before) hindented
            refine ⟨c :: w, ?_, .plain hplain hw.double, ?_, fun hf => ?_⟩
            · rw [List.reverse_cons, List.append_assoc]
              exact hw.written
            · rintro ps heq -
              obtain ⟨hc, rfl⟩ := List.cons.inj heq
              obtain rfl := Point.char.inj hc
              exact ⟨w, rfl, hw.double⟩
            · exact isOneLine_append (v := [c]).mpr
                ⟨isOneLine_of_isInk (by simpa using isInk_of_isDoublePlain hplain), hw.oneLine hf⟩
      | some cs =>
          simp only [Option.isNone_some, Bool.false_eq_true, ↓reduceIte]
          split
          · rename_i hfold
            simp only [Bool.and_eq_true] at hfold
            obtain ⟨w, hw⟩ := ih false []
              (p := ((p.put before.reverse).put cs).foldDouble indent points.head?)
              (foldDouble_column (p := (p.put before.reverse).put cs) hindented _ _).2
            exact adds_foldEscape hindent hindented hescape hfold.1.1.1.1 hw
          · obtain ⟨w, hw⟩ := ih false [] (p := (p.put before.reverse).put cs) hindented
            refine ⟨cs ++ w, ?_, .escape hescape hw.double, ?_, fun hf => ?_⟩
            · rw [List.reverse_append, List.append_assoc]
              simpa [put] using hw.written
            · rintro ps heq -
              obtain rfl := (List.cons.inj heq).1
              cases hescape
            · exact isOneLine_append.mpr ⟨isOneLine_of_isInk (isInk_escape? hescape), hw.oneLine hf⟩

end

end Page

/-! ## What begins a plain text -/

/-- A text that is written plain and what is written begin with the same word. -/
theorem Plain.exists_word {indent : Nat} {t w : List Char} (h : Plain indent t w) :
    ∃ cs t' w', IsWord cs ∧ t = cs ++ t' ∧ w = cs ++ w' ∧
      (∀ c ∈ t'.head?, isGap c = true) ∧ (∀ c ∈ w'.head?, isGap c = true) := by
  cases h with
  | word hword => exact ⟨_, [], [], hword, by simp, by simp, by simp, by simp⟩
  | spaces n hword h =>
      exact ⟨_, _, _, hword, rfl, rfl, by rintro _ ⟨⟩; rfl, by rintro _ ⟨⟩; rfl⟩
  | fold hword h => exact ⟨_, _, _, hword, rfl, rfl, by rintro _ ⟨⟩; rfl, by rintro _ ⟨⟩; rfl⟩

/-- Characters without gaps begin a word and more if they begin the word. -/
theorem isPrefixOf_append_gap {pre cs after : List Char} (hpre : ∀ c ∈ pre, isGap c = false)
    (hafter : ∀ c ∈ after.head?, isGap c = true) :
    pre.isPrefixOf (cs ++ after) = pre.isPrefixOf cs := by
  induction cs generalizing pre with
  | nil =>
      cases pre with
      | nil => simp
      | cons c pre =>
          cases after with
          | nil => rfl
          | cons d after =>
              have hne : c ≠ d := by
                rintro rfl
                have hgap := hafter c rfl
                rw [hpre c List.mem_cons_self] at hgap
                cases hgap
              simp [List.isPrefixOf, hne]
  | cons d cs ih =>
      cases pre with
      | nil => simp
      | cons c pre =>
          rw [List.cons_append, List.isPrefixOf, List.isPrefixOf,
            ih (List.forall_mem_cons.mp hpre).2]

theorem beginsPlain_of_plain {indent : Nat} {t w : List Char} (h : Plain indent t w)
    (hshown : ∀ c ∈ t, Style.isShown c = true) (hquiet : Style.hasIndicator t = false) :
    BeginsPlain w := by
  obtain ⟨cs, t', w', hword, rfl, rfl, ht', hw'⟩ := h.exists_word
  simp only [Style.hasIndicator, Style.beginsLikeMark, Bool.or_eq_false_iff] at hquiet
  obtain ⟨⟨⟨hdashes, hpoints⟩, hleading⟩, -⟩ := hquiet
  have hdash : ∀ c ∈ "---".toList, isGap c = false := by simp [isGap, isBreak]
  have hpoint : ∀ c ∈ "...".toList, isGap c = false := by simp [isGap, isBreak]
  rw [isPrefixOf_append_gap hdash ht'] at hdashes
  rw [isPrefixOf_append_gap hpoint ht'] at hpoints
  refine ⟨fun c rest hrest => ?_, ?_, ?_⟩
  · obtain ⟨d, more, rfl⟩ := List.exists_cons_of_ne_nil hword.ne_nil
    obtain ⟨rfl, rfl⟩ := List.cons.inj hrest
    rw [List.cons_append, Style.leadingIndicator] at hleading
    simp only [Bool.or_eq_false_iff, Bool.and_eq_false_iff] at hleading
    obtain ⟨hindicator, hgap⟩ := hleading
    by_cases hmark : d = '-' ∨ d = '?' ∨ d = ':'
    · refine .inr ⟨hmark, ?_⟩
      cases more with
      | cons e more =>
          exact ⟨e, _, rfl, hword.solid e (List.mem_cons_of_mem _ List.mem_cons_self)⟩
      | nil =>
          have hall : Option.all Style.isSpace t'.head? = true := by
            rw [Option.all_eq_true]
            intro e he
            rw [isSpace_of_isShown (hshown e (List.mem_append_right _ (List.mem_of_mem_head? he))),
              ← isGap_of_isShown (hshown e (List.mem_append_right _ (List.mem_of_mem_head? he)))]
            exact ht' e he
          rw [List.nil_append, hall] at hgap
          have hno := hgap.resolve_right (by decide)
          simp only [beq_eq_false_iff_ne] at hno
          rcases hmark with h | h | h
          · exact absurd h hno.2
          · exact absurd h hno.1.1
          · exact absurd h hno.1.2
    · refine .inl ?_
      push Not at hmark
      simp only [String.reduceToList, List.contains_eq_mem, decide_eq_false_iff_not, List.mem_cons,
        List.not_mem_nil, or_false, not_or] at hindicator
      simp [Scanner.isIndicator, hindicator, hmark]
  · rwa [isPrefixOf_append_gap hdash hw']
  · rwa [isPrefixOf_append_gap hpoint hw']

/-- A text without indicators has none behind a blank either. -/
theorem innerIndicator_of_hasIndicator {t : List Char} (h : Style.hasIndicator t = false) :
    Style.innerIndicator true t = false := by
  cases t with
  | nil => rfl
  | cons c t =>
      simp only [Style.hasIndicator, Style.leadingIndicator, Bool.or_eq_false_iff] at h
      obtain ⟨⟨-, hfirst, hgap⟩, hrest⟩ := h
      have hmark : (c == '#') = false := by
        refine beq_eq_false_iff_ne.mpr ?_
        rintro rfl
        exact absurd hfirst (by simp)
      have hcolon : (c == ':' && t.head?.all Style.isSpace) = false := by
        rw [Bool.and_eq_false_iff] at hgap ⊢
        refine hgap.imp_left fun h => ?_
        simp only [Bool.or_eq_false_iff] at h
        exact h.1.2
      rw [Style.innerIndicator, hcolon, hmark, hrest]
      rfl

/-! ## Scalars -/

theorem isShown_of_isInk {c : Char} (h : isInk c = true) : Style.isShown c = true := by
  rw [isInk, Bool.and_eq_true] at h
  exact h.1

theorem isShown_line {n : Nat} {w : List Char} (h : ∀ c ∈ w, Style.isShown c = true) :
    ∀ c ∈ '\n' :: (List.replicate n ' ' ++ w), Style.isShown c = true := by
  refine List.forall_mem_cons.mpr ⟨rfl, List.forall_mem_append.mpr ⟨fun c hc => ?_, h⟩⟩
  rw [List.eq_of_mem_replicate hc]
  rfl

theorem Plain.isShown {indent : Nat} {t w : List Char} (h : Plain indent t w)
    (ht : ∀ c ∈ t, Style.isShown c = true) : ∀ c ∈ w, Style.isShown c = true := by
  induction h with
  | word hword => exact ht
  | spaces n hword h ih =>
      obtain ⟨hcs, ht⟩ := List.forall_mem_append.mp ht
      obtain ⟨hspaces, ht⟩ := List.forall_mem_append.mp ht
      exact List.forall_mem_append.mpr ⟨hcs, List.forall_mem_append.mpr ⟨hspaces, ih ht⟩⟩
  | fold hword h ih =>
      obtain ⟨hcs, ht⟩ := List.forall_mem_append.mp ht
      exact List.forall_mem_append.mpr
        ⟨hcs, isShown_line (ih (List.forall_mem_cons.mp ht).2)⟩

theorem Single.isShown {indent : Nat} {t w : List Char} (h : Single indent t w)
    (ht : ∀ c ∈ t, Style.isShown c = true) : ∀ c ∈ w, Style.isShown c = true := by
  induction h with
  | done => exact ht
  | quote h ih =>
      have hrest := ih (List.forall_mem_cons.mp ht).2
      exact List.forall_mem_cons.mpr ⟨rfl, List.forall_mem_cons.mpr ⟨rfl, hrest⟩⟩
  | shown hquote hgap h ih =>
      obtain ⟨hc, ht⟩ := List.forall_mem_cons.mp ht
      exact List.forall_mem_cons.mpr ⟨hc, ih ht⟩
  | spaces n hsolid h ih =>
      obtain ⟨hspaces, ht⟩ := List.forall_mem_append.mp ht
      exact List.forall_mem_append.mpr ⟨hspaces, ih ht⟩
  | fold hsolid h ih => exact isShown_line (ih (List.forall_mem_cons.mp ht).2)
  | breaks bs hbs hsolid h ih =>
      obtain ⟨hbs, ht⟩ := List.forall_mem_append.mp ht
      refine List.forall_mem_append.mpr ⟨List.forall_mem_append.mpr ⟨fun c hc => ?_, hbs⟩,
        (List.forall_mem_cons.mp (isShown_line (ih ht))).2⟩
      split at hc
      · rw [List.mem_singleton.mp hc]
        rfl
      · cases hc

theorem Double.isShown {indent : Nat} {ps : List Point} {w : List Char} (h : Double indent ps w) :
    ∀ c ∈ w, Style.isShown c = true := by
  induction h with
  | done => simp
  | plain hplain h ih =>
      exact List.forall_mem_cons.mpr ⟨isShown_of_isInk (isInk_of_isDoublePlain hplain), ih⟩
  | escape hescape h ih =>
      exact List.forall_mem_append.mpr ⟨fun c hc => isShown_of_isInk (isInk_escape? hescape c hc), ih⟩
  | slashed h ih => exact List.forall_mem_cons.mpr ⟨rfl, List.forall_mem_cons.mpr ⟨rfl, ih⟩⟩
  | fold hw h ih => exact List.forall_mem_cons.mpr ⟨rfl, isShown_line ih⟩

/-- Of the characters, none is lost when they are taken out of a text of characters. -/
theorem filterMap_char?_ofChars (cs : List Char) :
    (Text.ofChars cs).points.filterMap Point.char? = cs := by
  simp [Text.ofChars, List.filterMap_map, Function.comp_def, Point.char?]

theorem eq_ofChars_of_chars? {t : Text} {cs : List Char} (h : t.chars? = some cs) :
    t = .ofChars cs := by
  have hhalves : t.hasHalves = false := by
    refine Bool.eq_false_iff.mpr fun hhalves => ?_
    rw [(Text.chars?_eq_none_iff t).mpr hhalves] at h
    cases h
  obtain ⟨cs', rfl⟩ := Text.exists_eq_ofChars hhalves
  rw [Text.chars?_ofChars] at h
  rw [Option.some.inj h]

namespace Page

section
variable {p : Page} {indent : Nat} {key : Bool} {cs : List Char} {t : Text}

/-- What is written in front of a scalar. -/
def gap (p : Page) : List Char := if p.blank then [] else [' ']

theorem adds_indicator (cs : List Char) : Adds p (p.indicator cs false false) (p.gap ++ cs) := by
  refine ⟨?_, rfl, Bool.and_false _⟩
  unfold indicator gap
  cases p.blank <;> simp [put]

/-- What is written of a scalar. -/
structure AddsScalar (indent : Nat) (t : Text) (key : Bool) (p q : Page) (plain : Bool)
    (w : List Char) : Prop where
  written : Written indent t plain w
  shown : ∀ c ∈ w, Style.isShown c = true
  oneLine : key = true → IsOneLine w
  adds : Adds p q (p.gap ++ w)

theorem addsScalar_plain (hindent : indent ≤ lineWidth) (himplicit : Tag.implicit (.ofChars cs) = .text)
    (hplain : Style.allowsPlain cs = true) :
    ∃ w, AddsScalar indent (.ofChars cs) key p (p.plain cs indent (!key)) true w := by
  have hne : cs ≠ [] := by
    rintro rfl
    exact absurd himplicit (by decide)
  obtain ⟨c, rest, rfl⟩ := List.exists_cons_of_ne_nil hne
  simp only [Style.allowsPlain, Bool.not_eq_true', Bool.or_eq_false_iff] at hplain
  obtain ⟨⟨⟨⟨hfirst, hlast⟩, hbreak⟩, hshown⟩, hquiet⟩ := hplain
  have hshown : ∀ d ∈ c :: rest, Style.isShown d = true := by simpa using hshown
  have hbreaks : ∀ d ∈ c :: rest, Style.isFoldable d = false := by
    simpa [Style.hasBreak] using hbreak
  have hfirst : isInner c = true := by
    simp only [List.head?_cons, Option.any_some, Style.isBlankOrBreak, Bool.or_eq_false_iff,
      beq_eq_false_iff_ne] at hfirst
    exact isInner_eq_true.mpr hfirst
  have hlast : (c :: rest).getLast? ≠ some ' ' := by
    intro h
    rw [h] at hlast
    cases hlast
  have hgap : Adds p (if p.blank then p else p.put [' ']).inText p.gap := by
    refine ⟨?_, rfl, rfl⟩
    unfold gap
    cases p.blank <;> rfl
  obtain ⟨w, hw, -, hplain, hsame⟩ := adds_plainPieces hindent (pieces_ofText (c :: rest)) hshown
    hbreaks hlast (innerIndicator_of_hasIndicator hquiet) (!key) hgap.blank hgap.indented
  have hplain := hplain rfl ⟨c, rfl, hfirst⟩
  refine ⟨w, .plain rfl himplicit (beginsPlain_of_plain hplain hshown hquiet) hplain,
    hplain.isShown hshown, fun hkey => ?_, hgap.trans hw⟩
  rw [hsame (by simp [hkey])]
  intro d hd
  have hfold := hbreaks d hd
  have hreturn : (d == '\r') = false := beq_eq_false_iff_ne.mpr (by
    rintro rfl
    exact absurd (hshown _ hd) (by decide))
  simp only [Style.isFoldable, Bool.or_eq_false_iff] at hfold
  simp [isBreak, hfold, hreturn]

theorem addsScalar_single (hindent : indent ≤ lineWidth) (hsingle : Style.allowsSingle cs = true)
    (hkey : key = true → Style.hasBreak cs = false) (hnext : '\x85' ∉ cs) :
    ∃ w, AddsScalar indent (.ofChars cs) key p (p.single cs indent (!key)) false w := by
  simp only [Style.allowsSingle, Bool.not_eq_true', Bool.or_eq_false_iff] at hsingle
  obtain ⟨⟨hbehind, hbefore⟩, hshown⟩ := hsingle
  have hshown : ∀ c ∈ cs, Style.isShown c = true := by simpa using hshown
  obtain ⟨w, hw, hsingle, hline⟩ := written_singlePieces hindent (!key) (pieces_ofText cs) hshown
    hnext ⟨isChain_of_hasPair hbehind, isChain_of_hasPair hbefore⟩
    (p.indicator ['\''] false false) false
  refine ⟨'\'' :: (w ++ ['\'']), .single rfl hsingle, ?_, fun hkey' => ?_, ?_, rfl, rfl⟩
  · exact List.forall_mem_cons.mpr ⟨rfl, List.forall_mem_append.mpr ⟨hsingle.isShown hshown,
      by simp; rfl⟩⟩
  · have hbreaks : ∀ c ∈ cs, Style.isFoldable c = false := by
      simpa [Style.hasBreak] using hkey hkey'
    exact isOneLine_append (v := ['\'']).mpr ⟨by simp [IsOneLine, isBreak],
      isOneLine_append.mpr ⟨hline (by simp [hkey']) hbreaks, by simp [IsOneLine, isBreak]⟩⟩
  · show '\'' :: (singlePieces _ _ _ _ _).written = _
    rw [hw, (adds_indicator ['\'']).written]
    simp

theorem addsScalar_double (hindent : indent < lineWidth) :
    ∃ w, AddsScalar indent t key p (p.double t indent (!key)) false w := by
  have hmark := adds_indicator (p := p) ['"']
  obtain ⟨w, hw⟩ := adds_doublePoints hindent (!key) t.points true [] hmark.indented
  refine ⟨'"' :: (w ++ ['"']), .double hw.double, ?_, fun hkey => ?_, ?_, rfl, rfl⟩
  · exact List.forall_mem_cons.mpr ⟨rfl, List.forall_mem_append.mpr ⟨hw.double.isShown,
      by simp; rfl⟩⟩
  · exact isOneLine_append (v := ['"']).mpr ⟨by simp [IsOneLine, isBreak],
      isOneLine_append.mpr ⟨hw.oneLine (by simp [hkey]), by simp [IsOneLine, isBreak]⟩⟩
  · show '"' :: (doublePoints _ _ _ _ _ _).written = _
    rw [hw.written, hmark.written]
    simp

/-- **A text is written in a style that it can be read back from.** -/
theorem addsScalar_scalarValue {level : Option Nat} (hlevel : below level step < lineWidth)
    (hnext : Style.ofText t (Tag.implicit t != .text) key = .single → .char '\x85' ∉ t.points) :
    ∃ plain w, AddsScalar (below level step) t key p (p.scalarValue level key .text t) plain w := by
  unfold scalarValue scalar
  rw [if_pos (by decide)]
  unfold Style.ofText at hnext ⊢
  cases hchars : t.chars? with
  | none => exact ⟨false, addsScalar_double hlevel⟩
  | some cs =>
      obtain rfl := eq_ofChars_of_chars? hchars
      rw [filterMap_char?_ofChars]
      rw [hchars] at hnext
      simp only [Option.map_some, Option.getD_some, Style.ofChars] at hnext ⊢
      by_cases hplain : (!(Tag.implicit (.ofChars cs) != .text) && Style.allowsPlain cs &&
          !(key && cs.isEmpty)) = true
      · rw [if_pos hplain]
        simp only [Bool.and_eq_true, Bool.not_eq_true', bne_eq_false_iff_eq] at hplain
        exact ⟨true, addsScalar_plain hlevel.le hplain.1.1 hplain.1.2⟩
      · rw [if_neg hplain] at hnext ⊢
        by_cases hsingle : (Style.allowsSingle cs && !(key && Style.hasBreak cs)) = true
        · rw [if_pos hsingle] at hnext ⊢
          simp only [Bool.and_eq_true, Bool.not_eq_true', Bool.and_eq_false_iff] at hsingle
          refine ⟨false, addsScalar_single hlevel.le hsingle.1 (fun hkey => ?_) fun hmem => ?_⟩
          · exact hsingle.2.resolve_left (by simp [hkey])
          · exact hnext rfl (List.mem_map_of_mem hmem)
        · rw [if_neg hsingle]
          exact ⟨false, addsScalar_double hlevel⟩

end

end Page

end Casebook.Yaml

import Casebook.Proofs.Yaml.Cursor
import Casebook.Yaml.Scalar

/-!
# Reading plain scalars

A plain scalar is a row of words with spaces between them, where a single space may be a line end
with indentation behind it. It ends at a colon in front of a gap, or at a line that is less
indented. Main statement: `Plain.scan`, the text comes back wherever its lines are folded.
-/

namespace Casebook.Yaml

/-- A run of characters without gaps in which no indicator stands out. -/
structure IsWord (cs : List Char) : Prop where
  ne_nil : cs ≠ []
  solid : ∀ ch ∈ cs, isGap ch = false
  head : cs.head? ≠ some '#'
  last : cs.getLast? ≠ some ':'

/-- Characters for a text that is written plain. -/
inductive Plain (indent : Nat) : List Char → List Char → Prop
  | word {cs} : IsWord cs → Plain indent cs cs
  | spaces {cs t w} (n : Nat) : IsWord cs → Plain indent t w →
      Plain indent (cs ++ (List.replicate (n + 1) ' ' ++ t))
        (cs ++ (List.replicate (n + 1) ' ' ++ w))
  | fold {cs t w} : IsWord cs → Plain indent t w →
      Plain indent (cs ++ ' ' :: t) (cs ++ '\n' :: (List.replicate indent ' ' ++ w))

theorem IsWord.isOneLine {cs : List Char} (h : IsWord cs) : IsOneLine cs := by
  intro ch hch
  have hgap := h.solid ch hch
  simp only [isGap, Bool.or_eq_false_iff] at hgap
  exact hgap.2

theorem IsWord.exists_cons {cs : List Char} (h : IsWord cs) :
    ∃ ch rest, cs = ch :: rest ∧ isGap ch = false ∧ ch ≠ '#' := by
  obtain ⟨ch, rest, rfl⟩ := List.exists_cons_of_ne_nil h.ne_nil
  exact ⟨ch, rest, rfl, h.solid ch List.mem_cons_self, fun hmark => h.head (congrArg some hmark)⟩

/-- What is written begins with a word. -/
theorem Plain.exists_cons {indent : Nat} {t w : List Char} (h : Plain indent t w) :
    ∃ ch rest, w = ch :: rest ∧ isGap ch = false ∧ ch ≠ '#' := by
  cases h with
  | word hword => exact hword.exists_cons
  | spaces n hword h | fold hword h =>
      obtain ⟨ch, rest, rfl, hch⟩ := hword.exists_cons
      exact ⟨ch, _, rfl, hch⟩

/-! ## Words -/

/-- The characters end a word: a gap comes first, or a colon in front of one. -/
def EndsWord (cs : List Char) : Prop :=
  (∀ ch ∈ cs.head?, isGap ch = true) ∨
    ∃ rest, cs = ':' :: rest ∧ ∀ ch ∈ rest.head?, isGap ch = true

theorem plainLength_of_endsWord {cs : List Char} (h : EndsWord cs) : plainLength false cs = 0 := by
  rcases h with h | ⟨rest, rfl, hrest⟩
  · cases cs with
    | nil => rfl
    | cons ch cs => rw [plainLength, if_pos (by simp [h ch rfl])]
  · rw [plainLength, if_pos]
    cases rest with
    | nil => rfl
    | cons ch rest => simp [hrest ch rfl]

theorem plainLength_append {cs after : List Char} (hsolid : ∀ ch ∈ cs, isGap ch = false)
    (hlast : cs.getLast? ≠ some ':') (hafter : EndsWord after) :
    plainLength false (cs ++ after) = cs.length := by
  induction cs with
  | nil => exact plainLength_of_endsWord hafter
  | cons ch cs ih =>
      obtain ⟨hch, hcs⟩ := List.forall_mem_cons.mp hsolid
      have hcolon : (ch == ':' && (cs ++ after).head?.all fun d =>
          isGap d || (false && isFlowIndicator d)) = false := by
        by_cases hch : ch = ':'
        · subst hch
          obtain ⟨d, rest, rfl⟩ := List.exists_cons_of_ne_nil
            (show cs ≠ [] by rintro rfl; exact hlast rfl)
          simp [hcs d List.mem_cons_self]
        · simp [hch]
      rw [List.cons_append, plainLength, if_neg (by rw [hch, hcolon]; simp), List.length_cons,
        ih hcs]
      cases cs with
      | nil => simp
      | cons d rest => rwa [List.getLast?_cons_cons] at hlast

/-! ## Between words -/

section
variable {c : Cursor} {cs after : List Char} {n : Nat}

theorem plainSpaces_spaces (hrest : c.rest = List.replicate n ' ' ++ cs) (hcs : IsSolid cs) :
    plainSpaces c = (⟨List.replicate n ' ', c.skip n⟩, false) := by
  have hspan := Cursor.span_spaces hrest (ne_space_of_isSolid hcs)
  have hskip : (c.skip n).rest = cs := by
    rw [Cursor.skip_rest, hrest]
    exact List.drop_left' List.length_replicate
  unfold plainSpaces
  rw [hspan]
  dsimp only
  rw [List.length_replicate, Cursor.takeBreak_eq_none (hskip ▸ isBreak_of_isSolid hcs)]

theorem plainBreaks_spaces (hrest : c.rest = List.replicate n ' ' ++ cs) (hcs : IsSolid cs)
    {fuel : Nat} (hfuel : n < fuel) (read : List Char) :
    plainBreaks fuel c read = (read.reverse, c.skip n, false) := by
  induction n generalizing c fuel with
  | zero =>
      obtain ⟨fuel, rfl⟩ := Nat.exists_eq_succ_of_ne_zero (Nat.ne_zero_of_lt hfuel)
      replace hrest : c.rest = cs := hrest
      have hpeek : ¬ (c.peek == some ' ') = true := by
        rw [beq_iff_eq, Cursor.peek, hrest]
        exact fun h => ne_space_of_isSolid hcs ' ' h rfl
      rw [plainBreaks, if_neg hpeek,
        Cursor.takeBreak_eq_none (hrest.symm ▸ isBreak_of_isSolid hcs)]
      rfl
  | succ n ih =>
      obtain ⟨fuel, rfl⟩ := Nat.exists_eq_succ_of_ne_zero (Nat.ne_zero_of_lt hfuel)
      rw [List.replicate_succ, List.cons_append] at hrest
      rw [plainBreaks, if_pos (by rw [Cursor.peek, hrest]; rfl),
        ih (by rw [Cursor.next_rest, hrest]; rfl) (by omega), Cursor.skip_succ]

/-- A line end, and the indentation of the next line. -/
theorem plainSpaces_line (hrest : c.rest = '\n' :: (List.replicate n ' ' ++ cs)) (hcs : IsSolid cs)
    (hsound : c.IsSound) :
    ∃ chars, plainSpaces c = (⟨chars, c.skip (1 + n)⟩, true) ∧
      (0 < n → chars = [' ']) ∧ (chars = [] ∨ (c.skip (1 + n)).column = n) := by
  have hspan : c.span (· == ' ') = [] := by
    refine Cursor.span_eq_nil fun ch hch => ?_
    rw [hrest] at hch
    cases hch
    rfl
  have hnext : c.next.rest = List.replicate n ' ' ++ cs := by
    rw [Cursor.next_rest, hrest, List.tail_cons]
  have hskip : c.skip (1 + n) = c.next.skip n := by rw [Nat.add_comm, Cursor.skip_succ]
  have hleft : n < c.next.left + 1 := by
    rw [hsound.next.left, hnext, List.length_append, List.length_replicate]
    omega
  unfold plainSpaces
  rw [hspan]
  dsimp only
  rw [List.length_nil, Cursor.skip, Cursor.takeBreak_kept hrest rfl]
  dsimp only
  rw [hskip]
  split
  · next hseparator =>
    -- Only a line that is not indented can be a separator.
    rcases n with _ | n
    · exact ⟨[], rfl, fun hn => absurd hn (Nat.lt_irrefl 0), .inl rfl⟩
    · rw [Cursor.atSeparator_eq_false] at hseparator
      · cases hseparator
      · rw [hnext]
        rintro ch ⟨⟩
        decide
  · rw [plainBreaks_spaces hnext hcs hleft]
    refine ⟨[' '], rfl, fun _ => rfl, .inr ?_⟩
    rw [Cursor.skip_spaces_column hnext, (Cursor.next_lineFeed hrest).2, Nat.zero_add]

end

/-! ## Where plain text stops -/

/-- Behind a word, plain text stops after so many of the characters: no more text follows there,
or none that is indented enough. -/
def StopsPlain (margin : Nat) (after : List Char) (n : Nat) (broke : Bool) : Prop :=
  EndsWord after ∧ ∀ c : Cursor, c.IsSound → c.rest = after →
    ∃ chars, plainSpaces c = (⟨chars, c.skip n⟩, broke) ∧
      (chars = [] ∨ (c.skip n).column < margin)

/-- A colon in front of a gap stops plain text. -/
theorem stopsPlain_colon (margin : Nat) {after : List Char}
    (hafter : ∀ ch ∈ after.head?, isGap ch = true) :
    StopsPlain margin (':' :: after) 0 false :=
  ⟨.inr ⟨after, rfl, hafter⟩, fun _ _ hrest =>
    ⟨[], plainSpaces_spaces (n := 0) hrest (isSolid_cons.mpr rfl), .inl rfl⟩⟩

/-- A line that is less indented stops plain text. -/
theorem stopsPlain_line {margin n : Nat} (hn : n < margin) {after : List Char}
    (hafter : IsSolid after) :
    StopsPlain margin ('\n' :: (List.replicate n ' ' ++ after)) (1 + n) true := by
  refine ⟨.inl (by rintro ch ⟨⟩; rfl), fun c hsound hrest => ?_⟩
  obtain ⟨chars, hspaces, -, hchars⟩ := plainSpaces_line hrest hafter hsound
  exact ⟨chars, hspaces, hchars.imp_right fun hcolumn => by omega⟩

section
variable {margin fuel n : Nat} {c : Cursor} {cs after read spaces chars out : List Char}
  {behind : Cursor} {broke broke' : Bool}

/-- One step of reading plain text takes a word and what stands behind it. -/
theorem plainFrom_word (hword : IsWord cs) (hrest : c.rest = cs ++ after) (hafter : EndsWord after)
    (hspaces : plainSpaces (c.skip cs.length) = (⟨chars, (c.skip cs.length).skip n⟩, broke')) :
    plainFrom false margin (fuel + 1) c read spaces broke =
      if chars.isEmpty || (c.skip (cs.length + n)).peek == some '#' ||
          (c.skip (cs.length + n)).column < margin then
        (⟨read ++ spaces ++ cs, c.skip (cs.length + n)⟩, broke')
      else plainFrom false margin fuel (c.skip (cs.length + n)) (read ++ spaces ++ cs) chars
        broke' := by
  obtain ⟨ch, rest, rfl, -, hmark⟩ := hword.exists_cons
  have hpeek : ¬ (c.peek == some '#') = true := by
    rw [beq_iff_eq, Cursor.peek, hrest]
    exact fun h => hmark (Option.some.inj h)
  rw [plainFrom, if_neg hpeek, hrest, plainLength_append hword.solid hword.last hafter,
    if_neg (by simp), List.take_left, hspaces, ← Cursor.skip_add]
  simp

/-- From the cursor on, whatever bound there is on the steps, plain text is read up to its end. -/
def ReadsPlain (margin : Nat) (c : Cursor) (out : List Char) (behind : Cursor) (broke : Bool) :
    Prop :=
  ∀ fuel read spaces broke', c.rest.length < fuel →
    plainFrom false margin fuel c read spaces broke' = (⟨read ++ spaces ++ out, behind⟩, broke)

/-- Plain text goes on behind a word if what follows is not less indented. -/
theorem ReadsPlain.word (hword : IsWord cs) (hrest : c.rest = cs ++ after)
    (hafter : EndsWord after)
    (hspaces : plainSpaces (c.skip cs.length) = (⟨chars, (c.skip cs.length).skip n⟩, broke'))
    (hchars : chars ≠ []) (hpeek : (c.skip (cs.length + n)).peek ≠ some '#')
    (hcolumn : margin ≤ (c.skip (cs.length + n)).column)
    (h : ReadsPlain margin (c.skip (cs.length + n)) out behind broke) :
    ReadsPlain margin c (cs ++ (chars ++ out)) behind broke := by
  intro fuel read spaces broke'' hfuel
  obtain ⟨fuel, rfl⟩ := Nat.exists_eq_succ_of_ne_zero (Nat.ne_zero_of_lt hfuel)
  have hlength : (c.skip (cs.length + n)).rest.length < fuel := by
    have hcs := List.length_pos_of_ne_nil hword.ne_nil
    rw [hrest, List.length_append] at hfuel
    rw [Cursor.skip_add, Cursor.skip_rest, Cursor.skip_rest_append hrest, List.length_drop]
    omega
  rw [plainFrom_word hword hrest hafter hspaces, if_neg, h _ _ _ _ hlength]
  · simp only [List.append_assoc]
  · simp [hchars, hpeek, hcolumn]

end

/-- **A text is read back from what is written plain.** -/
theorem Plain.scan {indent margin : Nat} (hindent : 0 < indent) (hmargin : margin ≤ indent)
    {t w : List Char} (h : Plain indent t w) {after : List Char} {n : Nat} {broke : Bool}
    (hafter : StopsPlain margin after n broke) {c : Cursor} (hsound : c.IsSound)
    (hcolumn : margin ≤ c.column + 1) (hrest : c.rest = w ++ after) :
    scanPlain false margin c = (⟨t, c.skip (w.length + n)⟩, broke) := by
  suffices hreads : ReadsPlain margin c t (c.skip (w.length + n)) broke from
    hreads _ [] [] false (by rw [hsound.left]; omega)
  induction h generalizing c with
  | @word cs hword =>
      -- the last word: what follows stops the text
      intro fuel read spaces broke' hfuel
      obtain ⟨fuel, rfl⟩ := Nat.exists_eq_succ_of_ne_zero (Nat.ne_zero_of_lt hfuel)
      obtain ⟨chars, hspaces, hstop⟩ :=
        hafter.2 (c.skip cs.length) (hsound.skip _) (Cursor.skip_rest_append hrest)
      rw [plainFrom_word hword hrest hafter.1 hspaces, if_pos]
      rw [← Cursor.skip_add] at hstop
      rcases hstop with rfl | hless
      · rfl
      · simp [hless]
  | @spaces cs t w k hword h ih =>
      obtain ⟨ch, rest, hw, hgap, hmark⟩ := h.exists_cons
      have hsolid : IsSolid (w ++ after) := by rw [hw]; exact isSolid_cons.mpr hgap
      rw [List.append_assoc, List.append_assoc] at hrest
      have hbehind : (c.skip cs.length).rest = List.replicate (k + 1) ' ' ++ (w ++ after) :=
        Cursor.skip_rest_append hrest
      have hnext : (c.skip (cs.length + (k + 1))).rest = w ++ after := by
        rw [Cursor.skip_add, Cursor.skip_rest, hbehind]
        exact List.drop_left' List.length_replicate
      have hreached : margin ≤ (c.skip (cs.length + (k + 1))).column := by
        have hword := Cursor.column_le_skip hrest hword.isOneLine
        rw [Cursor.skip_add, Cursor.skip_spaces_column hbehind]
        omega
      have hreads := ih (hsound.skip _) (Nat.le_succ_of_le hreached) hnext
      rw [← Cursor.skip_add] at hreads
      refine ReadsPlain.word hword hrest (.inl (by rintro d ⟨⟩; rfl))
        (plainSpaces_spaces hbehind hsolid) (by simp) ?_ hreached ?_
      · rw [Cursor.peek, hnext, hw]
        exact fun h => hmark (Option.some.inj h)
      · rwa [show (cs ++ (List.replicate (k + 1) ' ' ++ w)).length + n =
          cs.length + (k + 1) + (w.length + n) from by
            simp only [List.length_append, List.length_replicate]; omega]
  | @fold cs t w hword h ih =>
      obtain ⟨ch, rest, hw, hgap, hmark⟩ := h.exists_cons
      have hsolid : IsSolid (w ++ after) := by rw [hw]; exact isSolid_cons.mpr hgap
      rw [List.append_assoc, List.cons_append, List.append_assoc] at hrest
      have hbehind : (c.skip cs.length).rest =
          '\n' :: (List.replicate indent ' ' ++ (w ++ after)) := Cursor.skip_rest_append hrest
      obtain ⟨chars, hspaces, hchars, hline⟩ :=
        plainSpaces_line hbehind hsolid (hsound.skip cs.length)
      obtain rfl := hchars hindent
      have hnext : (c.skip (cs.length + (1 + indent))).rest = w ++ after := by
        rw [Cursor.skip_add, Cursor.skip_rest, hbehind, Nat.add_comm, List.drop_succ_cons]
        exact List.drop_left' List.length_replicate
      -- the next line is indented as far as plain text has to be
      have hreached : margin ≤ (c.skip (cs.length + (1 + indent))).column := by
        rw [Cursor.skip_add, hline.resolve_left (by simp)]
        exact hmargin
      have hreads := ih (hsound.skip _) (Nat.le_succ_of_le hreached) hnext
      rw [← Cursor.skip_add] at hreads
      refine ReadsPlain.word hword hrest (.inl (by rintro d ⟨⟩; rfl)) hspaces (by simp) ?_ hreached
        ?_
      · rw [Cursor.peek, hnext, hw]
        exact fun h => hmark (Option.some.inj h)
      · rwa [show (cs ++ '\n' :: (List.replicate indent ' ' ++ w)).length + n =
          cs.length + (1 + indent) + (w.length + n) from by
            simp only [List.length_append, List.length_cons, List.length_replicate]; omega]

end Casebook.Yaml

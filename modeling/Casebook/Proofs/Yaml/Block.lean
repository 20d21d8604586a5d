import Casebook.Proofs.Yaml.Line

/-!
# Tokens of a block document

How a map of lists of texts is written as a block document, and the tokens that the scanner makes
of it. Main statement: `feeds_entryLines`.
-/

namespace Casebook.Yaml

/-! ## Lines -/

/-- Texts as items behind hyphens at a column, from the first hyphen on. -/
inductive ItemLines (column : Nat) : List Text → List Token → List Char → Prop
  | last {t plain w} : Written (column + 2) t plain w →
      ItemLines column [t] [.entry, .scalar t plain] ('-' :: ' ' :: w)
  | more {t plain w ls ts v} : Written (column + 2) t plain w → ItemLines column ls ts v →
      ItemLines column (t :: ls) ([.entry, .scalar t plain] ++ ts)
        ('-' :: ' ' :: (w ++ '\n' :: (List.replicate column ' ' ++ v)))

/-- A key up to its colon. One that is `apart` stands behind a question mark on lines of its
own. -/
inductive KeyLines (k : Text) : (apart : Bool) → (plain : Bool) → List Char → Prop
  | short {plain w} : Written 2 k plain w → IsOneLine w → w.length ≤ keyLimit →
      KeyLines k false plain (w ++ [':'])
  | long {plain w} : Written 2 k plain w → KeyLines k true plain ('?' :: ' ' :: (w ++ ['\n', ':']))

/-- The texts of an entry behind the colon. -/
inductive ValueLines : (apart : Bool) → List Text → List Token → List Char → Prop
  | empty {apart} : ValueLines apart [] [.flowSequence, .flowSequenceEnd] " []".toList
  | loose {ls ts v} : ItemLines 0 ls ts v → ValueLines false ls ts ('\n' :: v)
  | nested {ls ts v} : ItemLines 2 ls ts v →
      ValueLines true ls (.blockSequence :: (ts ++ [.blockEnd])) (' ' :: v)

/-- The lines of all entries of a map. -/
inductive EntryLines : List (Text × List Text) → List Token → List Char → Prop
  | nil : EntryLines [] [] []
  | cons {k ls es apart plain ts us v w x} : KeyLines k apart plain v → ValueLines apart ls ts w →
      EntryLines es us x →
      EntryLines ((k, ls) :: es) ([.key, .scalar k plain, .value] ++ ts ++ us) (v ++ w ++ '\n' :: x)

theorem ItemLines.exists_cons {column : Nat} {ls : List Text} {ts : List Token} {v : List Char}
    (h : ItemLines column ls ts v) : ∃ rest, v = '-' :: rest := by
  cases h with
  | last _ | more _ _ => exact ⟨_, rfl⟩

theorem ItemLines.isLineStart {column : Nat} {ls : List Text} {ts : List Token} {v : List Char}
    (h : ItemLines column ls ts v) (after : List Char) : IsLineStart (v ++ after) := by
  obtain ⟨rest, rfl⟩ := h.exists_cons
  exact isLineStart_cons rfl (by decide)

theorem ItemLines.tokens {column : Nat} {ls : List Text} {ts : List Token} {v : List Char}
    (h : ItemLines column ls ts v) : ∃ rest, ts = .entry :: rest := by
  cases h with
  | last _ | more _ _ => exact ⟨_, rfl⟩

/-- Every item takes a character. -/
theorem ItemLines.length_le {column : Nat} {ls : List Text} {ts : List Token} {v : List Char}
    (h : ItemLines column ls ts v) : ls.length ≤ v.length := by
  induction h with
  | last _ => exact Nat.succ_le_succ (Nat.zero_le _)
  | more _ _ ih =>
      simp only [List.length_cons, List.length_append]
      omega

theorem ValueLines.length_le {apart : Bool} {ls : List Text} {ts : List Token} {v : List Char}
    (h : ValueLines apart ls ts v) : ls.length ≤ v.length := by
  cases h with
  | empty => exact Nat.zero_le _
  | loose h | nested h => exact Nat.le_succ_of_le h.length_le

theorem KeyLines.length_pos {k : Text} {apart plain : Bool} {v : List Char}
    (h : KeyLines k apart plain v) : 0 < v.length := by
  cases h with
  | short _ _ _ => simp
  | long _ => exact Nat.succ_pos _

theorem KeyLines.implicit {k : Text} {apart plain : Bool} {v : List Char}
    (h : KeyLines k apart plain v) : plain = true → Tag.implicit k = .text := by
  cases h with
  | short hw _ _ | long hw => exact hw.implicit

theorem KeyLines.exists_cons {k : Text} {apart plain : Bool} {v : List Char}
    (h : KeyLines k apart plain v) : ∃ ch rest, v = ch :: rest ∧ isGap ch = false ∧ ch ≠ '#' := by
  cases h with
  | short hw _ _ =>
      obtain ⟨ch, rest, rfl, hch⟩ := hw.exists_cons
      exact ⟨ch, _, rfl, hch⟩
  | long hw => exact ⟨_, _, rfl, rfl, by decide⟩

theorem EntryLines.isLineStart {es : List (Text × List Text)} {ts : List Token} {x : List Char}
    (h : EntryLines es ts x) : IsLineStart x := by
  cases h with
  | nil => exact isLineStart_nil
  | cons hkey _ _ =>
      obtain ⟨ch, rest, rfl, hgap, hmark⟩ := hkey.exists_cons
      exact isLineStart_cons hgap hmark

namespace Scanner

section
variable {c : Cursor} {m n : Nat} {o : List Nat} {ws ts us : List Token} {ls : List Text}
  {v w rest : List Char}

/-- An item at the end of a line. Its block is opened if it stands further in than the one
around it. -/
theorem Continues.item {t : Text} {plain : Bool} (hw : Written (n + 2) t plain w) (hm : m ≤ n + 1)
    (hcolumn : c.column = n) (hsound : c.IsSound) {k : Nat} (hk : k ≤ n)
    (hrest : c.rest = '-' :: ' ' :: (w ++ '\n' :: (List.replicate k ' ' ++ rest)))
    (hstart : IsLineStart rest)
    (h : ((reading (c.skip (2 + (w.length + (1 + k)))) (n + 1) (if m ≤ n then m :: o else o) true []
      (ws ++ (if m ≤ n then [.blockSequence] else []) ++ [.entry, .scalar t plain])).unwind
        (k + 1)).Continues ts) :
    (reading c m o true [] ws).Continues ts := by
  have hnext : c.next.rest = ' ' :: (w ++ '\n' :: (List.replicate k ' ' ++ rest)) := by
    rw [Cursor.next_rest, hrest, List.tail_cons]
  have hone : c.next.column = n + 1 := by
    rw [Cursor.next_column hrest rfl (by decide), hcolumn]
  have htwo : c.next.next.column = n + 2 := by
    rw [Cursor.next_column hnext rfl (by decide), hone]
  have hmargin : (if m ≤ n then n + 1 else m) = n + 1 := by
    split <;> omega
  refine Continues.entry hrest hsound ?_
  rw [hcolumn, hmargin]
  refine Continues.space hnext (hw.isLineStart _) (by omega) hsound.next ?_
  refine Continues.scalar_line (by omega) (Nat.le_succ _) hw (Nat.lt_succ_of_le hk) (by omega)
    hsound.next.next (by rw [Cursor.next_rest, hnext, List.tail_cons]) hstart ?_
  rw [Cursor.skip_add] at h
  rw [List.append_assoc (ws ++ _)]
  exact h

/-- The items of a list. -/
theorem Continues.items (h : ItemLines n ls us v) (hm : m ≤ n + 1) (hcolumn : c.column = n)
    (hsound : c.IsSound) (hrest : c.rest = v ++ '\n' :: rest) (hstart : IsLineStart rest)
    (hnext : ((reading (c.skip (v.length + 1)) (n + 1) (if m ≤ n then m :: o else o) true []
      (ws ++ (if m ≤ n then [.blockSequence] else []) ++ us)).unwind 1).Continues ts) :
    (reading c m o true [] ws).Continues ts := by
  induction h generalizing c m o ws with
  | @last t plain w hw =>
      refine Continues.item hw hm hcolumn hsound (Nat.zero_le n) hrest hstart ?_
      rwa [show 2 + (w.length + (1 + 0)) = ('-' :: ' ' :: w).length + 1 from by
        simp only [List.length_cons]; omega]
  | @more t plain w ls us v hw h ih =>
      have hbehind : c.rest =
          '-' :: ' ' :: (w ++ '\n' :: (List.replicate n ' ' ++ (v ++ '\n' :: rest))) := by
        rw [hrest]
        simp
      refine Continues.item hw hm hcolumn hsound (Nat.le_refl n) hbehind (h.isLineStart _) ?_
      rw [unwind_of_le (Nat.le_refl _)]
      have hend := Cursor.skip_newLine (v := '-' :: ' ' :: w) hbehind
      rw [show ('-' :: ' ' :: w).length + (1 + n) = 2 + (w.length + (1 + n)) from by
        simp only [List.length_cons]; omega] at hend
      refine ih (Nat.le_refl _) hend.2 (hsound.skip _) hend.1 ?_
      -- the first item has opened the block already
      have hopen : ¬ n + 1 ≤ n := Nat.not_succ_le_self n
      rw [if_neg hopen, if_neg hopen, List.append_nil, ← Cursor.skip_add, List.append_assoc]
      rwa [show ('-' :: ' ' :: (w ++ '\n' :: (List.replicate n ' ' ++ v))).length + 1 =
        2 + (w.length + (1 + n)) + (v.length + 1) from by
          simp only [List.length_cons, List.length_append, List.length_replicate]; omega] at hnext

/-- The texts of an entry, behind its colon. -/
theorem Gives.values {apart : Bool} (h : ValueLines apart ls us v) (hpos : 0 < c.column)
    (hcolumn : apart = true → c.column = 1) (hsound : c.IsSound)
    (hrest : c.rest = v ++ '\n' :: rest) (hstart : IsLineStart rest)
    (hnext : (reading (c.skip (v.length + 1)) 1 [0] true [] (ws ++ us)).Continues ts) :
    (reading c 1 [0] apart [] ws).Gives ts := by
  cases h with
  | empty =>
      -- the brackets stand on the line of the colon
      have hbehind : c.next.rest = '[' :: ']' :: '\n' :: rest := by
        rw [Cursor.next_rest, hrest]
        rfl
      have hone : c.next.column = c.column + 1 := Cursor.next_column hrest rfl (by decide)
      refine Continues.space hrest (isLineStart_cons rfl (by decide)) (by omega) hsound ?_
      exact Continues.emptyList hbehind hstart (by omega) (Nat.le_refl 1) hsound.next hnext
  | @loose _ _ v h =>
      -- the items stand at the column of the key, so they open no block
      have hbehind : c.rest = '\n' :: (List.replicate 0 ' ' ++ (v ++ '\n' :: rest)) := hrest
      have hend := Cursor.skip_newLine (v := []) hbehind
      have hsettle : (reading c 1 [0] false [] ws).settle = .ok _ :=
        settle_line hbehind (h.isLineStart _) hsound (by simp)
      rw [unwind_of_le (Nat.le_refl 1)] at hsettle
      refine Continues.gives (Continues.items h (Nat.le_refl 1) hend.2 (hsound.skip _) hend.1 hstart
        ?_) hsettle (left_reading_lt hsound Nat.one_pos (by rw [hrest]; simp)).le rfl
      rw [if_neg (by decide), if_neg (by decide), List.append_nil, unwind_of_le (Nat.le_refl 1),
        ← Cursor.skip_add]
      rwa [show ('\n' :: v).length + 1 = 1 + 0 + (v.length + 1) from by
        simp only [List.length_cons]; omega] at hnext
  | @nested _ us v h =>
      -- the items stand further in than the colon, so they open a block and the next line closes it
      have hbehind : c.next.rest = v ++ '\n' :: rest := by
        rw [Cursor.next_rest, hrest]
        rfl
      have htwo : c.next.column = 2 := by
        rw [Cursor.next_column hrest rfl (by decide), hcolumn rfl]
      refine Continues.space hrest (h.isLineStart _) (by omega) hsound ?_
      refine Continues.items h (by decide) htwo hsound.next hbehind hstart ?_
      rw [if_pos (by decide), if_pos (by decide), unwind_close (by decide) (Nat.le_refl 1)]
      rw [show ws ++ [Token.blockSequence] ++ us ++ [.blockEnd] =
        ws ++ .blockSequence :: (us ++ [.blockEnd]) from by simp]
      exact hnext

/-- A key and its colon. The map is opened by the first key. -/
theorem Continues.keyLines {k : Text} {apart plain : Bool} (h : KeyLines k apart plain v)
    (hm : m ≤ 1) (hcolumn : c.column = 0) (hsound : c.IsSound) (hrest : c.rest = v ++ rest)
    (hgap : ∀ ch ∈ rest.head?, isGap ch = true) (hspace : apart = true → rest.head? = some ' ')
    (hnext : (reading (c.skip v.length) 1 (if m = 0 then m :: o else o) apart []
      (ws ++ (if m = 0 then [.blockMap] else []) ++ [.key, .scalar k plain, .value])).Gives ts) :
    (reading c m o true [] ws).Continues ts := by
  cases h with
  | @short _ w hw hline hlength =>
      rw [List.append_assoc] at hrest
      rw [List.length_append] at hnext
      exact Continues.scalar_key (by decide) hm hcolumn hw hline hlength hsound hrest hgap hnext
  | @long _ w hw =>
      obtain ⟨rest, rfl⟩ : ∃ r, rest = ' ' :: r := by
        have hhead := hspace rfl
        cases rest with
        | nil => cases hhead
        | cons ch r => exact ⟨r, congrArg (· :: r) (Option.some.inj hhead)⟩
      have hfirst : c.rest =
          '?' :: ' ' :: (w ++ '\n' :: (List.replicate 0 ' ' ++ ':' :: ' ' :: rest)) := by
        rw [hrest]
        simp
      have hbehind : c.next.rest =
          ' ' :: (w ++ '\n' :: (List.replicate 0 ' ' ++ ':' :: ' ' :: rest)) := by
        rw [Cursor.next_rest, hfirst, List.tail_cons]
      have hbehind' : c.next.next.rest =
          w ++ '\n' :: (List.replicate 0 ' ' ++ ':' :: ' ' :: rest) := by
        rw [Cursor.next_rest, hbehind, List.tail_cons]
      have hone : c.next.column = 1 := by
        rw [Cursor.next_column hfirst rfl (by decide), hcolumn]
      have htwo : c.next.next.column = 2 := by
        rw [Cursor.next_column hbehind rfl (by decide), hone]
      have hmargin : (if m = 0 then 0 + 1 else m) = 1 := by
        split <;> omega
      obtain ⟨hend, hzero⟩ := Cursor.skip_newLine hbehind'
      refine Continues.key hfirst hsound ?_
      simp only [hcolumn, Nat.le_zero, hmargin]
      refine Continues.space hbehind (hw.isLineStart _) (by omega) hsound.next ?_
      refine Continues.scalar_line (by decide) (by decide) hw Nat.one_pos (by omega)
        hsound.next.next hbehind' (isLineStart_cons rfl (by decide)) ?_
      rw [unwind_of_le (Nat.le_refl 1)]
      refine Continues.value hend (hsound.next.next.skip _) ?_
      have hclosed : ¬ 1 ≤ 0 := by decide
      rw [hzero, if_neg hclosed, if_neg hclosed, if_neg hclosed]
      rw [show ('?' :: ' ' :: (w ++ ['\n', ':'])).length = 2 + (w.length + (1 + 0)) + 1 from by
        simp only [List.length_cons, List.length_append, List.length_nil]; omega,
        Cursor.skip_add, Cursor.skip_add 2] at hnext
      simp only [List.append_assoc, List.cons_append, List.nil_append] at hnext ⊢
      exact hnext

/-- Behind its colon a key leaves the first column, by one if the colon stands on its own. -/
theorem column_behind_keyLines {k : Text} {apart plain : Bool} (h : KeyLines k apart plain v)
    (hrest : c.rest = v ++ rest) :
    0 < (c.skip v.length).column ∧ (apart = true → (c.skip v.length).column = 1) := by
  cases h with
  | @short _ w hw hline hlength =>
      rw [List.append_assoc] at hrest
      have hcolon : (c.skip w.length).next.column = (c.skip w.length).column + 1 :=
        Cursor.next_column (Cursor.skip_rest_append hrest) rfl (by decide)
      rw [List.length_append, Cursor.skip_add]
      show 0 < (c.skip w.length).next.column ∧ _
      exact ⟨by omega, by simp⟩
  | @long _ w hw =>
      have hfirst : c.rest = '?' :: ' ' :: w ++ '\n' :: (List.replicate 0 ' ' ++ ':' :: rest) := by
        rw [hrest]
        simp
      obtain ⟨hend, hzero⟩ := Cursor.skip_newLine hfirst
      have hcolon := Cursor.next_column hend rfl (by decide)
      rw [hzero] at hcolon
      rw [show ('?' :: ' ' :: (w ++ ['\n', ':'])).length =
        ('?' :: ' ' :: w).length + (1 + 0) + 1 from by
          simp only [List.length_cons, List.length_append, List.length_nil], Cursor.skip_add]
      exact ⟨hcolon.symm ▸ Nat.one_pos, fun _ => hcolon⟩

/-- The entries of a map up to the end of the text, which closes it. -/
theorem Continues.entries {es : List (Text × List Text)} (h : EntryLines es us v)
    (hm : (m = 0 ∧ o = [] ∧ es ≠ []) ∨ (m = 1 ∧ o = [0])) (hcolumn : c.column = 0)
    (hsound : c.IsSound) (hrest : c.rest = v) :
    (reading c m o true [] ws).Continues
      (ws ++ (if m = 0 then [.blockMap] else []) ++ us ++ [.blockEnd]) := by
  induction h generalizing c m o ws with
  | nil =>
      obtain ⟨rfl, rfl⟩ := hm.resolve_left fun h => h.2.2 rfl
      have hfinish : (reading c 1 [0] true [] ws).Continues _ := Continues.finish hrest
      simpa using hfinish
  | @cons k ls es apart plain us vs v w x hkey hvalue h ih =>
      have hfirst : c.rest = v ++ (w ++ '\n' :: x) := by rw [hrest, List.append_assoc]
      have hbehind : (c.skip v.length).rest = w ++ '\n' :: (List.replicate 0 ' ' ++ x) :=
        Cursor.skip_rest_append hfirst
      obtain ⟨hpos, hone⟩ := column_behind_keyLines hkey hfirst
      obtain ⟨hend, hzero⟩ := Cursor.skip_newLine hbehind
      have hopened : (if m = 0 then m :: o else o) = [0] := by
        rcases hm with ⟨rfl, rfl, -⟩ | ⟨rfl, rfl⟩ <;> rfl
      have hgap : ∀ ch ∈ (w ++ '\n' :: x).head?, isGap ch = true := by
        cases hvalue <;> rintro _ ⟨⟩ <;> rfl
      have hspace : apart = true → (w ++ '\n' :: x).head? = some ' ' := by
        rintro rfl
        cases hvalue <;> rfl
      -- behind the first entry the map is open
      have hrec : (reading ((c.skip v.length).skip (w.length + (1 + 0))) 1 [0] true []
          (ws ++ (if m = 0 then [.blockMap] else []) ++ [.key, .scalar k plain, .value] ++ us)
          ).Continues _ :=
        ih (.inr ⟨rfl, rfl⟩) hzero ((hsound.skip _).skip _) hend
      refine Continues.keyLines hkey (by omega) hcolumn hsound hfirst hgap hspace ?_
      rw [hopened]
      refine Gives.values hvalue hpos hone (hsound.skip _) hbehind h.isLineStart ?_
      simpa using hrec

end

/-- **The tokens that are taken from the text of a map of lists of texts.** -/
theorem feeds_entryLines {es : List (Text × List Text)} {us : List Token} {v : List Char}
    (h : EntryLines es us v) (hes : es ≠ []) (hmark : v.head? ≠ some '\uFEFF') :
    (Scanner.start v).Feeds (.blockMap :: us ++ [.blockEnd]) := by
  have hstart : Scanner.start v = reading (Cursor.start v) 0 [] true [] [] := by
    have hpeek : ¬ ((Cursor.start v).peek == some '\uFEFF') = true := by
      rw [beq_iff_eq]
      exact hmark
    unfold Scanner.start
    dsimp only
    rw [if_neg hpeek]
    rfl
  have hcontinues : (reading (Cursor.start v) 0 [] true [] []).Continues _ :=
    Continues.entries h (.inl ⟨rfl, rfl, hes⟩) rfl (Cursor.isSound_start v) rfl
  have hsettle : (reading (Cursor.start v) 0 [] true [] []).settle = .ok _ :=
    settle_here h.isLineStart (by simp) (Nat.zero_le _)
  rw [hstart]
  exact ⟨hcontinues.gives hsettle (Nat.le_refl _) rfl, isOrdered_of_keys_eq_nil rfl⟩

end Scanner

end Casebook.Yaml

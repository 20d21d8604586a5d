import Casebook.Proofs.Yaml.Cursor
import Casebook.Yaml.Printer
import Casebook.Yaml.Scalar

/-!
# Reading quoted scalars

`Single` and `Double` say which characters may be written between quotes for a text: where lines
are folded is left open, so that what is proved of them holds at every line width. Main
statements: `Single.reads` and `Double.reads`, the text comes back.
-/

namespace Casebook.Yaml

/-! ## What is written -/

/-- Characters for a text between single quotes. A space beside other characters may be a line end
with indentation behind it, and one more line feed stands before line feeds. -/
inductive Single (indent : Nat) : List Char → List Char → Prop
  | done : Single indent [] []
  | quote {t w} : Single indent t w → Single indent ('\'' :: t) ('\'' :: '\'' :: w)
  | shown {ch t w} : ch ≠ '\'' → isGap ch = false → Single indent t w →
      Single indent (ch :: t) (ch :: w)
  | spaces {t w} (n : Nat) : IsSolid t → Single indent t w →
      Single indent (List.replicate (n + 1) ' ' ++ t) (List.replicate (n + 1) ' ' ++ w)
  | fold {t w} : IsSolid t → Single indent t w →
      Single indent (' ' :: t) ('\n' :: (List.replicate indent ' ' ++ w))
  | breaks {b t w} (bs : List Char) : (∀ ch ∈ b :: bs, isKeptBreak ch = true) → IsSolid t →
      Single indent t w →
      Single indent (b :: bs ++ t)
        ((if b = '\n' then ['\n'] else []) ++ (b :: bs) ++ (List.replicate indent ' ' ++ w))

/-- Characters for points between double quotes. A line may end behind a backslash wherever no
space follows, and a space may stand behind a backslash. -/
inductive Double (indent : Nat) : List Point → List Char → Prop
  | done : Double indent [] []
  | plain {ch ps w} : Page.isDoublePlain ch = true → Double indent ps w →
      Double indent (.char ch :: ps) (ch :: w)
  | escape {p cs ps w} : Page.escape? p = some cs → Double indent ps w →
      Double indent (p :: ps) (cs ++ w)
  | slashed {ps w} : Double indent ps w → Double indent (.char ' ' :: ps) ('\\' :: ' ' :: w)
  | fold {ps w} : IsSolid w → Double indent ps w →
      Double indent ps ('\\' :: '\n' :: (List.replicate indent ' ' ++ w))

theorem Single.isSolid {indent : Nat} {t w : List Char} (h : Single indent t w)
    (ht : IsSolid t) : IsSolid w := by
  cases h with
  | done => exact isSolid_nil
  | quote h => exact isSolid_cons.mpr rfl
  | shown hquote hgap h => exact isSolid_cons.mpr hgap
  | spaces n hsolid h => exact absurd (isSolid_cons.mp ht) (by decide)
  | fold hsolid h => exact absurd (isSolid_cons.mp ht) (by decide)
  | breaks bs hbs hsolid h =>
      have hbreak := Cursor.isBreak_of_isKeptBreak (hbs _ List.mem_cons_self)
      have hgap := isSolid_cons.mp ht
      rw [isGap, hbreak, Bool.or_true] at hgap
      cases hgap

/-! ## Reading on -/

/-- From the cursor on, whatever bound there is on the steps, a quoted scalar is read up to its
end. -/
def Reads (quote : Char) (c : Cursor) (read out : List Point) (behind : Cursor) : Prop :=
  ∀ fuel, c.rest.length < fuel → quotedFrom quote fuel c read = .ok ⟨out, behind⟩

section
variable {quote ch : Char} {c behind : Cursor} {read out : List Point} {cs bs w rest : List Char}

theorem Reads.of_next (hrest : c.rest = ch :: cs)
    (hstep : ∀ fuel, quotedFrom quote (fuel + 1) c read =
      quotedFrom quote fuel c.next (.char ch :: read))
    (h : Reads quote c.next (.char ch :: read) out behind) : Reads quote c read out behind := by
  intro fuel hfuel
  rw [hrest, List.length_cons] at hfuel
  obtain ⟨k, rfl⟩ := Nat.exists_eq_add_of_lt hfuel
  rw [hstep]
  refine h _ ?_
  rw [Cursor.next_rest, hrest, List.tail_cons]
  omega

/-- A character that is neither a quote nor a gap is read as it is. -/
theorem Reads.shown (hrest : c.rest = ch :: cs) (hquote : ch ≠ quote) (hgap : isGap ch = false)
    (hslash : quote = '"' → ch ≠ '\\')
    (h : Reads quote c.next (.char ch :: read) out behind) : Reads quote c read out behind := by
  refine h.of_next hrest fun fuel => ?_
  rw [quotedFrom, hrest]
  dsimp only
  split
  · rfl
  · rw [if_neg (by simpa using hquote)]
    rw [if_neg]
    · rw [if_pos (by simp [hgap])]
    · intro hboth
      simp only [Bool.and_eq_true, beq_iff_eq] at hboth
      exact hslash hboth.2 hboth.1

/-- The closing quote. -/
theorem reads_close (hquote : isQuotedPlain quote = false) (hrest : c.rest = quote :: cs)
    (hcs : quote = '\'' → cs.head? ≠ some '\'') : Reads quote c read read.reverse c.next := by
  intro fuel hfuel
  obtain ⟨k, rfl⟩ := Nat.exists_eq_add_of_lt (Nat.zero_lt_of_lt hfuel)
  rw [Nat.zero_add, quotedFrom, hrest]
  dsimp only
  rw [if_neg (by simp [hquote]), if_pos (by simp), if_neg]
  intro hboth
  simp only [Bool.and_eq_true, beq_iff_eq] at hboth
  exact hcs hboth.1 hboth.2

/-- A quote that is doubled is read as one. -/
theorem Reads.doubled (hrest : c.rest = '\'' :: '\'' :: cs)
    (h : Reads '\'' (c.skip 2) (.char '\'' :: read) out behind) :
    Reads '\'' c read out behind := by
  intro fuel hfuel
  rw [hrest, List.length_cons, List.length_cons] at hfuel
  obtain ⟨k, rfl⟩ := Nat.exists_eq_add_of_lt hfuel
  rw [quotedFrom, hrest]
  dsimp only
  rw [if_neg (by decide), if_pos (by decide), if_pos (by simp)]
  refine h _ ?_
  rw [Cursor.skip_rest, hrest]
  show cs.length < _
  omega

/-- Spaces are taken in one step if no line ends behind them. -/
theorem quotedFrom_spaces (hquote : isGap quote = false) {n : Nat}
    (hrest : c.rest = List.replicate (n + 1) ' ' ++ cs) (hcs : IsSolid cs) (fuel : Nat) :
    quotedFrom quote (fuel + 1) c read =
      quotedFrom quote fuel (c.skip (n + 1)) (List.replicate (n + 1) (.char ' ') ++ read) := by
  have hskip : (c.skip (n + 1)).rest = cs := by
    rw [Cursor.skip_rest, hrest]
    exact List.drop_left' List.length_replicate
  have hspan := Cursor.span_blanks hrest (Cursor.isBlank_of_isSolid hcs)
  have hnone : (c.skip (n + 1)).takeBreak = none :=
    Cursor.takeBreak_eq_none (hskip ▸ isBreak_of_isSolid hcs)
  have hne : (' ' == quote) = false := by
    rw [beq_eq_false_iff_ne]
    rintro rfl
    cases hquote
  rw [quotedFrom, hrest, List.replicate_succ, List.cons_append]
  dsimp only
  rw [if_neg (by decide), if_neg (by simp [hne]), if_neg (by simp), if_neg (by decide), hspan,
    List.length_replicate]
  simp only [hnone, List.reverse_replicate, List.map_replicate]

theorem Reads.spaces (hquote : isGap quote = false) {n : Nat}
    (hrest : c.rest = List.replicate (n + 1) ' ' ++ cs) (hcs : IsSolid cs)
    (h : Reads quote (c.skip (n + 1)) (List.replicate (n + 1) (.char ' ') ++ read) out behind) :
    Reads quote c read out behind := by
  intro fuel hfuel
  obtain ⟨k, rfl⟩ := Nat.exists_eq_succ_of_ne_zero (Nat.ne_zero_of_lt hfuel)
  rw [quotedFrom_spaces hquote hrest hcs]
  refine h _ ?_
  rw [hrest, List.length_append, List.length_replicate] at hfuel
  rw [Cursor.skip_rest, hrest, List.drop_left' List.length_replicate]
  omega

/-- A space is read as it is if spaces follow and no line end behind them. -/
theorem Reads.space (hquote : isGap quote = false) {n : Nat}
    (hrest : c.rest = ' ' :: (List.replicate n ' ' ++ cs)) (hcs : IsSolid cs)
    (h : Reads quote c.next (.char ' ' :: read) out behind) : Reads quote c read out behind := by
  rcases n with _ | n
  · exact Reads.spaces (n := 0) hquote hrest hcs h
  · -- The spaces are taken in the same step with this one or without it.
    have hnext : c.next.rest = List.replicate (n + 1) ' ' ++ cs := by
      rw [Cursor.next_rest, hrest, List.tail_cons]
    intro fuel hfuel
    obtain ⟨k, rfl⟩ := Nat.exists_eq_succ_of_ne_zero (Nat.ne_zero_of_lt hfuel)
    have hread := h (k + 1) (by rw [hrest, List.length_cons] at hfuel; rw [hnext]; omega)
    rw [quotedFrom_spaces hquote hnext hcs, ← Cursor.skip_succ] at hread
    rw [quotedFrom_spaces (n := n + 1) hquote hrest hcs, List.replicate_succ', List.append_assoc]
    exact hread

/-- Line ends and the indentation of the next line. -/
theorem quotedBreaks_kept {n : Nat} (hn : 0 < n) (hbs : ∀ ch ∈ bs, isKeptBreak ch = true)
    (hrest : c.rest = bs ++ (List.replicate n ' ' ++ w)) (hw : IsSolid w) {kept : List Char}
    {fuel : Nat} (hfuel : bs.length < fuel) :
    quotedBreaks fuel c kept = .ok ⟨kept.reverse ++ bs, c.skip (bs.length + n)⟩ := by
  induction bs generalizing c kept fuel with
  | nil =>
      obtain ⟨fuel, rfl⟩ := Nat.exists_eq_add_of_lt hfuel
      obtain ⟨n, rfl⟩ := Nat.exists_eq_succ_of_ne_zero hn.ne'
      rw [List.nil_append] at hrest
      have hseparator : c.atSeparator = false := by
        refine Cursor.atSeparator_eq_false fun ch hch => ?_
        rw [hrest, List.replicate_succ] at hch
        cases hch
        decide
      have hspan := Cursor.span_blanks hrest (Cursor.isBlank_of_isSolid hw)
      have hskip : (c.skip n.succ).rest = w := by
        rw [Cursor.skip_rest, hrest]
        exact List.drop_left' List.length_replicate
      have hnone : (c.skip n.succ).takeBreak = none :=
        Cursor.takeBreak_eq_none (hskip ▸ isBreak_of_isSolid hw)
      rw [quotedBreaks, hseparator, if_neg (by simp)]
      simp only [Cursor.skipWhile, hspan, List.length_replicate, hnone, List.append_nil,
        List.length_nil, Nat.zero_add]
  | cons b bs ih =>
      obtain ⟨fuel, rfl⟩ := Nat.exists_eq_add_of_lt hfuel
      obtain ⟨hb, hbs⟩ := List.forall_mem_cons.mp hbs
      have hbreak := Cursor.isBreak_of_isKeptBreak hb
      have hseparator : c.atSeparator = false := by
        refine Cursor.atSeparator_eq_false fun ch hch => ?_
        rw [hrest] at hch
        cases hch
        constructor <;> rintro rfl <;> cases hbreak
      have hspan : (c.span fun ch => ch == ' ' || ch == '\t') = [] := by
        refine Cursor.span_eq_nil fun ch hch => ?_
        rw [hrest] at hch
        cases hch
        exact Cursor.isBlank_of_isBreak hbreak
      rw [quotedBreaks, hseparator, if_neg (by simp)]
      simp only [Cursor.skipWhile, hspan, List.length_nil, Cursor.skip,
        Cursor.takeBreak_kept hrest hb]
      rw [ih hbs (by rw [Cursor.next_rest, hrest]; rfl) (by simp at hfuel ⊢; omega)]
      simp [Cursor.skip, Nat.add_right_comm]

/-- A first line end, further ones and the indentation of the next line. -/
theorem Reads.breaks (hquote : isGap quote = false) {n : Nat} (hn : 0 < n)
    (hch : isKeptBreak ch = true) (hbs : ∀ ch ∈ bs, isKeptBreak ch = true)
    (hrest : c.rest = ch :: (bs ++ (List.replicate n ' ' ++ w))) (hw : IsSolid w)
    (hsound : c.IsSound)
    (h : Reads quote (c.skip (1 + bs.length + n)) ((fold ch bs).reverse.map .char ++ read) out
      behind) :
    Reads quote c read out behind := by
  intro fuel hfuel
  obtain ⟨k, rfl⟩ := Nat.exists_eq_add_of_lt (Nat.zero_lt_of_lt hfuel)
  have hbreak := Cursor.isBreak_of_isKeptBreak hch
  have hgap : isGap ch = true := by rw [isGap, hbreak, Bool.or_true]
  have hne : (ch == quote) = false := by
    rw [beq_eq_false_iff_ne]
    rintro rfl
    rw [hgap] at hquote
    cases hquote
  have hslash : (ch == '\\') = false := by
    rw [beq_eq_false_iff_ne]
    rintro rfl
    cases hgap
  have hspan : (c.span fun ch => ch == ' ' || ch == '\t') = [] := by
    refine Cursor.span_eq_nil fun d hd => ?_
    rw [hrest] at hd
    cases hd
    exact Cursor.isBlank_of_isBreak hbreak
  have hnext : c.next.rest = bs ++ (List.replicate n ' ' ++ w) := by
    rw [Cursor.next_rest, hrest, List.tail_cons]
  have hleft : bs.length < c.next.left + 1 := by
    rw [hsound.next.left, hnext, List.length_append]
    omega
  rw [Nat.zero_add, quotedFrom, hrest]
  dsimp only
  rw [if_neg (by simp [isQuotedPlain, hgap]), if_neg (by simp [hne]), if_neg (by simp [hslash]),
    if_neg (by simp [hgap]), hspan]
  simp only [List.length_nil, Cursor.skip, Cursor.takeBreak_kept hrest hch,
    quotedBreaks_kept hn hbs hnext hw hleft]
  have hskip : c.skip (1 + bs.length + n) = c.next.skip (bs.length + n) := by
    rw [Nat.add_assoc, Nat.add_comm, Cursor.skip_succ]
  rw [hskip] at h
  refine h _ ?_
  rw [Cursor.skip_rest, hnext, List.length_drop]
  rw [hrest, List.length_cons] at hfuel
  omega

end

/-! ## Single quotes -/

theorem fold_lineFeed (bs : List Char) (h : bs ≠ []) : fold '\n' bs = bs := by
  cases bs with
  | nil => exact absurd rfl h
  | cons b bs => rfl

theorem fold_of_ne {ch : Char} (h : ch ≠ '\n') (bs : List Char) : fold ch bs = ch :: bs := by
  unfold fold
  rw [if_pos (by simp [h])]
  rfl

/-- The first line end that is read is the one more line feed, or the separator itself. -/
theorem exists_first_break {b : Char} {bs : List Char} (h : ∀ ch ∈ b :: bs, isKeptBreak ch = true) :
    ∃ first more, (if b = '\n' then ['\n'] else []) ++ (b :: bs) = first :: more ∧
      isKeptBreak first = true ∧ (∀ ch ∈ more, isKeptBreak ch = true) ∧
        fold first more = b :: bs := by
  obtain ⟨hb, hmore⟩ := List.forall_mem_cons.mp h
  by_cases hfeed : b = '\n'
  · exact ⟨'\n', b :: bs, by rw [if_pos hfeed]; rfl, rfl, h, fold_lineFeed _ (by simp)⟩
  · exact ⟨b, bs, by rw [if_neg hfeed]; rfl, hb, hmore, fold_of_ne hfeed bs⟩

/-- **A text is read back from what is written between single quotes.** -/
theorem Single.reads {indent : Nat} (hindent : 0 < indent) {t w : List Char}
    (h : Single indent t w) {after : List Char} (hafter : after.head? ≠ some '\'') {c : Cursor}
    {read : List Point} (hsound : c.IsSound) (hrest : c.rest = w ++ '\'' :: after) :
    Reads '\'' c read (read.reverse ++ t.map .char) (c.skip (w.length + 1)) := by
  have hquote : IsSolid ('\'' :: after) := isSolid_cons.mpr rfl
  induction h generalizing c read with
  | done =>
      rw [List.map_nil, List.append_nil]
      exact reads_close rfl hrest fun _ => hafter
  | @quote t w h ih =>
      have hrest' : (c.skip 2).rest = w ++ '\'' :: after := by
        rw [Cursor.skip_rest, hrest]
        rfl
      have hread := @ih _ (.char '\'' :: read) (hsound.skip 2) hrest'
      rw [← Cursor.skip_add, List.reverse_cons, List.append_assoc] at hread
      refine Reads.doubled hrest ?_
      rwa [show ('\'' :: '\'' :: w).length + 1 = 2 + (w.length + 1) from by
        simp only [List.length_cons]; omega]
  | @shown ch t w hquote hgap h ih =>
      have hread := @ih _ (.char ch :: read) hsound.next (by rw [Cursor.next_rest, hrest]; rfl)
      rw [List.reverse_cons, List.append_assoc] at hread
      exact hread.shown hrest hquote hgap (by rintro ⟨⟩)
  | @spaces t w n ht h ih =>
      rw [List.append_assoc] at hrest
      have hrest' : (c.skip (n + 1)).rest = w ++ '\'' :: after := by
        rw [Cursor.skip_rest, hrest]
        exact List.drop_left' List.length_replicate
      have hread := @ih _ (List.replicate (n + 1) (.char ' ') ++ read) (hsound.skip _) hrest'
      rw [← Cursor.skip_add, List.reverse_append, List.reverse_replicate, List.append_assoc]
        at hread
      refine Reads.spaces rfl hrest (isSolid_append (h.isSolid ht) hquote) ?_
      rw [List.map_append, List.map_replicate]
      rwa [show (List.replicate (n + 1) ' ' ++ w).length + 1 = n + 1 + (w.length + 1) from by
        simp only [List.length_append, List.length_replicate]; omega]
  | @fold t w ht h ih =>
      rw [List.cons_append, List.append_assoc] at hrest
      have hrest' : (c.skip (1 + indent)).rest = w ++ '\'' :: after := by
        rw [Cursor.skip_rest, hrest, Nat.add_comm, List.drop_succ_cons]
        exact List.drop_left' List.length_replicate
      have hread := @ih _ (.char ' ' :: read) (hsound.skip _) hrest'
      rw [← Cursor.skip_add, List.reverse_cons, List.append_assoc] at hread
      refine Reads.breaks rfl hindent rfl (List.forall_mem_nil _) hrest
        (isSolid_append (h.isSolid ht) hquote) hsound ?_
      rwa [show ('\n' :: (List.replicate indent ' ' ++ w)).length + 1 =
        1 + indent + (w.length + 1) from by
          simp only [List.length_cons, List.length_append, List.length_replicate]; omega]
  | @breaks b t w bs hbs ht h ih =>
      obtain ⟨first, more, hwritten, hfirst, hmore, hfold⟩ := exists_first_break hbs
      rw [hwritten] at hrest ⊢
      rw [List.append_assoc, List.cons_append, List.append_assoc] at hrest
      have hrest' : (c.skip (1 + more.length + indent)).rest = w ++ '\'' :: after := by
        rw [Cursor.skip_rest, hrest, Nat.add_assoc, Nat.add_comm, List.drop_succ_cons,
          ← List.append_assoc]
        exact List.drop_left' (by simp)
      have hread := @ih _ ((b :: bs).reverse.map .char ++ read) (hsound.skip _) hrest'
      rw [← Cursor.skip_add, List.reverse_append, List.map_reverse, List.reverse_reverse,
        List.append_assoc] at hread
      -- What a run of breaks folds to is the run again, since one break more was written for it.
      refine Reads.breaks rfl hindent hfirst hmore hrest
        (isSolid_append (h.isSolid ht) hquote) hsound ?_
      rw [hfold, List.map_append, List.map_reverse]
      rwa [show (first :: more ++ (List.replicate indent ' ' ++ w)).length + 1 =
        1 + more.length + indent + (w.length + 1) from by
          simp only [List.length_cons, List.length_append, List.length_replicate]; omega]

/-! ## Escapes -/

theorem hexValue?_hexDigit {n : Nat} (h : n < 16) :
    Text.hexValue? (Text.hexDigit n).toUpper = some n := by
  interval_cases n <;> rfl

/-- Digits of either case write the number that they were made from. -/
theorem readHex?_hex {width n : Nat} (h : n < 16 ^ width) :
    Text.readHex? ((Text.hex width n).map Char.toUpper) = some n := by
  induction width generalizing n with
  | zero =>
      obtain rfl : n = 0 := by simpa using h
      rfl
  | succ width ih =>
      have hfront : n / 16 < 16 ^ width := Nat.div_lt_of_lt_mul (by rwa [← Nat.pow_succ'])
      have hfold := ih hfront
      unfold Text.readHex? at hfold ⊢
      rw [Text.hex, List.map_append, List.foldlM_append, hfold]
      simp only [List.map_cons, List.map_nil, List.foldlM_cons, List.foldlM_nil,
        hexValue?_hexDigit (Nat.mod_lt n (by decide)), Option.map_some, Option.bind_eq_bind,
        Option.bind_some]
      exact congrArg some (Nat.div_add_mod n 16)

theorem isSome_hexValue?_of_mem_hex {width n : Nat} {d : Char}
    (h : d ∈ (Text.hex width n).map Char.toUpper) : (Text.hexValue? d).isSome = true := by
  induction width generalizing n with
  | zero => cases h
  | succ width ih =>
      rw [Text.hex, List.map_append, List.mem_append] at h
      rcases h with h | h
      · exact ih h
      · obtain rfl := List.mem_singleton.mp h
        rw [hexValue?_hexDigit (Nat.mod_lt n (by decide))]
        rfl

theorem ofCode_code (p : Point) : Point.ofCode p.code = p := by
  cases p with
  | half h => exact dif_pos h.isHalf
  | char c =>
      have hvalid : c.toNat < 0xD800 ∨ 0xDFFF < c.toNat ∧ c.toNat < 0x110000 := c.valid
      refine (dif_neg ?_).trans ?_
      · show ¬ (0xD800 ≤ c.toNat ∧ c.toNat < 0xE000)
        omega
      · exact congrArg Point.char (Char.ofNat_toNat c)

theorem code_le (p : Point) : p.code ≤ 0x10FFFF := by
  cases p with
  | half h => exact (Nat.lt_succ_iff.mp h.isHalf.2).trans (by decide)
  | char c =>
      have hvalid : c.toNat < 0xD800 ∨ 0xDFFF < c.toNat ∧ c.toNat < 0x110000 := c.valid
      show c.toNat ≤ _
      omega

section
variable {c : Cursor} {cs w rest : List Char} {p : Point} {ps read out : List Point}

/-- A letter behind a backslash. -/
theorem scanEscape_letter {ch letter : Char} (hletter : escapes.lookup letter = some ch)
    (hrest : c.rest = letter :: rest) : scanEscape c = .ok ⟨[.char ch], c.next⟩ := by
  have hpeek : c.peek = some letter := by rw [Cursor.peek, hrest]; rfl
  unfold scanEscape
  rw [hpeek]
  dsimp only
  rw [hletter]
  rfl

/-- A code of so many digits behind a backslash. -/
theorem scanEscape_code {mark : Char} {width n : Nat} (hletter : escapes.lookup mark = none)
    (hwidth : codeWidths.lookup mark = some width) (hn : n < 16 ^ width) (hlast : n ≤ 0x10FFFF)
    (hrest : c.rest = mark :: ((Text.hex width n).map Char.toUpper ++ rest)) :
    scanEscape c = .ok ⟨[.ofCode n], c.skip (width + 1)⟩ := by
  have hpeek : c.peek = some mark := by rw [Cursor.peek, hrest]; rfl
  have hlength : ((Text.hex width n).map Char.toUpper).length = width := by
    rw [List.length_map, Text.length_hex]
  have hdigits : (c.next.rest.take width).takeWhile (fun d => (Text.hexValue? d).isSome) =
      (Text.hex width n).map Char.toUpper := by
    rw [Cursor.next_rest, hrest, List.tail_cons, List.take_left' hlength]
    exact List.takeWhile_eq_self_iff.mpr fun d hd => isSome_hexValue?_of_mem_hex hd
  unfold scanEscape
  rw [hpeek]
  dsimp only
  rw [hletter, hwidth]
  dsimp only
  rw [hdigits, hlength, if_neg (by omega), readHex?_hex hn, Option.getD_some, escapedPoint,
    if_neg (by omega)]
  dsimp only
  rw [Cursor.skip_add]
  rfl

/-- The escape of a code is read as its point. -/
theorem scanEscape_escapeCode (hescape : '\\' :: cs = Page.escapeCode p.code)
    (hrest : c.rest = cs ++ rest) : scanEscape c = .ok ⟨[p], c.skip cs.length⟩ := by
  have hlast := code_le p
  rw [Page.escapeCode] at hescape
  dsimp only at hescape
  split_ifs at hescape with htwo hfour
  all_goals
    obtain rfl := (List.cons.inj hescape).2
    rw [List.cons_append] at hrest
  · rw [scanEscape_code rfl rfl (by omega) hlast hrest, ofCode_code]
    simp [Text.length_hex]
  · rw [scanEscape_code rfl rfl (by omega) hlast hrest, ofCode_code]
    simp [Text.length_hex]
  · rw [scanEscape_code rfl rfl (by omega) hlast hrest, ofCode_code]
    simp [Text.length_hex]

/-- Every escape that is written is read as the point that it stands for. -/
theorem scanEscape_escape? (hescape : Page.escape? p = some cs) :
    ∃ body, cs = '\\' :: body ∧ ∀ {c : Cursor} {rest}, c.rest = body ++ rest →
      scanEscape c = .ok ⟨[p], c.skip body.length⟩ := by
  have hcode : ∃ body, Page.escapeCode p.code = '\\' :: body := by
    rw [Page.escapeCode]
    dsimp only
    split_ifs <;> exact ⟨_, rfl⟩
  obtain ⟨body, hbody⟩ := hcode
  cases p with
  | half h =>
      obtain rfl := Option.some.inj hescape
      exact ⟨body, hbody, fun hrest => scanEscape_escapeCode hbody.symm hrest⟩
  | char ch =>
      rw [Page.escape?] at hescape
      split_ifs at hescape with hplain
      cases hletter : Page.letters.lookup ch with
      | none =>
          rw [hletter] at hescape
          obtain rfl := Option.some.inj hescape
          exact ⟨body, hbody, fun hrest => scanEscape_escapeCode hbody.symm hrest⟩
      | some letter =>
          rw [hletter] at hescape
          obtain rfl := Option.some.inj hescape
          have hall : ∀ e ∈ Page.letters, escapes.lookup e.2 = some e.1 := by decide
          have hmem : (ch, letter) ∈ Page.letters := by
            rw [List.lookup_eq_some_iff] at hletter
            obtain ⟨front, back, hsplit, -⟩ := hletter
            rw [hsplit]
            simp
          exact ⟨[letter], rfl, fun hrest => scanEscape_letter (hall _ hmem) hrest⟩

end

/-! ## Double quotes -/

section
variable {ch quote : Char} {c behind : Cursor} {cs w rest : List Char} {ps read out : List Point}

theorem eq_space_of_isDoublePlain (h : Page.isDoublePlain ch = true) (hgap : isGap ch = true) :
    ch = ' ' := by
  simp only [isGap, isBreak, Bool.or_eq_true, beq_iff_eq] at hgap
  rcases hgap with (rfl | rfl) | (((rfl | rfl) | rfl) | rfl) | rfl
  · rfl
  all_goals cases h

/-- An escape is read as the points that it stands for. -/
theorem Reads.escape {points : List Point} {next : Cursor} (hrest : c.rest = '\\' :: cs)
    (hscan : scanEscape c.next = .ok ⟨points, next⟩) (hnext : next.rest.length < c.rest.length)
    (h : Reads '"' next (points.reverse ++ read) out behind) : Reads '"' c read out behind := by
  intro fuel hfuel
  obtain ⟨k, rfl⟩ := Nat.exists_eq_add_of_lt (Nat.zero_lt_of_lt hfuel)
  rw [Nat.zero_add, quotedFrom, hrest]
  dsimp only
  rw [if_neg (by decide), if_neg (by decide), if_pos (by decide), hscan]
  exact h _ (by omega)

/-- A line that ends behind a backslash goes on behind the indentation of the next one. -/
theorem scanEscape_fold {n : Nat} (hn : 0 < n)
    (hrest : c.rest = '\n' :: (List.replicate n ' ' ++ w)) (hw : IsSolid w) :
    scanEscape c = .ok ⟨[], c.skip (1 + n)⟩ := by
  have hpeek : c.peek = some '\n' := by rw [Cursor.peek, hrest]; rfl
  have hnext : c.next.rest = [] ++ (List.replicate n ' ' ++ w) := by
    rw [Cursor.next_rest, hrest, List.tail_cons, List.nil_append]
  unfold scanEscape
  rw [hpeek]
  dsimp only
  rw [show escapes.lookup '\n' = none from rfl, show codeWidths.lookup '\n' = none from rfl]
  dsimp only
  rw [Cursor.takeBreak_kept hrest rfl]
  dsimp only
  rw [quotedBreaks_kept hn (List.forall_mem_nil _) hnext hw (Nat.succ_pos _), Nat.add_comm 1 n]
  simp [Scanned.unescaped, bind, Except.bind, pure, Except.pure, Cursor.skip_succ]

/-- Behind spaces no line ends. -/
theorem Double.spaces {indent : Nat} (h : Double indent ps w) (rest : List Char) :
    ∃ n cs, w ++ '"' :: rest = List.replicate n ' ' ++ cs ∧ IsSolid cs := by
  have hsolid : ∀ {d v}, isGap d = false → ∃ n cs, d :: v = List.replicate n ' ' ++ cs ∧
      IsSolid cs := fun {d v} hd => ⟨0, d :: v, rfl, isSolid_cons.mpr hd⟩
  induction h with
  | done => exact hsolid rfl
  | @plain ch ps w hplain h ih =>
      by_cases hgap : isGap ch = true
      · obtain rfl := eq_space_of_isDoublePlain hplain hgap
        obtain ⟨n, cs, hcs, hsolid⟩ := ih
        exact ⟨n + 1, cs, congrArg (' ' :: ·) hcs, hsolid⟩
      · exact hsolid (Bool.not_eq_true _ ▸ hgap)
  | escape hescape h =>
      obtain ⟨body, rfl, -⟩ := scanEscape_escape? hescape
      exact hsolid rfl
  | slashed h => exact hsolid rfl
  | fold hw h => exact hsolid rfl

end

/-- **A text is read back from what is written between double quotes.** -/
theorem Double.reads {indent : Nat} (hindent : 0 < indent) {ps : List Point} {w : List Char}
    (h : Double indent ps w) {after : List Char} {c : Cursor} {read : List Point}
    (hsound : c.IsSound) (hrest : c.rest = w ++ '"' :: after) :
    Reads '"' c read (read.reverse ++ ps) (c.skip (w.length + 1)) := by
  induction h generalizing c read with
  | done =>
      rw [List.append_nil]
      exact reads_close rfl hrest (by rintro ⟨⟩)
  | @plain ch ps w hplain h ih =>
      have hread := @ih _ (.char ch :: read) hsound.next (by rw [Cursor.next_rest, hrest]; rfl)
      rw [List.reverse_cons, List.append_assoc] at hread
      -- A space is kept only if no line ends behind the spaces that follow it.
      by_cases hgap : isGap ch = true
      · obtain rfl := eq_space_of_isDoublePlain hplain hgap
        obtain ⟨n, cs, hcs, hsolid⟩ := h.spaces after
        exact hread.space rfl (hrest.trans (congrArg (' ' :: ·) hcs)) hsolid
      · refine hread.shown hrest ?_ (Bool.not_eq_true _ ▸ hgap) ?_
        · rintro rfl
          cases hplain
        · rintro - rfl
          cases hplain
  | @escape p cs ps w hescape h ih =>
      obtain ⟨body, rfl, hscan⟩ := scanEscape_escape? hescape
      rw [List.cons_append, List.cons_append, List.append_assoc] at hrest
      have hnext : c.next.rest = body ++ (w ++ '"' :: after) := by
        rw [Cursor.next_rest, hrest, List.tail_cons]
      have hbehind : (c.next.skip body.length).rest = w ++ '"' :: after :=
        Cursor.skip_rest_append hnext
      have hread := @ih _ (p :: read) (hsound.next.skip _) hbehind
      rw [List.reverse_cons, List.append_assoc, ← Cursor.skip_add, ← Cursor.skip_succ] at hread
      refine Reads.escape hrest (hscan hnext) ?_ ?_
      · rw [hbehind, hrest]
        simp only [List.length_cons, List.length_append]
        omega
      · rwa [show ('\\' :: body ++ w).length + 1 = body.length + (w.length + 1) + 1 from by
          simp only [List.length_append, List.length_cons]; omega]
  | @slashed ps w h ih =>
      have hnext : c.next.rest = ' ' :: (w ++ '"' :: after) := by
        rw [Cursor.next_rest, hrest]
        rfl
      have hbehind : c.next.next.rest = w ++ '"' :: after := by
        rw [Cursor.next_rest, hnext, List.tail_cons]
      have hread := @ih _ (.char ' ' :: read) hsound.next.next hbehind
      rw [List.reverse_cons, List.append_assoc] at hread
      refine Reads.escape hrest (scanEscape_letter rfl hnext) ?_ hread
      rw [hbehind, hrest]
      simp only [List.length_cons, List.length_append]
      omega
  | @fold ps w hw h ih =>
      have hw' : IsSolid (w ++ '"' :: after) := isSolid_append hw (isSolid_cons.mpr rfl)
      have hnext : c.next.rest = '\n' :: (List.replicate indent ' ' ++ (w ++ '"' :: after)) := by
        rw [Cursor.next_rest, hrest]
        simp
      have hbehind : (c.next.skip (1 + indent)).rest = w ++ '"' :: after := by
        rw [Cursor.skip_rest, hnext, Nat.add_comm, List.drop_succ_cons]
        exact List.drop_left' List.length_replicate
      have hread := @ih _ read (hsound.next.skip _) hbehind
      rw [← Cursor.skip_add, ← Cursor.skip_succ] at hread
      refine Reads.escape hrest (scanEscape_fold hindent hnext hw') ?_ ?_
      · rw [hbehind, hrest]
        simp only [List.length_cons, List.length_append]
        omega
      · rwa [show ('\\' :: '\n' :: (List.replicate indent ' ' ++ w)).length + 1 =
          1 + indent + (w.length + 1) + 1 from by
            simp only [List.length_append, List.length_cons, List.length_replicate]; omega]

/-- The fuel of a scan is enough for the rest of the text. -/
theorem Reads.scan {quote : Char} {c behind : Cursor} {out : List Point} {cs : List Char}
    (hsound : c.IsSound) (hrest : c.rest = quote :: cs)
    (h : Reads quote c.next [] out behind) : scanQuoted quote c = .ok ⟨out, behind⟩ := by
  refine h _ ?_
  rw [hsound.left, Cursor.next_rest, hrest, List.tail_cons, List.length_cons]
  omega

end Casebook.Yaml

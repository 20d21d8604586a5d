import Casebook.Proofs.Yaml.Lookahead
import Casebook.Proofs.Yaml.Plain
import Casebook.Proofs.Yaml.Quoted

/-!
# Tokens of a line

What the scanner makes of a scalar, of the indicators of a block document and of an empty list
in brackets. Nothing is taken meanwhile: `Feeds` says why that does not matter.
-/

namespace Casebook.Yaml

/-! ## Scalars as they are written -/

/-- Plain text may begin so: with no indicator that stands alone, and unlike a mark between
documents. -/
structure BeginsPlain (w : List Char) : Prop where
  indicator : ∀ ch rest, w = ch :: rest → Scanner.isIndicator ch = false ∨
    (ch = '-' ∨ ch = '?' ∨ ch = ':') ∧ ∃ d more, rest = d :: more ∧ isGap d = false
  dashes : "---".toList.isPrefixOf w = false
  points : "...".toList.isPrefixOf w = false

/-- Characters that are written for a text, which is plain or quoted. -/
inductive Written (indent : Nat) (t : Text) : (plain : Bool) → List Char → Prop
  | plain {cs w} : t = .ofChars cs → Tag.implicit t = .text → BeginsPlain w → Plain indent cs w →
      Written indent t true w
  | single {cs w} : t = .ofChars cs → Single indent cs w →
      Written indent t false ('\'' :: (w ++ ['\'']))
  | double {w} : Double indent t.points w → Written indent t false ('"' :: (w ++ ['"']))

/-- A line may begin so, behind its indentation: no blank, line end or comment comes first. -/
structure IsLineStart (cs : List Char) : Prop where
  solid : IsSolid cs
  comment : ∀ ch ∈ cs.head?, ch ≠ '#'

theorem isLineStart_nil : IsLineStart [] := ⟨isSolid_nil, by simp⟩

theorem isLineStart_cons {ch : Char} {cs : List Char} (hgap : isGap ch = false) (hmark : ch ≠ '#') :
    IsLineStart (ch :: cs) :=
  ⟨isSolid_cons.mpr hgap, by rintro _ ⟨⟩; exact hmark⟩

theorem Written.exists_cons {indent : Nat} {t : Text} {plain : Bool} {w : List Char}
    (h : Written indent t plain w) : ∃ ch rest, w = ch :: rest ∧ isGap ch = false ∧ ch ≠ '#' := by
  cases h with
  | plain _ _ _ h => exact h.exists_cons
  | single _ h => exact ⟨_, _, rfl, rfl, by decide⟩
  | double h => exact ⟨_, _, rfl, rfl, by decide⟩

theorem Written.isLineStart {indent : Nat} {t : Text} {plain : Bool} {w : List Char}
    (h : Written indent t plain w) (after : List Char) : IsLineStart (w ++ after) := by
  obtain ⟨ch, rest, rfl, hgap, hmark⟩ := h.exists_cons
  exact isLineStart_cons hgap hmark

/-- What is written plain has the form of a text. -/
theorem Written.implicit {indent : Nat} {t : Text} {plain : Bool} {w : List Char}
    (h : Written indent t plain w) : plain = true → Tag.implicit t = .text := by
  rintro rfl
  cases h with
  | plain _ himplicit _ _ => exact himplicit

namespace Scanner

/-! ## Reading from a settled place -/

/-- The first half of a step: what stands before the next token is skipped. -/
def settle (s : Scanner) : Except Halt Scanner := do
  let s ← (skipToToken (s.cursor.left + 1) s).dropStaleKeys
  return s.unwind (s.cursor.column + 1)

/-- The second half of a step: the next token is read. -/
def takeNext (s : Scanner) : Except Halt Scanner :=
  match s.cursor.peek with
  | none => do
    let s ← (s.unwind 0).dropKey
    return { s with keys := [], done := true }
  | some ch => s.takeToken ch

theorem advance_eq (s : Scanner) : s.advance = s.settle >>= takeNext := by
  unfold advance settle takeNext
  dsimp only
  cases (skipToToken (s.cursor.left + 1) s).dropStaleKeys <;> rfl

/-- From a settled place on, reading the text to its end leaves these tokens. -/
def Continues (s : Scanner) (ts : List Token) : Prop :=
  ∃ s', s.takeNext = .ok s' ∧ (s'.done = true ∨ s'.cursor.left < s.cursor.left) ∧ s'.IsOrdered ∧
    s'.Gives ts

theorem Continues.gives {s r : Scanner} {ts : List Token} (h : r.Continues ts)
    (hsettle : s.settle = .ok r) (hleft : r.cursor.left ≤ s.cursor.left) (hdone : s.done = false) :
    s.Gives ts := by
  obtain ⟨s', hnext, hless, hordered, hgives⟩ := h
  refine .step hdone ?_ (hless.imp_right fun h => h.trans_le hleft) hordered hgives
  rw [advance_eq, hsettle]
  exact hnext

/-- A scanner from which no token was taken and which is not between brackets. -/
def reading (c : Cursor) (margin : Nat) (outer : List Nat) (keyAllowed : Bool)
    (keys : List PossibleKey) (ws : List Token) : Scanner :=
  ⟨c, margin, outer, 0, keyAllowed, keys, 0, ws.toArray, false⟩

section
variable {c : Cursor} {m n : Nat} {o : List Nat} {b : Bool} {ks : List PossibleKey}
  {ws ts : List Token} {cs rest : List Char}

theorem skipComment_of_isLineStart (h : IsLineStart c.rest) : c.skipComment = c := by
  have hspan : c.span (· == ' ') = [] :=
    Cursor.span_eq_nil fun ch hch => by simp [ne_space_of_isSolid h.solid ch hch]
  unfold Cursor.skipComment Cursor.skipWhile
  rw [hspan]
  exact if_neg fun hmark => h.comment '#' (beq_iff_eq.mp hmark) rfl

theorem skipComment_spaces (hrest : c.rest = List.replicate n ' ' ++ rest)
    (h : IsLineStart rest) : c.skipComment = c.skip n := by
  have hspan := Cursor.span_spaces hrest (ne_space_of_isSolid h.solid)
  have hskip : (c.skip n).rest = rest := by
    rw [Cursor.skip_rest, hrest]
    exact List.drop_left' List.length_replicate
  unfold Cursor.skipComment Cursor.skipWhile
  rw [hspan, List.length_replicate]
  refine if_neg fun hmark => h.comment '#' ?_ rfl
  rw [← hskip]
  exact beq_iff_eq.mp hmark

/-- Spaces in front of a token are skipped. -/
theorem skipToToken_spaces (hrest : c.rest = List.replicate n ' ' ++ rest) (h : IsLineStart rest)
    (fuel : Nat) :
    skipToToken (fuel + 1) (reading c m o b ks ws) = reading (c.skip n) m o b ks ws := by
  have hskip : (c.skip n).rest = rest := by
    rw [Cursor.skip_rest, hrest]
    exact List.drop_left' List.length_replicate
  exact skipToToken_here fuel (skipComment_spaces hrest h)
    (Cursor.takeBreak_eq_none (hskip.symm ▸ isBreak_of_isSolid h.solid))

/-- A line end and the indentation of the next line are skipped, and a key may follow. -/
theorem skipToToken_line (hrest : c.rest = '\n' :: (List.replicate n ' ' ++ rest))
    (h : IsLineStart rest) (fuel : Nat) :
    skipToToken (fuel + 2) (reading c m o b ks ws) = reading (c.skip (1 + n)) m o true ks ws := by
  have hspan : c.span (· == ' ') = [] := by
    refine Cursor.span_eq_nil fun ch hch => ?_
    rw [hrest] at hch
    cases hch
    rfl
  have hcomment : c.skipComment = c := by
    unfold Cursor.skipComment Cursor.skipWhile
    rw [hspan]
    refine if_neg ?_
    show ¬ (c.rest.head? == some '#') = true
    rw [hrest]
    simp
  have hnext : c.next.rest = List.replicate n ' ' ++ rest := by
    rw [Cursor.next_rest, hrest, List.tail_cons]
  have hbreak : (reading c m o b ks ws).cursor.skipComment.takeBreak = some _ :=
    (congrArg Cursor.takeBreak hcomment).trans (Cursor.takeBreak_kept hrest rfl)
  rw [skipToToken_below (fuel + 1) hbreak, Nat.add_comm 1 n, Cursor.skip_succ]
  show skipToToken (fuel + 1) (reading c.next m o (b || true) ks ws) = _
  rw [Bool.or_true]
  exact skipToToken_spaces hnext h fuel

/-! ## Settling -/

/-- Blocks are closed only in front of their column. -/
theorem unwind_of_le (h : m ≤ n) : (reading c m o b ks ws).unwind n = reading c m o b ks ws := by
  show closeBlocks n o (reading c m o b ks ws) = _
  cases o with
  | nil => rfl
  | cons outer o => exact if_neg (Nat.not_lt.mpr h)

/-- The innermost block is closed in front of its column. -/
theorem unwind_close (h : n < m) {m' : Nat} (h' : m' ≤ n) :
    (reading c m (m' :: o) b ks ws).unwind n = reading c m' o b ks (ws ++ [.blockEnd]) := by
  show closeBlocks n (m' :: o) (reading c m (m' :: o) b ks ws) = _
  rw [closeBlocks]
  refine (if_pos h).trans ?_
  have hemit : ({ (reading c m (m' :: o) b ks ws).emit .blockEnd with margin := m', outer := o } :
      Scanner) = reading c m' o b ks (ws ++ [.blockEnd]) := by
    simp [reading, emit]
  rw [hemit]
  exact unwind_of_le h'

theorem closeBlocks_cursor (margin : Nat) (outer : List Nat) (s : Scanner) :
    (closeBlocks margin outer s).cursor = s.cursor := by
  induction outer generalizing s with
  | nil => rfl
  | cons m outer ih =>
      rw [closeBlocks]
      split
      · exact ih _
      · rfl

theorem unwind_cursor (margin : Nat) (s : Scanner) : (s.unwind margin).cursor = s.cursor := by
  unfold unwind
  split
  · exact closeBlocks_cursor _ _ s
  · rfl

theorem dropStaleKeys_reading (h : ∀ k ∈ ks, PossibleKey.isStale c k = true ∧ k.required = false) :
    (reading c m o b ks ws).dropStaleKeys = .ok (reading c m o b [] ws) := by
  have hkeys : ks.filter (!PossibleKey.isStale c ·) = [] := by
    rw [List.filter_eq_nil_iff]
    intro k hk
    simp [(h k hk).1]
  rw [dropStaleKeys_of_forall fun k hk _ => (h k hk).2]
  show Except.ok ({ reading c m o b ks ws with keys := ks.filter (!PossibleKey.isStale c ·) }) = _
  rw [hkeys]
  rfl

/-- Spaces stand in front of the next token. -/
theorem settle_spaces (hrest : c.rest = List.replicate n ' ' ++ rest) (h : IsLineStart rest)
    (hkeys : ∀ k ∈ ks, PossibleKey.isStale (c.skip n) k = true ∧ k.required = false) :
    (reading c m o b ks ws).settle =
      .ok ((reading (c.skip n) m o b [] ws).unwind ((c.skip n).column + 1)) := by
  unfold settle
  rw [skipToToken_spaces hrest h, dropStaleKeys_reading hkeys]
  rfl

/-- The next token stands at the cursor, and no key has become stale. -/
theorem settle_here (h : IsLineStart c.rest) (hkeys : ∀ k ∈ ks, PossibleKey.isStale c k = false)
    (hm : m ≤ c.column + 1) : (reading c m o b ks ws).settle = .ok (reading c m o b ks ws) := by
  have hfresh : ks.filter (!PossibleKey.isStale c ·) = ks :=
    List.filter_eq_self.mpr fun k hk => by simp [hkeys k hk]
  have hdrop : (reading c m o b ks ws).dropStaleKeys = .ok (reading c m o b ks ws) := by
    rw [dropStaleKeys_of_forall fun k hk hstale =>
      absurd ((hkeys k hk).symm.trans hstale) Bool.false_ne_true]
    show Except.ok ({ reading c m o b ks ws with keys := ks.filter (!PossibleKey.isStale c ·) }) = _
    rw [hfresh]
    rfl
  unfold settle
  rw [skipToToken_spaces (n := 0) rfl h, Cursor.skip, hdrop]
  show Except.ok ((reading c m o b ks ws).unwind (c.column + 1)) = _
  rw [unwind_of_le hm]

/-- The next token stands on the next line. -/
theorem settle_line (hrest : c.rest = '\n' :: (List.replicate n ' ' ++ rest)) (h : IsLineStart rest)
    (hsound : c.IsSound) (hkeys : ∀ k ∈ ks, k.line < (c.skip (1 + n)).line ∧ k.required = false) :
    (reading c m o b ks ws).settle = .ok ((reading (c.skip (1 + n)) m o true [] ws).unwind (n + 1)) := by
  have hleft : c.left + 1 = c.rest.tail.length + 2 := by
    rw [hsound.left, hrest]
    rfl
  have hcolumn : (c.skip (1 + n)).column = n := by
    have hline := (Cursor.skip_newLine (v := []) hrest).2
    rwa [List.length_nil, Nat.zero_add] at hline
  have hstale : ∀ k ∈ ks, PossibleKey.isStale (c.skip (1 + n)) k = true ∧ k.required = false :=
    fun k hk => ⟨by simp [PossibleKey.isStale, (hkeys k hk).1.ne], (hkeys k hk).2⟩
  unfold settle
  show ((skipToToken (c.left + 1) (reading c m o b ks ws)).dropStaleKeys >>= _) = _
  rw [hleft, skipToToken_line hrest h, dropStaleKeys_reading hstale]
  show Except.ok ((reading (c.skip (1 + n)) m o true [] ws).unwind ((c.skip (1 + n)).column + 1)) = _
  rw [hcolumn]

/-! ## Scalars -/

/-- The key that a scalar at the cursor may be. -/
def keyAt (c : Cursor) (margin before : Nat) : PossibleKey :=
  ⟨0, before, margin == c.column + 1, c.index, c.line, c.column⟩

theorem markKey_reading :
    (reading c m o true [] ws).markKey = .ok (reading c m o true [keyAt c m ws.length] ws) := by
  simp [markKey, dropKey, dropKeys, reading, keyAt, count, bind, Except.bind, pure, Except.pure]

/-- A mark between documents that is no beginning of a text is none of the text with more behind
it: what ends a word does not go on with a mark. -/
theorem isPrefixOf_append_of_endsWord {w p after : List Char} (hafter : EndsWord after)
    (hp : ∀ ch ∈ p, ch = '-' ∨ ch = '.') (hw : p.isPrefixOf w = false) :
    p.isPrefixOf (w ++ after) = false := by
  induction w generalizing p with
  | nil =>
      cases p with
      | nil => cases hw
      | cons ch p =>
          cases hcs : after with
          | nil => rfl
          | cons d cs =>
              have hne : ch ≠ d := by
                rintro rfl
                have hch := hp ch List.mem_cons_self
                rcases hafter with hgap | ⟨_, hcolon, -⟩
                · have hgap := hgap ch (by rw [hcs]; rfl)
                  rcases hch with rfl | rfl <;> cases hgap
                · rw [hcs] at hcolon
                  obtain rfl := (List.cons.inj hcolon).1
                  rcases hch with hch | hch <;> cases hch
              show ((ch == d) && _) = false
              simp [hne]
  | cons d w ih =>
      cases p with
      | nil => cases hw
      | cons ch p =>
          rw [List.isPrefixOf, Bool.and_eq_false_iff] at hw
          rw [List.cons_append, List.isPrefixOf, Bool.and_eq_false_iff]
          exact hw.imp_right (ih fun ch hch => hp ch (List.mem_cons_of_mem _ hch))

theorem atSeparator_of_beginsPlain {w after : List Char} (hbegins : BeginsPlain w)
    (hafter : EndsWord after) (hrest : c.rest = w ++ after) : c.atSeparator = false := by
  unfold Cursor.atSeparator Cursor.begins
  rw [hrest, isPrefixOf_append_of_endsWord hafter (by simp) hbegins.dashes,
    isPrefixOf_append_of_endsWord hafter (by simp) hbegins.points]
  rfl

theorem takeToken_plain {ch : Char} {w after : List Char} (hbegins : BeginsPlain (ch :: w))
    (hafter : EndsWord after) (hgap : isGap ch = false) (hrest : c.rest = ch :: w ++ after) :
    (reading c m o b ks ws).takeToken ch = (reading c m o b ks ws).takePlain := by
  have hseparator := atSeparator_of_beginsPlain hbegins hafter hrest
  have hpeek : c.peek = some ch := by rw [Cursor.peek, hrest]; rfl
  rcases hbegins.indicator ch w rfl with hindicator | ⟨hch, d, more, rfl, hd⟩
  · have hplain : (reading c m o b ks ws).atPlain = true := by
      unfold atPlain
      rw [show (reading c m o b ks ws).cursor.peek = some ch from hpeek]
      simp [hgap, hindicator]
    have hseparator : (reading c m o b ks ws).cursor.atSeparator = false := hseparator
    simp only [isIndicator, String.reduceToList, List.contains_eq_mem, ↓Char.isValue,
      List.mem_cons, List.not_mem_nil, or_false, Bool.decide_or, Bool.or_eq_false_iff,
      decide_eq_false_iff_not] at hindicator
    simp [takeToken, hindicator, hplain, hseparator]
  · have hnext : c.gapAt 1 = false := by
      simp [Cursor.gapAt, Cursor.peekAt, hrest, hd]
    rcases hch with rfl | rfl | rfl <;>
      simp [takeToken, atPlain, reading, hseparator, hpeek, hnext]

theorem takeToken_quoted {ch : Char} {cs : List Char} (hch : ch = '\'' ∨ ch = '"')
    (hrest : c.rest = ch :: cs) : 
    (reading c m o b ks ws).takeToken ch = (reading c m o b ks ws).takeContent (readQuoted ch) := by
  have hseparator : c.atSeparator = false := by
    refine Cursor.atSeparator_eq_false fun d hd => ?_
    rw [hrest] at hd
    cases hd
    rcases hch with rfl | rfl <;> decide
  rcases hch with rfl | rfl
  · simp [takeToken, reading, hseparator]
  · simp [takeToken, reading, hseparator]

/-- Quoted text is read as a token. -/
theorem readQuoted_written {indent : Nat} (hindent : 0 < indent) {t : Text} {w after : List Char}
    (hw : Written indent t false w) (hafter : after.head? ≠ some '\'') (hsound : c.IsSound)
    (hrest : c.rest = w ++ after) :
    ∃ ch v, w = ch :: v ∧ (ch = '\'' ∨ ch = '"') ∧
      readQuoted ch c = .ok (.scalar t false, c.skip w.length) := by
  cases hw with
  | @single cs v ht h =>
      subst ht
      rw [List.cons_append, List.append_assoc] at hrest
      have hreads : Reads '\'' c.next [] _ _ :=
        h.reads hindent hafter hsound.next (by rw [Cursor.next_rest, hrest]; rfl)
      have hscan := hreads.scan hsound hrest
      refine ⟨_, _, rfl, .inl rfl, ?_⟩
      rw [readQuoted, hscan]
      simp [bind, Except.bind, pure, Except.pure, Text.ofChars, Cursor.skip_succ]
  | @double v h =>
      rw [List.cons_append, List.append_assoc] at hrest
      have hnext : c.next.rest = v ++ '"' :: after := by rw [Cursor.next_rest, hrest]; rfl
      have hreads : Reads '"' c.next [] _ _ := h.reads hindent hsound.next hnext
      have hscan := hreads.scan hsound hrest
      refine ⟨_, _, rfl, .inr rfl, ?_⟩
      rw [readQuoted, hscan]
      simp [bind, Except.bind, pure, Except.pure, Cursor.skip_succ]

theorem takeNext_quoted {indent : Nat} (hindent : 0 < indent) {t : Text} {w after : List Char}
    (hw : Written indent t false w) (hafter : after.head? ≠ some '\'') (hsound : c.IsSound)
    (hrest : c.rest = w ++ after) :
    (reading c m o true [] ws).takeNext =
      .ok (reading (c.skip w.length) m o false [keyAt c m ws.length] (ws ++ [.scalar t false])) := by
  obtain ⟨ch, v, rfl, hch, hread⟩ := readQuoted_written hindent hw hafter hsound hrest
  have hpeek : c.peek = some ch := by rw [Cursor.peek, hrest]; rfl
  unfold takeNext
  rw [show (reading c m o true [] ws).cursor.peek = some ch from hpeek]
  dsimp only
  rw [takeToken_quoted hch hrest, takeContent, markKey_reading]
  show (readQuoted ch c >>= _) = _
  rw [hread]
  simp [reading, emit, bind, Except.bind, pure, Except.pure]

theorem takeNext_plain {indent : Nat} (hindent : 0 < indent) (hm : m ≤ indent) {t : Text}
    {w after : List Char} (hw : Written indent t true w) (hstops : StopsPlain m after n b)
    (hsound : c.IsSound) (hcolumn : m ≤ c.column + 1) (hrest : c.rest = w ++ after) :
    (reading c m o true [] ws).takeNext =
      .ok (reading (c.skip (w.length + n)) m o b [keyAt c m ws.length]
        (ws ++ [.scalar t true])) := by
  cases hw with
  | @plain cs _ ht htag hbegins h =>
      subst ht
      obtain ⟨ch, v, rfl, hgap, -⟩ := h.exists_cons
      have hpeek : c.peek = some ch := by rw [Cursor.peek, hrest]; rfl
      unfold takeNext
      rw [show (reading c m o true [] ws).cursor.peek = some ch from hpeek]
      dsimp only
      rw [takeToken_plain hbegins hstops.1 hgap hrest, takePlain, markKey_reading]
      have hscan := h.scan hindent hm hstops hsound hcolumn hrest
      show Except.ok ({ (reading c m o true [keyAt c m ws.length] ws).emit
          (.scalar (.ofChars (scanPlain false m c).1.chars) true) with
        cursor := (scanPlain false m c).1.cursor
        keyAllowed := (scanPlain false m c).2 } : Scanner) = _
      rw [hscan]
      simp [reading, emit]

/-- What may be a key at the cursor stands before no token that was taken. -/
theorem isOrdered_reading_keyAt {d : Cursor} (hline : c.line ≤ d.line) :
    (reading d m o b [keyAt c n ws.length] ts).IsOrdered :=
  ⟨fun _ _ => Nat.zero_le _, fun k hk => by
    obtain rfl := List.mem_singleton.mp hk
    exact hline⟩

theorem left_skip_lt (hsound : c.IsSound) (hn : 0 < n) (hrest : c.rest ≠ []) :
    (c.skip n).left < c.left := by
  have hlength := List.length_pos_of_ne_nil hrest
  rw [(hsound.skip n).left, hsound.left, Cursor.skip_rest, List.length_drop]
  omega

/-- Characters that were read leave less of the text. -/
theorem left_reading_lt {m' : Nat} {o' : List Nat} {b' : Bool} {ks' : List PossibleKey}
    {ws' : List Token} (hsound : c.IsSound) (hn : 0 < n) (hrest : c.rest ≠ []) :
    (reading (c.skip n) m o b ks ws).cursor.left < (reading c m' o' b' ks' ws').cursor.left :=
  left_skip_lt hsound hn hrest

/-- A scalar at the end of a line, where it is no key. -/
theorem Continues.scalar_line {indent : Nat} (hindent : 0 < indent) (hm : m ≤ indent) {t : Text}
    {plain : Bool} {w : List Char} (hw : Written indent t plain w) (hn : n < m)
    (hcolumn : m ≤ c.column) (hsound : c.IsSound)
    (hrest : c.rest = w ++ '\n' :: (List.replicate n ' ' ++ rest)) (hstart : IsLineStart rest)
    (h : ((reading (c.skip (w.length + (1 + n))) m o true [] (ws ++ [.scalar t plain])).unwind
      (n + 1)).Continues ts) :
    (reading c m o true [] ws).Continues ts := by
  have hpos : 0 < w.length := by
    obtain ⟨ch, v, rfl, -⟩ := hw.exists_cons
    exact Nat.succ_pos _
  have hne : c.rest ≠ [] := by rw [hrest]; simp
  have hbehind : (c.skip w.length).rest = '\n' :: (List.replicate n ' ' ++ rest) :=
    Cursor.skip_rest_append hrest
  -- On the next line the scalar can be no key any more.
  have hkey : ∀ k ∈ [keyAt c m ws.length],
      k.line < (c.skip (w.length + (1 + n))).line ∧ k.required = false := by
    intro k hk
    obtain rfl := List.mem_singleton.mp hk
    refine ⟨Cursor.line_lt_skip hrest (by omega), ?_⟩
    show (m == c.column + 1) = false
    rw [beq_eq_false_iff_ne]
    omega
  cases plain with
  | false =>
      refine ⟨_, takeNext_quoted hindent hw (by simp) hsound hrest,
        .inr (left_reading_lt hsound hpos hne),
        isOrdered_reading_keyAt (Cursor.line_le_skip _ c), ?_⟩
      rw [Cursor.skip_add] at h hkey
      refine h.gives (settle_line hbehind hstart (hsound.skip _) hkey) ?_ rfl
      rw [unwind_cursor]
      exact (left_skip_lt (hsound.skip _) (by omega) (by rw [hbehind]; simp)).le
  | true =>
      obtain ⟨hend, hline⟩ := Cursor.skip_newLine hrest
      refine ⟨_, takeNext_plain hindent hm hw (stopsPlain_line hn hstart.solid) hsound (by omega)
        hrest, .inr (left_reading_lt hsound (by omega) hne),
        isOrdered_reading_keyAt (Cursor.line_le_skip _ c), ?_⟩
      have hstale : ∀ k ∈ [keyAt c m ws.length],
          PossibleKey.isStale ((c.skip (w.length + (1 + n))).skip 0) k = true ∧ k.required = false :=
        fun k hk => ⟨by simp [PossibleKey.isStale, Cursor.skip, (hkey k hk).1.ne], (hkey k hk).2⟩
      have hsettle : (reading (c.skip (w.length + (1 + n))) m o true [keyAt c m ws.length]
          (ws ++ [.scalar t true])).settle = .ok _ :=
        settle_spaces (n := 0) hend hstart hstale
      rw [Cursor.skip, hline] at hsettle
      refine h.gives hsettle ?_ rfl
      rw [unwind_cursor]
      exact Nat.le_refl _

/-- At a colon the token before it turns out to be a key, and the first key opens a map. -/
theorem takeNext_value {d : Cursor} (hm : m ≤ 1) (hcolumn : c.column = 0)
    (hrest : d.rest = ':' :: rest) (hgap : ∀ ch ∈ rest.head?, isGap ch = true) (token : Token) :
    (reading d m o false [keyAt c m ws.length] (ws ++ [token])).takeNext =
      .ok (reading (d.skip 1) 1 (if m = 0 then m :: o else o) false []
        (ws ++ (if m = 0 then [.blockMap] else []) ++ [.key, token, .value])) := by
  have hpeek : d.peek = some ':' := by rw [Cursor.peek, hrest]; rfl
  have hseparator : d.atSeparator = false := by
    refine Cursor.atSeparator_eq_false fun ch hch => ?_
    rw [hrest] at hch
    cases hch
    decide
  have hnext : d.gapAt 1 = true := by
    unfold Cursor.gapAt Cursor.peekAt
    rw [hrest]
    cases rest with
    | nil => rfl
    | cons ch rest => exact hgap ch rfl
  have htake : (reading d m o false [keyAt c m ws.length] (ws ++ [token])).takeToken ':' =
      (reading d m o false [keyAt c m ws.length] (ws ++ [token])).takeValue := by
    simp [takeToken, reading, hseparator, hnext]
  unfold takeNext
  rw [show (reading d m o false [keyAt c m ws.length] (ws ++ [token])).cursor.peek = some ':'
    from hpeek]
  dsimp only
  rw [htake]
  -- at the margin 0 no block is open yet, at the margin 1 the map is
  rcases Nat.eq_zero_or_pos m with rfl | hpos
  · simp [takeValue, reading, keyAt, insertToken, openBlock, emit, hcolumn, Cursor.skip]
  · obtain rfl : m = 1 := by omega
    simp [takeValue, reading, keyAt, insertToken, openBlock, emit, hcolumn, Cursor.skip]

/-- A scalar that is the key of an entry. -/
theorem Continues.scalar_key {indent : Nat} (hindent : 0 < indent) (hm : m ≤ 1)
    (hcolumn : c.column = 0) {t : Text} {plain : Bool} {w : List Char}
    (hw : Written indent t plain w) (hline : IsOneLine w) (hlength : w.length ≤ keyLimit)
    (hsound : c.IsSound) (hrest : c.rest = w ++ ':' :: rest)
    (hgap : ∀ ch ∈ rest.head?, isGap ch = true)
    (h : (reading (c.skip (w.length + 1)) 1 (if m = 0 then m :: o else o) false []
      (ws ++ (if m = 0 then [.blockMap] else []) ++ [.key, .scalar t plain, .value])).Gives ts) :
    (reading c m o true [] ws).Continues ts := by
  have hpos : 0 < w.length := by
    obtain ⟨ch, v, rfl, -⟩ := hw.exists_cons
    exact Nat.succ_pos _
  have hne : c.rest ≠ [] := by rw [hrest]; simp
  have hbehind : (c.skip w.length).rest = ':' :: rest := Cursor.skip_rest_append hrest
  have hscalar : (reading c m o true [] ws).takeNext =
      .ok (reading (c.skip w.length) m o false [keyAt c m ws.length] (ws ++ [.scalar t plain])) := by
    cases plain with
    | false => exact takeNext_quoted hindent hw (by simp) hsound hrest
    | true =>
        exact takeNext_plain hindent (by omega) hw (stopsPlain_colon m hgap) hsound (by omega) hrest
  refine ⟨_, hscalar, .inr (left_reading_lt hsound hpos hne),
    isOrdered_reading_keyAt (Cursor.line_le_skip _ c), ?_⟩
  have hvalue : (reading (c.skip w.length) m o false [keyAt c m ws.length]
      (ws ++ [.scalar t plain])).takeNext =
        .ok (reading (c.skip (w.length + 1)) 1 (if m = 0 then m :: o else o) false []
          (ws ++ (if m = 0 then [.blockMap] else []) ++ [.key, .scalar t plain, .value])) := by
    rw [Cursor.skip_add]
    exact takeNext_value hm hcolumn hbehind hgap _
  -- The colon is on the same line and not too far, so the scalar still may be a key.
  have hfresh : ∀ k ∈ [keyAt c m ws.length], PossibleKey.isStale (c.skip w.length) k = false := by
    intro k hk
    obtain rfl := List.mem_singleton.mp hk
    simp [PossibleKey.isStale, keyAt, Cursor.skip_line hrest hline, Cursor.skip_index hrest, hlength]
  have hstart : IsLineStart (c.skip w.length).rest := by
    rw [hbehind]
    exact isLineStart_cons rfl (by decide)
  refine Continues.gives ⟨_, hvalue, .inr ?_, isOrdered_of_keys_eq_nil rfl, h⟩
    (settle_here hstart hfresh (by omega)) (Nat.le_refl _) rfl
  show (c.skip (w.length + 1)).left < (c.skip w.length).left
  rw [Cursor.skip_add]
  exact left_skip_lt (hsound.skip _) Nat.one_pos (by rw [hbehind]; simp)

/-! ## Indicators -/

/-- An indicator in front of which a block is opened if it stands further in. -/
theorem Continues.blockMark {ch : Char} {block token : Token}
    (htake : ∀ {d}, d.rest = ch :: ' ' :: rest → (reading d m o true [] ws).takeToken ch =
      ((reading d m o true [] ws).openBlock d.column ws.length block).indicator token 1 true)
    (hrest : c.rest = ch :: ' ' :: rest) (hsound : c.IsSound)
    (h : (reading c.next (if m ≤ c.column then c.column + 1 else m)
      (if m ≤ c.column then m :: o else o) true []
      (ws ++ (if m ≤ c.column then [block] else []) ++ [token])).Gives ts) :
    (reading c m o true [] ws).Continues ts := by
  have hpeek : c.peek = some ch := by rw [Cursor.peek, hrest]; rfl
  have hstep : (reading c m o true [] ws).takeNext =
      .ok (reading c.next (if m ≤ c.column then c.column + 1 else m)
        (if m ≤ c.column then m :: o else o) true []
        (ws ++ (if m ≤ c.column then [block] else []) ++ [token])) := by
    unfold takeNext
    rw [show (reading c m o true [] ws).cursor.peek = some ch from hpeek]
    dsimp only
    rw [htake hrest]
    by_cases hopens : m ≤ c.column
    · simp [openBlock, indicator, dropKey, dropKeys, reading, insertToken, emit, hopens, bind,
        Except.bind, pure, Except.pure, Cursor.skip]
    · simp [openBlock, indicator, dropKey, dropKeys, reading, emit, hopens, bind, Except.bind,
        pure, Except.pure, Cursor.skip]
  exact ⟨_, hstep, .inr (left_skip_lt (n := 1) hsound Nat.one_pos (by rw [hrest]; simp)),
    isOrdered_of_keys_eq_nil rfl, h⟩

/-- A space in front of the next token. -/
theorem Continues.space (hrest : c.rest = ' ' :: rest) (hstart : IsLineStart rest)
    (hm : m ≤ c.column + 2) (hsound : c.IsSound)
    (h : (reading c.next m o b [] ws).Continues ts) : (reading c m o b [] ws).Gives ts := by
  have hsettle : (reading c m o b [] ws).settle = .ok _ :=
    settle_spaces (n := 1) hrest hstart (by simp)
  have hcolumn : (c.skip 1).column = c.column + 1 :=
    Cursor.next_column hrest rfl (by decide)
  rw [hcolumn, unwind_of_le hm] at hsettle
  exact h.gives hsettle (left_skip_lt (n := 1) hsound Nat.one_pos (by rw [hrest]; simp)).le rfl

theorem atSeparator_of_space {ch : Char} (hrest : c.rest = ch :: ' ' :: rest) :
    c.atSeparator = false := by
  unfold Cursor.atSeparator Cursor.begins
  rw [hrest]
  simp [List.isPrefixOf]

theorem gapAt_one_of_space {ch : Char} (hrest : c.rest = ch :: ' ' :: rest) :
    c.gapAt 1 = true := by
  unfold Cursor.gapAt Cursor.peekAt
  rw [hrest]
  rfl

/-- The hyphen of an item. -/
theorem Continues.entry (hrest : c.rest = '-' :: ' ' :: rest) (hsound : c.IsSound)
    (h : (reading c.next (if m ≤ c.column then c.column + 1 else m)
      (if m ≤ c.column then m :: o else o) true []
      (ws ++ (if m ≤ c.column then [.blockSequence] else []) ++ [.entry])).Gives ts) :
    (reading c m o true [] ws).Continues ts := by
  refine Continues.blockMark (fun {d} hd => ?_) hrest hsound h
  simp [takeToken, takeEntry, reading, count, atSeparator_of_space hd, gapAt_one_of_space hd]

/-- The question mark of a key. -/
theorem Continues.key (hrest : c.rest = '?' :: ' ' :: rest) (hsound : c.IsSound)
    (h : (reading c.next (if m ≤ c.column then c.column + 1 else m)
      (if m ≤ c.column then m :: o else o) true []
      (ws ++ (if m ≤ c.column then [.blockMap] else []) ++ [.key])).Gives ts) :
    (reading c m o true [] ws).Continues ts := by
  refine Continues.blockMark (fun {d} hd => ?_) hrest hsound h
  simp [takeToken, takeKey, reading, count, atSeparator_of_space hd, gapAt_one_of_space hd]

/-- The colon of a value whose key stands behind a question mark. -/
theorem Continues.value (hrest : c.rest = ':' :: ' ' :: rest) (hsound : c.IsSound)
    (h : (reading c.next (if m ≤ c.column then c.column + 1 else m)
      (if m ≤ c.column then m :: o else o) true []
      (ws ++ (if m ≤ c.column then [.blockMap] else []) ++ [.value])).Gives ts) :
    (reading c m o true [] ws).Continues ts := by
  refine Continues.blockMark (fun {d} hd => ?_) hrest hsound h
  simp [takeToken, takeValue, reading, count, atSeparator_of_space hd, gapAt_one_of_space hd]

/-! ## Brackets and the end -/

/-- A scanner within the brackets of a list. -/
def within (c : Cursor) (margin : Nat) (outer : List Nat) (keys : List PossibleKey)
    (ws : List Token) : Scanner :=
  { reading c margin outer true keys ws with level := 1 }

theorem settle_within (h : IsLineStart c.rest)
    (hkeys : ∀ k ∈ ks, PossibleKey.isStale c k = false) :
    (within c m o ks ws).settle = .ok (within c m o ks ws) := by
  have hskip : skipToToken (c.left + 1) (within c m o ks ws) = within c m o ks ws :=
    skipToToken_here c.left (skipComment_of_isLineStart h)
      (Cursor.takeBreak_eq_none (isBreak_of_isSolid h.solid))
  have hfresh : ks.filter (!PossibleKey.isStale c ·) = ks :=
    List.filter_eq_self.mpr fun k hk => by simp [hkeys k hk]
  unfold settle
  show ((skipToToken (c.left + 1) (within c m o ks ws)).dropStaleKeys >>= _) = _
  rw [hskip, dropStaleKeys_of_forall fun k hk hstale =>
    absurd ((hkeys k hk).symm.trans hstale) Bool.false_ne_true]
  show Except.ok { within c m o ks ws with keys := ks.filter (!PossibleKey.isStale c ·) } = _
  rw [hfresh]
  rfl

/-- The key that may be at the cursor, if keys are allowed there. -/
def keysAt (c : Cursor) (margin before : Nat) (keyAllowed : Bool) : List PossibleKey :=
  if keyAllowed then [keyAt c margin before] else []

theorem eq_keyAt_of_mem {n : Nat} {k : PossibleKey} (h : k ∈ keysAt c m n b) : k = keyAt c m n := by
  cases b with
  | false => exact absurd h List.not_mem_nil
  | true => exact List.mem_singleton.mp h

theorem takeNext_openBracket (hrest : c.rest = '[' :: rest) :
    (reading c m o b [] ws).takeNext =
      .ok (within c.next m o (keysAt c m ws.length b) (ws ++ [.flowSequence])) := by
  have hpeek : c.peek = some '[' := by rw [Cursor.peek, hrest]; rfl
  have hseparator : c.atSeparator = false :=
    Cursor.atSeparator_eq_false (by rw [hrest]; rintro _ ⟨⟩; decide)
  have hbracket : (reading c m o b [] ws).takeToken '[' =
      (reading c m o b [] ws).openBracket .flowSequence := by
    simp [takeToken, reading, hseparator]
  unfold takeNext
  rw [show (reading c m o b [] ws).cursor.peek = some '[' from hpeek]
  dsimp only
  rw [hbracket, openBracket]
  cases b with
  | false => simp [markKey, reading, within, keysAt, emit, bind, Except.bind, pure, Except.pure]
  | true =>
      rw [markKey_reading]
      simp [reading, within, keysAt, emit, bind, Except.bind, pure, Except.pure]

/-- The bracket closes the list and leaves what may be a key in front of it. -/
theorem takeNext_closeBracket (hrest : c.rest = ']' :: rest)
    (hkeys : ∀ k ∈ ks, k.level = 0 ∧ k.required = false) :
    (within c m o ks ws).takeNext = .ok (reading c.next m o false ks (ws ++ [.flowSequenceEnd])) := by
  have hpeek : c.peek = some ']' := by rw [Cursor.peek, hrest]; rfl
  have hseparator : c.atSeparator = false :=
    Cursor.atSeparator_eq_false (by rw [hrest]; rintro _ ⟨⟩; decide)
  have hbracket : (within c m o ks ws).takeToken ']' =
      (within c m o ks ws).closeBracket .flowSequenceEnd := by
    simp [takeToken, within, reading, hseparator]
  have hkept : ks.filter (fun k => !(k.level == 1)) = ks :=
    List.filter_eq_self.mpr fun k hk => by simp [(hkeys k hk).1]
  have hnone : ks.any (fun k => k.level == 1 && k.required) = false :=
    List.any_eq_false.mpr fun k hk => by simp [(hkeys k hk).2]
  unfold takeNext
  rw [show (within c m o ks ws).cursor.peek = some ']' from hpeek]
  dsimp only
  rw [hbracket]
  simp [closeBracket, dropKey, dropKeys, within, reading, hkept, hnone, emit, bind, Except.bind,
    pure, Except.pure]

/-- An empty list at the end of a line, whether a key may stand there or not. -/
theorem Continues.emptyList (hrest : c.rest = '[' :: ']' :: '\n' :: rest) (hstart : IsLineStart rest)
    (hm : m ≤ c.column) (hm' : m ≤ 1) (hsound : c.IsSound)
    (h : (reading (c.skip 3) m o true [] (ws ++ [.flowSequence, .flowSequenceEnd])).Continues ts) :
    (reading c m o b [] ws).Continues ts := by
  have hnext : c.next.rest = ']' :: '\n' :: rest := by rw [Cursor.next_rest, hrest, List.tail_cons]
  have hbehind : (c.skip 2).rest = '\n' :: (List.replicate 0 ' ' ++ rest) := by
    rw [Cursor.skip_rest, hrest]
    rfl
  have hrequired : (keyAt c m ws.length).required = false := by
    show (m == c.column + 1) = false
    rw [beq_eq_false_iff_ne]
    omega
  have hclose : (within c.next m o (keysAt c m ws.length b) (ws ++ [.flowSequence])).takeNext =
      .ok (reading (c.skip 2) m o false (keysAt c m ws.length b)
        (ws ++ [.flowSequence] ++ [.flowSequenceEnd])) :=
    takeNext_closeBracket hnext fun k hk => by
      rw [eq_keyAt_of_mem hk]
      exact ⟨rfl, hrequired⟩
  rw [List.append_assoc] at hclose
  -- Within the brackets the list may still become a key, on the next line it no longer can.
  have hfresh : ∀ k ∈ keysAt c m ws.length b, PossibleKey.isStale c.next k = false := by
    intro k hk
    rw [eq_keyAt_of_mem hk]
    simp [PossibleKey.isStale, keyAt, Cursor.next_line hrest rfl, Cursor.next_index hrest, keyLimit]
  have hstale : ∀ k ∈ keysAt c m ws.length b,
      k.line < ((c.skip 2).skip (1 + 0)).line ∧ k.required = false := by
    intro k hk
    rw [eq_keyAt_of_mem hk, ← Cursor.skip_add]
    exact ⟨Cursor.line_lt_skip (v := ['[', ']']) hrest (by decide), hrequired⟩
  have hline : (reading (c.skip 2) m o false (keysAt c m ws.length b)
      (ws ++ [.flowSequence, .flowSequenceEnd])).settle = .ok _ :=
    settle_line hbehind hstart (hsound.skip 2) hstale
  rw [unwind_of_le (by omega), ← Cursor.skip_add] at hline
  have hleft : (c.skip 2).left < c.next.left :=
    left_skip_lt hsound.next Nat.one_pos (by rw [hnext]; simp)
  refine ⟨_, takeNext_openBracket hrest,
    .inr (left_skip_lt (n := 1) hsound Nat.one_pos (by rw [hrest]; simp)),
    ⟨fun _ _ => Nat.zero_le _, fun k hk => ?_⟩, ?_⟩
  · rw [eq_keyAt_of_mem hk]
    exact Cursor.line_le_next c
  · refine Continues.gives ⟨_, hclose, .inr hleft, ⟨fun _ _ => Nat.zero_le _, fun k hk => ?_⟩,
      h.gives hline ?_ rfl⟩
      (settle_within (by rw [hnext]; exact isLineStart_cons rfl (by decide)) hfresh)
      (Nat.le_refl _) rfl
    · rw [eq_keyAt_of_mem hk]
      exact Cursor.line_le_skip 2 c
    · rw [Cursor.skip_add 2 1]
      exact (left_skip_lt (hsound.skip 2) Nat.one_pos (by rw [hbehind]; simp)).le

/-- The end of the text closes the map of a document. -/
theorem Continues.finish (hrest : c.rest = []) :
    (reading c 1 [0] b [] ws).Continues (ws ++ [.blockEnd]) := by
  have hpeek : c.peek = none := by rw [Cursor.peek, hrest]; rfl
  have hunwind : (reading c 1 [0] b [] ws).unwind 0 = reading c 0 [] b [] (ws ++ [.blockEnd]) :=
    unwind_close (by decide) (by decide)
  refine ⟨{ reading c 0 [] b [] (ws ++ [.blockEnd]) with done := true }, ?_, .inl rfl,
    isOrdered_of_keys_eq_nil rfl, .done rfl rfl rfl⟩
  unfold takeNext
  rw [show (reading c 1 [0] b [] ws).cursor.peek = none from hpeek]
  dsimp only
  rw [hunwind]
  rfl

end

end Scanner

end Casebook.Yaml

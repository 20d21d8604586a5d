import Casebook.Proofs.Yaml.Cursor
import Casebook.Yaml.Token
import Mathlib

/-!
# Tokens that are read ahead

The scanner reads on when its next token might still become a key, so how many tokens wait depends
on when tokens are taken. What a step of reading does to the tokens that wait does not depend on
the first of them, once that one is settled (`sparesFirst_advance`). So the tokens that are taken
one by one are those that wait when the whole text is read before any of them is taken. Main
statements: `Feeds.ready` and `Feeds.drop`.
-/

namespace Casebook.Yaml.Scanner

/-- The second scanner is the first one without its first waiting token, which no key can come to
stand in front of. -/
inductive Behind (w : Token) : Scanner → Scanner → Prop
  | mk (s : Scanner) (a : Array Token) : (∀ k ∈ s.keys, s.taken < k.before) →
      Behind w { s with waiting := #[w] ++ a } { s with waiting := a, taken := s.taken + 1 }

/-- A step does the same with and without a first waiting token that is settled. -/
def SparesFirst (f : Scanner → Except Halt Scanner) : Prop :=
  ∀ ⦃w s t s'⦄, Behind w s t → f s = .ok s' → ∃ t', f t = .ok t' ∧ Behind w s' t'

section
variable {w : Token} {s t : Scanner} {f g : Scanner → Except Halt Scanner}

theorem Behind.drop (h : Behind w s t) : s.drop = t := by
  obtain ⟨s, a, hkeys⟩ := h
  show { s with waiting := (#[w] ++ a).extract 1 (#[w] ++ a).size, taken := s.taken + 1 } = _
  congr 1
  apply Array.ext'
  simp

theorem Behind.next? (h : Behind w s t) : s.next? = some w := by
  obtain ⟨s, a, hkeys⟩ := h
  show (#[w] ++ a)[0]? = some w
  simp

theorem Behind.cursor (h : Behind w s t) : t.cursor = s.cursor := by
  obtain ⟨s, a, hkeys⟩ := h
  rfl

theorem Behind.count (h : Behind w s t) : t.count = s.count := by
  obtain ⟨s, a, hkeys⟩ := h
  show s.taken + 1 + a.size = s.taken + (#[w] ++ a).size
  rw [Array.size_append]
  show s.taken + 1 + a.size = s.taken + (1 + a.size)
  omega

theorem exists_behind (hwaits : 0 < s.waiting.size) (hkeys : ∀ k ∈ s.keys, s.taken < k.before) :
    ∃ w, Behind w s s.drop := by
  rcases hs : s.waiting with ⟨ws⟩
  rcases ws with _ | ⟨w, ws⟩
  · rw [hs] at hwaits
    exact absurd hwaits (Nat.lt_irrefl 0)
  · have hsplit : s.waiting = #[w] ++ ws.toArray := by simp [hs]
    have hbehind : Behind w s { s with waiting := ws.toArray, taken := s.taken + 1 } := by
      have h := Behind.mk (w := w) s ws.toArray hkeys
      rwa [← hsplit] at h
    exact ⟨w, hbehind.drop ▸ hbehind⟩

/-! ## Steps that are built from steps -/

theorem SparesFirst.bind (hf : SparesFirst f) (hg : SparesFirst g) :
    SparesFirst fun s => f s >>= g := by
  intro w s t s' h hs
  dsimp only at hs ⊢
  cases hs₁ : f s with
  | error halt => rw [hs₁] at hs; cases hs
  | ok s₁ =>
  replace hs' : g s₁ = .ok s' := by rwa [hs₁] at hs
  obtain ⟨t₁, ht₁, h₁⟩ := hf h hs₁
  obtain ⟨t', ht', h'⟩ := hg h₁ hs'
  exact ⟨t', by rw [ht₁]; exact ht', h'⟩

theorem SparesFirst.pure {u : Scanner → Scanner}
    (hu : ∀ {w s t}, Behind w s t → Behind w (u s) (u t)) : SparesFirst fun s => .ok (u s) := by
  intro w s t s' h hs
  obtain rfl := Except.ok.inj hs
  exact ⟨u t, rfl, hu h⟩

theorem sparesFirst_refuse : SparesFirst fun s => s.cursor.refuse := by
  intro w s t s' h hs
  cases hs

/-- A choice between steps by what both scanners agree in. -/
theorem SparesFirst.ite {p : Scanner → Prop} [DecidablePred p]
    (hp : ∀ {w s t}, Behind w s t → (p t ↔ p s)) (hf : SparesFirst f) (hg : SparesFirst g) :
    SparesFirst fun s => if p s then f s else g s := by
  intro w s t s' h hs
  dsimp only at hs ⊢
  by_cases hps : p s
  · rw [if_pos hps] at hs
    rw [if_pos ((hp h).mpr hps)]
    exact hf h hs
  · rw [if_neg hps] at hs
    rw [if_neg (mt (hp h).mp hps)]
    exact hg h hs

end

/-! ## The parts of a step -/

section
variable {w : Token} {s t : Scanner}

theorem Behind.level (h : Behind w s t) : t.level = s.level := by
  obtain ⟨s, a, hkeys⟩ := h
  rfl

theorem Behind.keyAllowed (h : Behind w s t) : t.keyAllowed = s.keyAllowed := by
  obtain ⟨s, a, hkeys⟩ := h
  rfl

theorem Behind.margin (h : Behind w s t) : t.margin = s.margin := by
  obtain ⟨s, a, hkeys⟩ := h
  rfl

theorem Behind.outer (h : Behind w s t) : t.outer = s.outer := by
  obtain ⟨s, a, hkeys⟩ := h
  rfl

theorem Behind.keys (h : Behind w s t) : t.keys = s.keys := by
  obtain ⟨s, a, hkeys⟩ := h
  rfl

theorem Behind.taken_lt (h : Behind w s t) : ∀ k ∈ s.keys, s.taken < k.before := by
  obtain ⟨s, a, hkeys⟩ := h
  exact hkeys

theorem Behind.taken_lt_count (h : Behind w s t) : s.taken < s.count := by
  obtain ⟨s, a, hkeys⟩ := h
  show s.taken < s.taken + (#[w] ++ a).size
  rw [Array.size_append]
  show s.taken < s.taken + (1 + a.size)
  omega

/-- A change to what both scanners agree in. -/
theorem Behind.change (h : Behind w s t) (u : Scanner → Scanner)
    (hu : ∀ (s : Scanner) (a : Array Token), (∀ k ∈ s.keys, s.taken < k.before) →
      Behind w (u { s with waiting := #[w] ++ a })
        (u { s with waiting := a, taken := s.taken + 1 })) : Behind w (u s) (u t) := by
  obtain ⟨s, a, hkeys⟩ := h
  exact hu s a hkeys

theorem Behind.setKeys (h : Behind w s t) {keys : List PossibleKey}
    (hnew : ∀ k ∈ keys, s.taken < k.before) : Behind w { s with keys } { t with keys } := by
  obtain ⟨s, a, hkeys⟩ := h
  exact ⟨{ s with keys }, a, hnew⟩

theorem Behind.emit (h : Behind w s t) (token : Token) :
    Behind w (s.emit token) (t.emit token) := by
  obtain ⟨s, a, hkeys⟩ := h
  have hpush : (#[w] ++ a).push token = #[w] ++ a.push token := by
    apply Array.ext'
    simp
  show Behind w { s with waiting := (#[w] ++ a).push token } _
  rw [hpush]
  exact ⟨s, a.push token, hkeys⟩

theorem Behind.insertToken (h : Behind w s t) {before : Nat} (hbefore : s.taken < before)
    (token : Token) : Behind w (s.insertToken before token) (t.insertToken before token) := by
  obtain ⟨s, a, hkeys⟩ := h
  obtain ⟨n, hn⟩ := Nat.exists_eq_add_of_lt hbefore
  replace hn : before = s.taken + n + 1 := hn
  subst hn
  have hfront : s.taken + n + 1 - s.taken = n + 1 := by omega
  have hbehind : s.taken + n + 1 - (s.taken + 1) = n := by omega
  have hsplit : (#[w] ++ a).extract 0 (n + 1) ++ #[token] ++
      (#[w] ++ a).extract (n + 1) (#[w] ++ a).size =
        #[w] ++ (a.extract 0 n ++ #[token] ++ a.extract n a.size) := by
    apply Array.ext'
    simp
  unfold Scanner.insertToken
  dsimp only
  rw [hfront, hbehind, hsplit]
  exact ⟨s, _, hkeys⟩

theorem sparesFirst_dropKeys (p : Scanner → PossibleKey → Bool)
    (hp : ∀ {w s t}, Behind w s t → p t = p s) : SparesFirst fun s => s.dropKeys (p s) := by
  intro w s t s' h hs
  unfold dropKeys at hs ⊢
  dsimp only at hs ⊢
  rw [hp h, h.keys]
  split at hs
  · cases hs
  · next hany =>
    rw [if_neg hany]
    obtain rfl := Except.ok.inj hs
    exact ⟨_, rfl, h.setKeys fun k hk => h.taken_lt k (List.mem_of_mem_filter hk)⟩

theorem sparesFirst_dropStaleKeys : SparesFirst dropStaleKeys :=
  sparesFirst_dropKeys (fun s => PossibleKey.isStale s.cursor) fun h => by rw [h.cursor]

theorem sparesFirst_dropKey : SparesFirst dropKey :=
  sparesFirst_dropKeys (fun s k => k.level == s.level) fun h => by rw [h.level]

theorem sparesFirst_markKey : SparesFirst markKey := by
  refine SparesFirst.ite (p := fun s => (!s.keyAllowed) = true) (fun h => by rw [h.keyAllowed])
    (SparesFirst.pure id) ?_
  refine SparesFirst.bind sparesFirst_dropKey (SparesFirst.pure ?_)
  intro w s t h
  have hlt := h.taken_lt_count
  rw [h.count]
  generalize s.count = n at hlt ⊢
  obtain ⟨s, a, hkeys⟩ := h
  refine ⟨{ s with keys := _ }, a, fun k hk => ?_⟩
  rcases List.mem_append.mp hk with hk | hk
  · exact hkeys k hk
  · obtain rfl := List.mem_singleton.mp hk
    exact hlt

theorem Behind.closeBlocks (h : Behind w s t) (margin : Nat) (outer : List Nat) :
    Behind w (closeBlocks margin outer s) (closeBlocks margin outer t) := by
  induction outer generalizing s t with
  | nil => exact h
  | cons m outer ih =>
      rw [Scanner.closeBlocks, Scanner.closeBlocks, h.margin]
      split
      · exact ih ((h.emit .blockEnd).change (fun s => { s with margin := m, outer })
          fun s a hkeys => ⟨{ s with margin := m, outer }, a, hkeys⟩)
      · exact h

theorem Behind.unwind (h : Behind w s t) (margin : Nat) :
    Behind w (s.unwind margin) (t.unwind margin) := by
  unfold Scanner.unwind
  rw [h.level, h.outer]
  split
  · exact h.closeBlocks margin _
  · exact h

theorem Behind.openBlock (h : Behind w s t) {before : Nat} (hbefore : s.taken < before)
    (column : Nat) (token : Token) :
    Behind w (s.openBlock column before token) (t.openBlock column before token) := by
  have hopens : (t.level == 0 && decide (t.margin ≤ column)) =
      (s.level == 0 && decide (s.margin ≤ column)) := by rw [h.level, h.margin]
  unfold Scanner.openBlock
  rw [hopens]
  split
  · exact (h.insertToken hbefore token).change
      (fun s => { s with margin := column + 1, outer := s.margin :: s.outer })
      fun s a hkeys => ⟨{ s with margin := column + 1, outer := s.margin :: s.outer }, a, hkeys⟩
  · exact h

theorem Behind.skipToToken (h : Behind w s t) (fuel : Nat) :
    Behind w (skipToToken fuel s) (skipToToken fuel t) := by
  induction fuel generalizing s t with
  | zero => exact h
  | succ fuel ih =>
      obtain ⟨s, a, hkeys⟩ := h
      rw [Scanner.skipToToken, Scanner.skipToToken]
      dsimp only
      cases s.cursor.skipComment.takeBreak with
      | none => exact ⟨{ s with cursor := _ }, a, hkeys⟩
      | some found => exact ih ⟨{ s with cursor := _, keyAllowed := _ }, a, hkeys⟩

/-! ## Tokens -/

theorem sparesFirst_indicator (token : Token) (length : Nat) (keyAllowed : Bool) :
    SparesFirst fun s => s.indicator token length keyAllowed :=
  SparesFirst.bind sparesFirst_dropKey <| SparesFirst.pure fun h =>
    (h.emit token).change (fun s => { s with cursor := s.cursor.skip length, keyAllowed })
      fun s a hkeys => ⟨{ s with cursor := _, keyAllowed := _ }, a, hkeys⟩

theorem sparesFirst_openBracket (token : Token) : SparesFirst fun s => s.openBracket token :=
  SparesFirst.bind sparesFirst_markKey <| SparesFirst.pure fun h =>
    (h.emit token).change
      (fun s => { s with cursor := s.cursor.next, level := s.level + 1, keyAllowed := true })
      fun s a hkeys => ⟨{ s with cursor := _, level := _, keyAllowed := _ }, a, hkeys⟩

/-- A step behind a test that refuses. -/
theorem SparesFirst.test {p : Scanner → Prop} [DecidablePred p]
    {f : Scanner → Except Halt Scanner} (hp : ∀ {w s t}, Behind w s t → (p t ↔ p s))
    (hf : SparesFirst f) :
    SparesFirst (fun s => do
      if p s then s.cursor.refuse
      f s) := by
  refine SparesFirst.ite hp ?_ hf
  intro w s t s' h hs
  cases hs

theorem sparesFirst_closeBracket (token : Token) : SparesFirst fun s => s.closeBracket token :=
  SparesFirst.test (p := fun s => (s.level == 0) = true) (fun h => by rw [h.level]) <|
    SparesFirst.bind sparesFirst_dropKey <| SparesFirst.pure fun h =>
      (h.emit token).change
        (fun s => { s with cursor := s.cursor.next, level := s.level - 1, keyAllowed := false })
        fun s a hkeys => ⟨{ s with cursor := _, level := _, keyAllowed := _ }, a, hkeys⟩

theorem Behind.canBegin (h : Behind w s t) :
    (t.level == 0 && !t.keyAllowed) = true ↔ (s.level == 0 && !s.keyAllowed) = true := by
  rw [h.level, h.keyAllowed]

/-- An indicator in front of which a block may be opened. -/
theorem sparesFirst_openBlock (block token : Token) (keyAllowed : Scanner → Bool)
    (hallowed : ∀ {w s t}, Behind w s t → keyAllowed t = keyAllowed s) :
    SparesFirst fun s =>
      (s.openBlock s.cursor.column s.count block).indicator token 1 (keyAllowed s) := by
  intro w s t s' h hs
  dsimp only at hs ⊢
  rw [h.count, h.cursor, hallowed h]
  exact sparesFirst_indicator token 1 _ (h.openBlock h.taken_lt_count _ block) hs

theorem sparesFirst_takeEntry : SparesFirst takeEntry :=
  SparesFirst.test (p := fun s => (s.level == 0 && !s.keyAllowed) = true) Behind.canBegin <|
    sparesFirst_openBlock .blockSequence .entry (fun _ => true) fun _ => rfl

theorem sparesFirst_takeKey : SparesFirst takeKey :=
  SparesFirst.test (p := fun s => (s.level == 0 && !s.keyAllowed) = true) Behind.canBegin <|
    sparesFirst_openBlock .blockMap .key (fun s => s.level == 0) fun h => by rw [h.level]

theorem sparesFirst_takeValue : SparesFirst takeValue := by
  intro w s t s' h hs
  obtain ⟨s, a, hkeys⟩ := h
  have h := Behind.mk (w := w) s a hkeys
  unfold takeValue at hs ⊢
  dsimp only at hs ⊢
  cases hk : s.keys.find? (·.level == s.level) with
  | none =>
      rw [hk] at hs
      exact SparesFirst.test (p := fun s => (s.level == 0 && !s.keyAllowed) = true)
        Behind.canBegin (sparesFirst_openBlock .blockMap .value (fun s => s.level == 0)
          fun h => by rw [h.level]) h hs
  | some k =>
      rw [hk] at hs
      obtain rfl := Except.ok.inj hs
      have hlt := hkeys k (List.mem_of_find?_eq_some hk)
      have hless : ∀ k ∈ s.keys.filter (·.level != s.level), s.taken < k.before := fun k hk =>
        hkeys k (List.mem_of_mem_filter hk)
      have hset := h.setKeys hless
      refine ⟨_, rfl, ?_⟩
      exact (((hset.insertToken hlt .key).openBlock hlt k.column .blockMap).emit .value).change
        (fun s => { s with cursor := s.cursor.next, keyAllowed := false })
        fun s a hkeys => ⟨{ s with cursor := s.cursor.next, keyAllowed := false }, a, hkeys⟩

theorem sparesFirst_takeContent (read : Cursor → Except Halt (Token × Cursor)) :
    SparesFirst fun s => s.takeContent read := by
  refine SparesFirst.bind sparesFirst_markKey fun w s t s' h hs => ?_
  rw [h.cursor]
  cases hread : read s.cursor with
  | error halt => rw [hread] at hs; cases hs
  | ok found =>
      rw [hread] at hs
      obtain rfl := Except.ok.inj hs
      exact ⟨_, rfl, (h.emit found.1).change
        (fun s => { s with cursor := found.2, keyAllowed := false })
        fun s a hkeys => ⟨{ s with cursor := _, keyAllowed := _ }, a, hkeys⟩⟩

theorem sparesFirst_takePlain : SparesFirst takePlain := by
  refine SparesFirst.bind sparesFirst_markKey fun w s t s' h hs => ?_
  obtain ⟨s, a, hkeys⟩ := h
  have h := Behind.mk (w := w) s a hkeys
  obtain rfl := Except.ok.inj hs
  refine ⟨_, rfl, ?_⟩
  exact (h.emit _).change (fun s => { s with cursor := _, keyAllowed := _ })
    fun s a hkeys => ⟨{ s with cursor := _, keyAllowed := _ }, a, hkeys⟩

theorem sparesFirst_takeBlock (folded : Bool) : SparesFirst fun s => s.takeBlock folded := by
  refine SparesFirst.bind sparesFirst_dropKey fun w s t s' h hs => ?_
  obtain ⟨s, a, hkeys⟩ := h
  have h := Behind.mk (w := w) s a hkeys
  dsimp only at hs ⊢
  cases hscan : scanBlock folded s.margin s.cursor with
  | error halt => rw [hscan] at hs; cases hs
  | ok scanned =>
      rw [hscan] at hs
      obtain rfl := Except.ok.inj hs
      exact ⟨_, rfl, (h.emit _).change
        (fun s => { s with cursor := scanned.cursor, keyAllowed := true })
        fun s a hkeys => ⟨{ s with cursor := _, keyAllowed := _ }, a, hkeys⟩⟩

theorem sparesFirst_takeMark (token : Token) (behind : Cursor) :
    SparesFirst fun s => s.takeMark token behind := by
  intro w s t s' h hs
  refine SparesFirst.bind sparesFirst_dropKey (SparesFirst.pure ?_) (h.unwind 0) hs
  intro w s t h
  exact (h.emit token).change (fun s => { s with cursor := behind, keyAllowed := false })
    fun s a hkeys => ⟨{ s with cursor := _, keyAllowed := _ }, a, hkeys⟩

theorem Behind.atPlain (h : Behind w s t) : t.atPlain = s.atPlain := by
  obtain ⟨s, a, hkeys⟩ := h
  rfl

/-- A directive is read before anything is made of it. -/
theorem sparesFirst_takeDirective :
    SparesFirst (fun s => do
      let (d, behind) ← scanDirective s.cursor
      s.takeMark (.directive d) behind) := by
  intro w s t s' h hs
  dsimp only at hs ⊢
  rw [h.cursor]
  cases hscan : scanDirective s.cursor with
  | error halt => rw [hscan] at hs; cases hs
  | ok found =>
      rw [hscan] at hs
      exact sparesFirst_takeMark (.directive found.1) found.2 h hs

theorem sparesFirst_takeSeparator (token : Token) :
    SparesFirst fun s => s.takeMark token (s.cursor.skip 3) := by
  intro w s t s' h hs
  dsimp only at hs ⊢
  rw [h.cursor]
  exact sparesFirst_takeMark token _ h hs

theorem sparesFirst_takeToken (ch : Char) : SparesFirst fun s => s.takeToken ch := by
  unfold takeToken
  dsimp only
  refine .ite (fun h => by simp only [h.cursor]) sparesFirst_takeDirective ?_
  refine .ite (fun h => by simp only [h.cursor]) (sparesFirst_takeSeparator _) ?_
  refine .ite (fun h => Iff.rfl) (sparesFirst_openBracket _) ?_
  refine .ite (fun h => Iff.rfl) (sparesFirst_openBracket _) ?_
  refine .ite (fun h => Iff.rfl) (sparesFirst_closeBracket _) ?_
  refine .ite (fun h => Iff.rfl) (sparesFirst_closeBracket _) ?_
  refine .ite (fun h => Iff.rfl) (sparesFirst_indicator _ _ _) ?_
  refine .ite (fun h => by simp only [h.cursor]) sparesFirst_takeEntry ?_
  refine .ite (fun h => by simp only [h.cursor, h.level]) sparesFirst_takeKey ?_
  refine .ite (fun h => by simp only [h.cursor, h.level]) sparesFirst_takeValue ?_
  refine .ite (fun h => Iff.rfl) (sparesFirst_takeContent _) ?_
  refine .ite (fun h => Iff.rfl) (sparesFirst_takeContent _) ?_
  refine .ite (fun h => Iff.rfl) (sparesFirst_takeContent _) ?_
  refine .ite (fun h => by simp only [h.level]) (sparesFirst_takeBlock _) ?_
  refine .ite (fun h => by simp only [h.level]) (sparesFirst_takeBlock _) ?_
  refine .ite (fun h => Iff.rfl) (sparesFirst_takeContent _) ?_
  exact .ite (fun h => by simp only [h.atPlain]) sparesFirst_takePlain sparesFirst_refuse

/-- **A step of reading spares the first waiting token, if it is settled.** -/
theorem sparesFirst_advance : SparesFirst advance := by
  intro w s t s' h hs
  unfold advance at hs ⊢
  dsimp only at hs ⊢
  rw [h.cursor]
  refine SparesFirst.bind sparesFirst_dropStaleKeys ?_ (h.skipToToken _) hs
  intro w s t s' h hs
  dsimp only at hs ⊢
  have hunwind := h.unwind (s.cursor.column + 1)
  rw [h.cursor, hunwind.cursor]
  generalize s.unwind (s.cursor.column + 1) = s₁ at hs hunwind ⊢
  generalize t.unwind (s.cursor.column + 1) = t₁ at hunwind ⊢
  cases hpeek : s₁.cursor.peek with
  | none =>
      rw [hpeek] at hs
      refine SparesFirst.bind sparesFirst_dropKey (SparesFirst.pure ?_) (hunwind.unwind 0) hs
      rintro w s t ⟨s, a, hkeys⟩
      exact ⟨{ s with keys := [], done := true }, a, by simp⟩
  | some ch =>
      rw [hpeek] at hs
      exact sparesFirst_takeToken ch hunwind hs

end

/-! ## Keys that have become stale -/

section
variable {s s' : Scanner} {c d : Cursor} {k : PossibleKey}

/-- A key that is stale stays stale. -/
theorem isStale_mono (hline : c.line ≤ d.line) (hindex : c.index ≤ d.index) (hk : k.line ≤ c.line)
    (h : PossibleKey.isStale c k = true) : PossibleKey.isStale d k = true := by
  simp only [PossibleKey.isStale, Bool.or_eq_true, bne_iff_ne, decide_eq_true_eq] at h ⊢
  omega

theorem takeBreak_le {ch : Char} (h : c.takeBreak = some (ch, d)) :
    c.line ≤ d.line ∧ c.index ≤ d.index := by
  have hskip : ∃ n, d = c.skip n := by
    unfold Cursor.takeBreak at h
    split at h
    · exact ⟨2, (Prod.mk.inj (Option.some.inj h)).2.symm⟩
    · split_ifs at h
      · exact ⟨1, (Prod.mk.inj (Option.some.inj h)).2.symm⟩
      · exact ⟨1, (Prod.mk.inj (Option.some.inj h)).2.symm⟩
    · cases h
  obtain ⟨n, rfl⟩ := hskip
  exact ⟨Cursor.line_le_skip n c, Cursor.index_le_skip n c⟩

theorem skipComment_le (c : Cursor) :
    c.line ≤ c.skipComment.line ∧ c.index ≤ c.skipComment.index := by
  have hskip : ∃ n, c.skipComment = c.skip n := by
    unfold Cursor.skipComment Cursor.skipWhile
    dsimp only
    split
    · exact ⟨_, (Cursor.skip_add _ _ c).symm⟩
    · exact ⟨_, rfl⟩
  obtain ⟨n, hn⟩ := hskip
  rw [hn]
  exact ⟨Cursor.line_le_skip n c, Cursor.index_le_skip n c⟩

/-- Where no line ends behind the blanks, the next token stands. -/
theorem skipToToken_here (fuel : Nat) {s : Scanner} {c : Cursor} (hcomment : s.cursor.skipComment = c)
    (hbreak : c.takeBreak = none) : skipToToken (fuel + 1) s = { s with cursor := c } := by
  subst hcomment
  rw [skipToToken, hbreak]

/-- Where a line ends behind the blanks, the next token is looked for below it. -/
theorem skipToToken_below (fuel : Nat) {s : Scanner} {found : Char × Cursor}
    (hbreak : s.cursor.skipComment.takeBreak = some found) :
    skipToToken (fuel + 1) s =
      skipToToken fuel { s with cursor := found.2, keyAllowed := s.keyAllowed || s.level == 0 } := by
  rw [skipToToken, hbreak]

theorem skipToToken_le (fuel : Nat) (s : Scanner) :
    s.cursor.line ≤ (skipToToken fuel s).cursor.line ∧
      s.cursor.index ≤ (skipToToken fuel s).cursor.index := by
  induction fuel generalizing s with
  | zero => exact ⟨Nat.le_refl _, Nat.le_refl _⟩
  | succ fuel ih =>
      have hcomment := skipComment_le s.cursor
      rw [skipToToken]
      cases hbreak : s.cursor.skipComment.takeBreak with
      | none => exact hcomment
      | some found =>
          have hbelow := takeBreak_le hbreak
          have hrest := ih { s with cursor := found.2, keyAllowed := s.keyAllowed || s.level == 0 }
          exact ⟨(hcomment.1.trans hbelow.1).trans hrest.1,
            (hcomment.2.trans hbelow.2).trans hrest.2⟩

/-- Blanks are skipped whatever keys are possible. -/
theorem skipToToken_setKeys (fuel : Nat) (s : Scanner) (keys : List PossibleKey) :
    skipToToken fuel { s with keys } = { skipToToken fuel s with keys } := by
  induction fuel generalizing s with
  | zero => rfl
  | succ fuel ih =>
      rw [skipToToken, skipToToken]
      cases s.cursor.skipComment.takeBreak with
      | none => rfl
      | some found =>
          exact ih { s with cursor := found.2, keyAllowed := s.keyAllowed || s.level == 0 }

theorem skipToToken_keys (fuel : Nat) (s : Scanner) : (skipToToken fuel s).keys = s.keys := by
  have h := congrArg Scanner.keys (skipToToken_setKeys fuel s s.keys)
  exact h

/-- A possible key stands before no token that was taken, and not below the cursor. -/
structure IsOrdered (s : Scanner) : Prop where
  before : ∀ k ∈ s.keys, s.taken ≤ k.before
  line : ∀ k ∈ s.keys, k.line ≤ s.cursor.line

theorem isOrdered_of_keys_eq_nil (h : s.keys = []) : s.IsOrdered :=
  ⟨by simp [h], by simp [h]⟩

/-- The scanner without the keys that are stale at its cursor. -/
def fresh (s : Scanner) : Scanner :=
  { s with keys := s.keys.filter (!PossibleKey.isStale s.cursor ·) }

theorem dropStaleKeys_eq_ok (h : s.dropStaleKeys = .ok s') :
    s' = s.fresh ∧ ∀ k ∈ s.keys, PossibleKey.isStale s.cursor k = true → k.required = false := by
  unfold dropStaleKeys dropKeys at h
  split at h
  · cases h
  · next hany =>
    refine ⟨(Except.ok.inj h).symm, fun k hk hstale => ?_⟩
    simp only [List.any_eq_true, Bool.and_eq_true, not_exists, not_and] at hany
    exact Bool.not_eq_true _ ▸ hany k hk hstale

theorem dropStaleKeys_of_forall
    (h : ∀ k ∈ s.keys, PossibleKey.isStale s.cursor k = true → k.required = false) :
    s.dropStaleKeys = .ok s.fresh := by
  unfold dropStaleKeys dropKeys
  rw [if_neg]
  · rfl
  · simp only [List.any_eq_true, Bool.and_eq_true, not_exists, not_and]
    exact fun k hk hstale => by simp [h k hk hstale]

theorem fresh_fresh (s : Scanner) : s.fresh.fresh = s.fresh := by
  unfold fresh
  dsimp only
  rw [List.filter_filter]
  simp

theorem IsOrdered.fresh (h : s.IsOrdered) : s.fresh.IsOrdered :=
  ⟨fun k hk => h.before k (List.mem_of_mem_filter hk),
    fun k hk => h.line k (List.mem_of_mem_filter hk)⟩

/-- Keys that are stale may be dropped early: reading on drops them anyway. -/
theorem advance_fresh (hordered : s.IsOrdered) (h : s.advance = .ok s') :
    s.dropStaleKeys = .ok s.fresh ∧ s.fresh.advance = .ok s' := by
  have hle := skipToToken_le (s.cursor.left + 1) s
  have hkeys := skipToToken_keys (s.cursor.left + 1) s
  have hset := skipToToken_setKeys (s.cursor.left + 1) s s.fresh.keys
  have hmono : ∀ k ∈ s.keys, PossibleKey.isStale s.cursor k = true →
      PossibleKey.isStale (skipToToken (s.cursor.left + 1) s).cursor k = true := fun k hk =>
    isStale_mono hle.1 hle.2 (hordered.line k hk)
  -- Keys are dropped again behind the blanks: those that are stale here are stale there.
  unfold advance at h ⊢
  dsimp only at h ⊢
  have hcursor : s.fresh.cursor = s.cursor := rfl
  have hfresh : s.fresh = { s with keys := s.fresh.keys } := rfl
  rw [hcursor, hfresh, hset]
  generalize skipToToken (s.cursor.left + 1) s = s₂ at h hkeys hmono
  cases hdrop : s₂.dropStaleKeys with
  | error halt => rw [hdrop] at h; cases h
  | ok s₃ =>
      obtain ⟨rfl, hrequired⟩ := dropStaleKeys_eq_ok hdrop
      rw [hkeys] at hrequired
      refine ⟨dropStaleKeys_of_forall fun k hk hstale => hrequired k hk (hmono k hk hstale), ?_⟩
      have hsame : ({ s₂ with keys := s.fresh.keys } : Scanner).dropStaleKeys = .ok s₂.fresh := by
        rw [dropStaleKeys_of_forall (s := { s₂ with keys := s.fresh.keys }) fun k hk hstale =>
          hrequired k (List.mem_of_mem_filter hk) hstale]
        have hfilter : s.fresh.keys.filter (!PossibleKey.isStale s₂.cursor ·) =
            s₂.keys.filter (!PossibleKey.isStale s₂.cursor ·) := by
          rw [hkeys]
          show (s.keys.filter _).filter _ = _
          rw [List.filter_filter]
          refine List.filter_congr fun k hk => ?_
          have hk := hmono k hk
          cases hone : PossibleKey.isStale s.cursor k
          · simp
          · simp [hk hone]
        exact congrArg (fun keys => Except.ok { s₂ with keys }) hfilter
      rw [hsame]
      rw [hdrop] at h
      exact h

end

/-! ## All tokens of a text -/

/-- Reading the text to its end leaves these tokens. -/
inductive Gives : Scanner → List Token → Prop
  | done {s ts} : s.done = true → s.keys = [] → s.waiting.toList = ts → Gives s ts
  | step {s s' ts} : s.done = false → s.advance = .ok s' →
      (s'.done = true ∨ s'.cursor.left < s.cursor.left) → s'.IsOrdered → Gives s' ts → Gives s ts

/-- These tokens are still to be taken. -/
structure Feeds (s : Scanner) (ts : List Token) : Prop where
  gives : s.Gives ts
  ordered : s.IsOrdered

/-- The next token can be taken, or there is none. -/
def IsReady (s : Scanner) : Prop := s.needsMore = .ok (s, false)

section
variable {s : Scanner} {w : Token} {ts : List Token}

theorem Behind.done (h : Behind w s t) : t.done = s.done := by
  obtain ⟨s, a, hkeys⟩ := h
  rfl

theorem Behind.isOrdered (h : Behind w s t) (hordered : s.IsOrdered) : t.IsOrdered := by
  obtain ⟨s, a, hkeys⟩ := h
  exact ⟨hkeys, hordered.line⟩

/-- Without a first token that is settled the others are left. -/
theorem Gives.behind (h : s.Gives ts) {t : Scanner} (hbehind : Behind w s t) :
    ∃ rest, ts = w :: rest ∧ t.Gives rest := by
  induction h generalizing t with
  | done hdone hkeys hwaiting =>
      refine ⟨t.waiting.toList, ?_, .done (hbehind.done.trans hdone) (hbehind.keys.trans hkeys) rfl⟩
      obtain ⟨s, a, hsettled⟩ := hbehind
      rw [← hwaiting]
      simp
  | step hdone hadvance hless hordered h ih =>
      obtain ⟨t', ht', hbehind'⟩ := sparesFirst_advance hbehind hadvance
      obtain ⟨rest, rfl, hrest⟩ := ih hbehind'
      refine ⟨rest, rfl, .step (hbehind.done.trans hdone) ht' ?_ (hbehind'.isOrdered hordered)
        hrest⟩
      rwa [hbehind'.done, hbehind'.cursor, hbehind.cursor]

theorem Gives.fresh (h : s.Gives ts) (hordered : s.IsOrdered) (hdone : s.done = false) :
    s.dropStaleKeys = .ok s.fresh ∧ s.fresh.Gives ts := by
  cases h with
  | done hdone' => rw [hdone] at hdone'; cases hdone'
  | step _ hadvance hless hordered' h =>
      obtain ⟨hdrop, hfresh⟩ := advance_fresh hordered hadvance
      exact ⟨hdrop, .step hdone hfresh hless hordered' h⟩

theorem isReady_fresh (hdone : s.done = false) (hwaits : s.waiting.isEmpty = false)
    (hdrop : s.dropStaleKeys = .ok s.fresh) (hkeys : s.fresh.keys.any (·.before == s.taken) = false) :
    s.fresh.IsReady := by
  have hagain : s.fresh.dropStaleKeys = .ok s.fresh := by
    obtain ⟨-, hrequired⟩ := dropStaleKeys_eq_ok hdrop
    rw [dropStaleKeys_of_forall (s := s.fresh) fun k hk =>
      hrequired k (List.mem_of_mem_filter hk), fresh_fresh]
  unfold IsReady needsMore
  rw [if_neg (by rw [show s.fresh.done = false from hdone]; decide),
    if_neg (by rw [show s.fresh.waiting.isEmpty = false from hwaits]; decide), hagain]
  show Except.ok (s.fresh, s.fresh.keys.any (·.before == s.taken)) = _
  rw [hkeys]

/-- Reading on comes to where the next token can be taken. -/
theorem Gives.readyWithin (h : s.Gives ts) (hordered : s.IsOrdered) {fuel : Nat}
    (hfuel : 0 < fuel) (hleft : s.done = true ∨ s.cursor.left + 1 < fuel) :
    ∃ r, s.readyWithin fuel = .ok r ∧ r.IsReady ∧ r.Feeds ts := by
  induction h generalizing fuel with
  | @done s ts hdone hkeys hwaiting =>
      obtain ⟨fuel, rfl⟩ := Nat.exists_eq_succ_of_ne_zero hfuel.ne'
      have hready : s.needsMore = .ok (s, false) := by
        unfold needsMore
        rw [if_pos hdone]
      refine ⟨s, ?_, hready, .done hdone hkeys hwaiting, hordered⟩
      rw [Scanner.readyWithin, hready]
      rfl
  | @step s s' ts hdone hadvance hless hordered' h ih =>
      obtain ⟨fuel, rfl⟩ := Nat.exists_eq_succ_of_ne_zero hfuel.ne'
      have hstep := Gives.step hdone hadvance hless hordered' h
      have hleft := hleft.resolve_left (by simp [hdone])
      obtain ⟨r, hr⟩ := ih hordered' (show 0 < fuel by omega) (hless.imp_right fun h => by omega)
      rw [Scanner.readyWithin, needsMore, if_neg (by simp [hdone])]
      split
      · refine ⟨r, ?_, hr.2⟩
        show (s.advance >>= Scanner.readyWithin fuel) = _
        rw [hadvance]
        exact hr.1
      · next hwaits =>
        obtain ⟨hdrop, hfresh⟩ := hstep.fresh hordered hdone
        rw [hdrop]
        -- Reading goes on as long as a token may still be put before the first that waits.
        cases hkeys : s.fresh.keys.any (·.before == s.taken) with
        | true =>
            refine ⟨r, ?_, hr.2⟩
            show (if s.fresh.keys.any (·.before == s.taken) = true then
              s.fresh.advance >>= Scanner.readyWithin fuel else _) = _
            rw [hkeys, if_pos rfl, (advance_fresh hordered hadvance).2]
            exact hr.1
        | false =>
            refine ⟨s.fresh, ?_, isReady_fresh hdone (Bool.not_eq_true _ ▸ hwaits) hdrop hkeys,
              hfresh, hordered.fresh⟩
            show (if s.fresh.keys.any (·.before == s.taken) = true then _
              else (Except.ok s.fresh : Except Halt Scanner)) = _
            rw [hkeys, if_neg (by decide)]

/-- A look at the keys leaves the tokens as they are. -/
theorem Feeds.needsMore (h : s.Feeds ts) :
    ∃ s' more, s.needsMore = .ok (s', more) ∧ s'.Feeds ts ∧ (more = false → s'.IsReady) := by
  by_cases hdone : s.done = true
  · have hready : s.needsMore = .ok (s, false) := by
      unfold Scanner.needsMore
      rw [if_pos hdone]
    exact ⟨s, false, hready, h, fun _ => hready⟩
  · unfold Scanner.needsMore
    rw [if_neg hdone]
    split
    · exact ⟨s, true, rfl, h, by simp⟩
    · next hwaits =>
      replace hdone := Bool.not_eq_true _ ▸ hdone
      obtain ⟨hdrop, hfresh⟩ := h.gives.fresh h.ordered hdone
      rw [hdrop]
      exact ⟨s.fresh, _, rfl, ⟨hfresh, h.ordered.fresh⟩,
        isReady_fresh hdone (Bool.not_eq_true _ ▸ hwaits) hdrop⟩

/-- **The scanner can be made ready for its next token, and then it feeds the same tokens.** -/
theorem Feeds.ready (h : s.Feeds ts) : ∃ r, s.ready = .ok r ∧ r.IsReady ∧ r.Feeds ts := by
  obtain ⟨s', more, hmore, h', hready⟩ := h.needsMore
  rw [Scanner.ready, hmore]
  cases more with
  | false => exact ⟨s', rfl, hready rfl, h'⟩
  | true => exact h'.gives.readyWithin h'.ordered (by omega) (.inr (by omega))

/-- A scanner that is ready stays as it is. -/
theorem IsReady.ready (h : s.IsReady) : s.ready = .ok s := by
  unfold IsReady at h
  rw [Scanner.ready, h]
  rfl

/-- **The next token of a scanner that is ready is the first of those it feeds, and the others are
left when it is taken.** -/
theorem Feeds.next (h : s.Feeds ts) (hready : s.IsReady) :
    s.next? = ts.head? ∧ ∀ t rest, ts = t :: rest → s.drop.Feeds rest := by
  by_cases hdone : s.done = true
  · cases h.gives with
    | step hdone' => rw [hdone] at hdone'; cases hdone'
    | done _ hkeys hwaiting =>
        refine ⟨?_, fun t rest hts => ⟨.done hdone hkeys ?_, isOrdered_of_keys_eq_nil hkeys⟩⟩
        · rw [← hwaiting, Scanner.next?, List.head?_eq_getElem?, Array.getElem?_toList]
        · show (s.waiting.extract 1 s.waiting.size).toList = rest
          rw [Array.toList_extract, hwaiting, hts]
          simp [← Array.length_toList, hwaiting, hts]
  · unfold IsReady Scanner.needsMore at hready
    rw [if_neg hdone] at hready
    split_ifs at hready with hwaits
    · cases hready
    · cases hdrop : s.dropStaleKeys with
      | error halt => rw [hdrop] at hready; cases hready
      | ok s₁ =>
          rw [hdrop] at hready
          obtain ⟨rfl, hkeys⟩ := Prod.mk.inj (Except.ok.inj hready)
          have hlater : ∀ k ∈ s₁.keys, s₁.taken < k.before := fun k hk => by
            have hbefore := h.ordered.before k hk
            have hne : k.before ≠ s₁.taken := by
              simp only [List.any_eq_false, beq_iff_eq] at hkeys
              exact hkeys k hk
            omega
          have hsize : 0 < s₁.waiting.size := by
            rw [Array.isEmpty_iff_size_eq_zero] at hwaits
            omega
          obtain ⟨w, hbehind⟩ := exists_behind hsize hlater
          obtain ⟨rest, rfl, hrest⟩ := h.gives.behind hbehind
          refine ⟨hbehind.next?, fun t rest' hts => ?_⟩
          obtain ⟨-, rfl⟩ := List.cons.inj hts
          exact ⟨hrest, hbehind.isOrdered h.ordered⟩

end

end Casebook.Yaml.Scanner

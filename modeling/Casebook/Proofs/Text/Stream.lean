import Casebook.Proofs.Text.Utf8
import Casebook.Text.Stream

/-!
# Texts piece by piece

A file is decoded in chunks, whose ends may cut the bytes of a character in two, and its characters
are taken in pieces. Main statement (`Stream.Holds.take`): however both are cut, the pieces are
those of the text.
-/

namespace Casebook.Text

/-- A text without carriage returns is the same when it is read with line feeds for line ends. -/
theorem withLineFeeds_of_not_mem {cs : List Char} (h : '\r' ∉ cs) : withLineFeeds cs = cs := by
  induction cs with
  | nil => rfl
  | cons c cs ih =>
      obtain ⟨hc, hcs⟩ := not_or.mp (mt List.mem_cons.mpr h)
      rw [withLineFeeds, ih hcs]
      · rintro _ rfl
        exact absurd rfl hc
      · rintro rfl
        exact hc rfl

section
variable {lead : UInt8} {tail part more : List UInt8} {c : Char}

theorem decodeStart_sequence (h : IsSequence lead tail c) (offset : Nat) :
    decodeStart offset (lead :: (tail ++ part)) =
      (decodeStart (offset + sequenceLength lead) part).map fun r => (c :: r.1, r.2) := by
  rw [decodeStart]
  split
  · next hflaw =>
    rw [h.read] at hflaw
    cases hflaw
  · next hflaw =>
    rw [h.read] at hflaw
    cases hflaw
  · next hchar =>
    rw [h.read] at hchar
    obtain ⟨rfl, rfl⟩ := Utf8Step.char.inj hchar
    cases decodeStart (offset + sequenceLength lead) part <;> rfl

/-- Bytes that end within a sequence are held back. -/
theorem decodeStart_cut (h : IsSequence lead (part ++ more) c) (hmore : more ≠ []) (offset : Nat) :
    decodeStart offset (lead :: part) = .ok ([], lead :: part) := by
  obtain ⟨length, hcut⟩ := h.cut part more rfl hmore
  rw [decodeStart]
  split
  · rfl
  · next hne hflaw =>
    rw [hcut] at hflaw
    cases hflaw
    exact (hne rfl).elim
  · next hchar =>
    rw [hcut] at hchar
    cases hchar

end

/-- The front of the bytes of a text is decoded up to the character that it cuts in two. -/
theorem decodeStart_encodeUtf8 {cs : List Char} {front back : List UInt8}
    (h : encodeUtf8 cs = front ++ back) (offset : Nat) :
    ∃ decoded rest held, cs = decoded ++ rest ∧
      decodeStart offset front = .ok (decoded, held) ∧ encodeUtf8 rest = held ++ back := by
  induction cs generalizing front offset with
  | nil =>
      obtain ⟨rfl, rfl⟩ := List.append_eq_nil_iff.mp h.symm
      exact ⟨[], [], [], rfl, by rw [decodeStart], rfl⟩
  | cons c cs ih =>
      obtain ⟨lead, tail, hbytes, hsequence⟩ := isSequence_utf8EncodeChar c
      have hwhole : encodeUtf8 (c :: cs) = lead :: tail ++ encodeUtf8 cs := by
        rw [encodeUtf8_cons, hbytes]
      cases front with
      | nil => exact ⟨[], c :: cs, [], rfl, by rw [decodeStart], h⟩
      | cons b front =>
          obtain ⟨rfl, htail⟩ := List.cons.inj (hwhole.symm.trans h)
          -- the front holds the first character as a whole, and goes on behind it
          have hread : ∀ part, front = tail ++ part → encodeUtf8 cs = part ++ back →
              ∃ decoded rest held, c :: cs = decoded ++ rest ∧
                decodeStart offset (lead :: front) = .ok (decoded, held) ∧
                encodeUtf8 rest = held ++ back := by
            rintro part rfl hrest
            obtain ⟨decoded, rest, held, rfl, hdecode, hencode⟩ :=
              ih hrest (offset + sequenceLength lead)
            refine ⟨c :: decoded, rest, held, rfl, ?_, hencode⟩
            rw [decodeStart_sequence hsequence, hdecode]
            rfl
          rcases List.append_eq_append_iff.mp htail with ⟨part, hfront, hrest⟩ | ⟨more, htail, hback⟩
          · exact hread part hfront hrest
          · by_cases hmore : more = []
            · subst hmore
              rw [List.append_nil] at htail
              exact hread [] (by rw [htail, List.append_nil]) hback.symm
            · -- the front ends within the first character
              subst htail
              refine ⟨[], c :: cs, lead :: front, rfl, decodeStart_cut hsequence hmore offset, ?_⟩
              rw [hwhole, hback]
              simp

namespace Stream

/-- What is left of a file is a text: its characters that are ready, and the bytes of the others. -/
structure Holds (s : Stream) (cs : List Char) : Prop where
  isReturn : s.isReturn = false
  text : ∃ rest, cs = s.ready ++ rest ∧ encodeUtf8 rest = s.held ++ s.bytes
  atEnd : s.atEnd = true → s.held = [] ∧ s.bytes = []

section
variable {s : Stream} {cs : List Char}

theorem holds_ofBytes (cs : List Char) : (ofBytes (encodeUtf8 cs)).Holds cs :=
  ⟨rfl, ⟨cs, rfl, rfl⟩, nofun⟩

theorem Holds.ready_eq (h : s.Holds cs) (hend : s.atEnd = true) : cs = s.ready := by
  obtain ⟨rest, rfl, hrest⟩ := h.text
  obtain ⟨hheld, hbytes⟩ := h.atEnd hend
  rw [hheld, hbytes] at hrest
  cases rest with
  | nil => exact List.append_nil _
  | cons c rest =>
      obtain ⟨lead, tail, hc, -⟩ := isSequence_utf8EncodeChar c
      rw [encodeUtf8_cons, hc] at hrest
      cases hrest

/-- Decoding a chunk loses nothing of the text. -/
theorem Holds.pull (h : s.Holds cs) (hreturn : '\r' ∉ cs) (missing : Nat) :
    ∃ t, s.pull missing = .ok t ∧ t.Holds cs ∧
      (t.atEnd = false → t.bytes.length < s.bytes.length) := by
  obtain ⟨rest, rfl, hrest⟩ := h.text
  have hlength : 0 < s.chunkLength missing := by
    unfold chunkLength chunkSize
    omega
  by_cases hbytes : s.bytes = []
  · -- the end of the file: what was held back is decoded
    rw [hbytes, List.append_nil] at hrest
    have hdecode : decodeUtf8 s.held = .ok rest := hrest ▸ decodeUtf8_encodeUtf8 rest
    have hshown : withLineFeeds rest = rest :=
      withLineFeeds_of_not_mem fun hmem => hreturn (List.mem_append_right _ hmem)
    refine ⟨{ s with
      bytes := [], held := [], ready := s.ready ++ rest, isReturn := false
      lastBytes := 0, lastChars := rest.length, atEnd := true }, ?_, ⟨rfl, ⟨[], ?_, rfl⟩, ?_⟩, ?_⟩
    · unfold Stream.pull
      rw [hbytes]
      simp [hdecode, h.isReturn, hshown]
    · simp
    · exact fun _ => ⟨rfl, rfl⟩
    · exact nofun
  · -- a chunk: the bytes that it cuts off are held back
    have hsplit : encodeUtf8 rest = s.held ++ s.bytes.take (s.chunkLength missing) ++
        s.bytes.drop (s.chunkLength missing) := by
      rw [List.append_assoc, List.take_append_drop, hrest]
    obtain ⟨decoded, rest, held, rfl, hdecode, hencode⟩ := decodeStart_encodeUtf8 hsplit 0
    have hnone : '\r' ∉ decoded := fun hmem =>
      hreturn (List.mem_append_right _ (List.mem_append_left _ hmem))
    have hlast : decoded.getLast? ≠ some '\r' := fun heq => hnone (List.mem_of_getLast? heq)
    have hchunk : ¬ s.chunkLength missing = 0 := by omega
    refine ⟨{ s with
      bytes := s.bytes.drop (s.chunkLength missing), held, ready := s.ready ++ decoded
      isReturn := false, lastBytes := (s.bytes.take (s.chunkLength missing)).length
      lastChars := decoded.length, atEnd := false }, ?_, ⟨rfl, ⟨rest, ?_, hencode⟩, nofun⟩, ?_⟩
    · unfold Stream.pull
      simp [hdecode, h.isReturn, withLineFeeds_of_not_mem hnone, hbytes, hlast, hchunk]
    · rw [List.append_assoc]
    · intro _
      have hpos := List.length_pos_of_ne_nil hbytes
      rw [List.length_drop]
      omega

/-- With enough steps a piece is taken, whatever chunks it needs. -/
theorem Holds.takeWithin (h : s.Holds cs) (hreturn : '\r' ∉ cs) {fuel : Nat} (hfuel : 0 < fuel)
    (hbytes : s.atEnd = false → s.bytes.length + 2 ≤ fuel) (count : Nat) :
    ∃ t, s.takeWithin fuel count = .ok (cs.take count, t) ∧ t.Holds (cs.drop count) := by
  induction fuel generalizing s with
  | zero => cases hfuel
  | succ fuel ih =>
      rw [Stream.takeWithin]
      by_cases henough : (s.atEnd || decide (count ≤ s.ready.length)) = true
      · rw [if_pos henough]
        rw [Bool.or_eq_true, decide_eq_true_eq] at henough
        obtain ⟨rest, rfl, hrest⟩ := h.text
        have htaken : (s.ready ++ rest).take count = s.ready.take count ∧
            (s.ready ++ rest).drop count = s.ready.drop count ++ rest := by
          rcases henough with hend | hcount
          · have hready := h.ready_eq hend
            rw [List.append_right_eq_self.mp hready]
            simp
          · rw [List.take_append_of_le_length hcount, List.drop_append_of_le_length hcount]
            exact ⟨rfl, rfl⟩
        refine ⟨_, by rw [htaken.1]; rfl, ?_⟩
        rw [htaken.2]
        exact ⟨h.isReturn, ⟨rest, rfl, hrest⟩, h.atEnd⟩
      · rw [if_neg henough]
        rw [Bool.or_eq_true, not_or] at henough
        have hopen := Bool.eq_false_iff.mpr henough.1
        obtain ⟨t, hpull, ht, hless⟩ := h.pull hreturn (count - s.ready.length)
        rw [hpull]
        have hsteps := hbytes hopen
        exact ih ht (by omega) fun hend => by
          have := hless hend
          omega

/-- **The pieces that are taken are those of the text.** -/
theorem Holds.take (h : s.Holds cs) (hreturn : '\r' ∉ cs) (count : Nat) :
    ∃ t, s.take count = .ok (cs.take count, t) ∧ t.Holds (cs.drop count) :=
  h.takeWithin hreturn (Nat.succ_pos _) (fun _ => Nat.le_refl _) count

end

end Stream

end Casebook.Text

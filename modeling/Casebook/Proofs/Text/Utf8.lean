import Casebook.Text.Utf8
import Mathlib

/-!
# UTF-8 back and forth

Each character is read from its bytes, and fewer of them are taken for a sequence that is cut off
(`isSequence_utf8EncodeChar`); and whatever is read as a character are the bytes of that character
(`eq_of_utf8Step`). Main statements: `decodeUtf8_encodeUtf8`, `decodeUtf8_eq_ok_iff`.
-/

namespace Casebook.Text

/-! ## Sequences by their lead byte -/

section
variable {lead b c d : UInt8} {rest : List UInt8}

theorem utf8Step_one (h : lead.toNat < 0x80) :
    utf8Step lead rest = .char (Char.ofNat lead.toNat) rest :=
  if_pos (UInt8.lt_iff_toNat_lt.mpr h)

/-- Behind a lead byte of a longer sequence other bytes are looked at. -/
theorem not_start (h : 0xC2 ≤ lead.toNat) (h' : lead.toNat < 0xF5) :
    ¬ lead < 0x80 ∧ ¬ (lead < 0xC2 || 0xF5 ≤ lead) = true := by
  simp only [UInt8.lt_iff_toNat_lt, UInt8.le_iff_toNat_le, Bool.or_eq_true, decide_eq_true_eq,
    UInt8.reduceToNat]
  omega

theorem utf8Step_cut_one (h : 0xC2 ≤ lead.toNat) (h' : lead.toNat < 0xF5) :
    utf8Step lead [] = .flaw .truncated 1 := by
  obtain ⟨hshort, hstart⟩ := not_start h h'
  unfold utf8Step
  rw [if_neg hshort, if_neg hstart]

theorem utf8Step_two (h : 0xC2 ≤ lead.toNat) (h' : lead.toNat < 0xE0)
    (hb : isSecond lead b = true) :
    utf8Step lead (b :: rest) = .char (Char.ofNat (lead.toNat % 32 * 64 + lowBits b)) rest := by
  obtain ⟨hshort, hstart⟩ := not_start h (by omega)
  unfold utf8Step
  rw [if_neg hshort, if_neg hstart]
  dsimp only
  rw [hb, if_neg (by decide), if_pos (UInt8.lt_iff_toNat_lt.mpr h')]

/-- What is looked at behind the lead byte of a sequence of more than two bytes. -/
theorem not_two (h : 0xE0 ≤ lead.toNat) (h' : lead.toNat < 0xF5) :
    ¬ lead < 0x80 ∧ ¬ (lead < 0xC2 || 0xF5 ≤ lead) = true ∧ ¬ lead < 0xE0 := by
  obtain ⟨hshort, hstart⟩ := not_start (by omega) h'
  exact ⟨hshort, hstart, fun hlt => Nat.not_lt.mpr h (UInt8.lt_iff_toNat_lt.mp hlt)⟩

theorem utf8Step_cut_two (h : 0xE0 ≤ lead.toNat) (h' : lead.toNat < 0xF5)
    (hb : isSecond lead b = true) : utf8Step lead [b] = .flaw .truncated 2 := by
  obtain ⟨hshort, hstart, hlong⟩ := not_two h h'
  simp [utf8Step, hshort, hstart, hlong, hb]

theorem utf8Step_three (h : 0xE0 ≤ lead.toNat) (h' : lead.toNat < 0xF0)
    (hb : isSecond lead b = true) (hc : isContinuation c = true) :
    utf8Step lead (b :: c :: rest) =
      .char (Char.ofNat (lead.toNat % 16 * 4096 + lowBits b * 64 + lowBits c)) rest := by
  obtain ⟨hshort, hstart, hlong⟩ := not_two h (by omega)
  have hthree : lead < 0xF0 := UInt8.lt_iff_toNat_lt.mpr h'
  simp [utf8Step, hshort, hstart, hlong, hb, hc, hthree]

theorem utf8Step_cut_three (h : 0xF0 ≤ lead.toNat) (h' : lead.toNat < 0xF5)
    (hb : isSecond lead b = true) (hc : isContinuation c = true) :
    utf8Step lead [b, c] = .flaw .truncated 3 := by
  obtain ⟨hshort, hstart, hlong⟩ := not_two (by omega) h'
  have hfour : ¬ lead < 0xF0 := fun hlt => Nat.not_lt.mpr h (UInt8.lt_iff_toNat_lt.mp hlt)
  simp [utf8Step, hshort, hstart, hlong, hb, hc, hfour]

theorem utf8Step_four (h : 0xF0 ≤ lead.toNat) (h' : lead.toNat < 0xF5)
    (hb : isSecond lead b = true) (hc : isContinuation c = true) (hd : isContinuation d = true) :
    utf8Step lead (b :: c :: d :: rest) = .char (Char.ofNat (lead.toNat % 8 * 262144 +
      lowBits b * 4096 + lowBits c * 64 + lowBits d)) rest := by
  obtain ⟨hshort, hstart, hlong⟩ := not_two (by omega) h'
  have hfour : ¬ lead < 0xF0 := fun hlt => Nat.not_lt.mpr h (UInt8.lt_iff_toNat_lt.mp hlt)
  simp [utf8Step, hshort, hstart, hlong, hb, hc, hd, hfour]

end

/-! ## The bytes of a character -/

theorem toNat_low (n : Nat) : (UInt8.ofNat (n % 64 + 128)).toNat = n % 64 + 128 := by
  rw [UInt8.toNat_ofNat']
  omega

theorem isContinuation_low (n : Nat) : isContinuation (UInt8.ofNat (n % 64 + 128)) = true := by
  simp only [isContinuation, UInt8.le_iff_toNat_le, UInt8.lt_iff_toNat_lt, toNat_low,
    UInt8.reduceToNat, Bool.and_eq_true, decide_eq_true_eq]
  omega

theorem lowBits_low (n : Nat) : lowBits (UInt8.ofNat (n % 64 + 128)) = n % 64 := by
  unfold lowBits
  rw [toNat_low]
  omega

theorem isSecond_iff {lead b : UInt8} : isSecond lead b = true ↔
    (secondByteRange lead).1.toNat ≤ b.toNat ∧ b.toNat ≤ (secondByteRange lead).2.toNat := by
  simp only [isSecond, UInt8.le_iff_toNat_le, Bool.and_eq_true, decide_eq_true_eq]

/-- What follows a lead byte without a range of its own. -/
theorem isSecond_low {lead : UInt8} (h : lead ≠ 0xE0 ∧ lead ≠ 0xED ∧ lead ≠ 0xF0 ∧ lead ≠ 0xF4)
    (n : Nat) : isSecond lead (UInt8.ofNat (n % 64 + 128)) = true := by
  have hrange : secondByteRange lead = (0x80, 0xBF) := by
    unfold secondByteRange
    rw [if_neg h.1, if_neg h.2.1, if_neg h.2.2.1, if_neg h.2.2.2]
  rw [isSecond_iff, hrange, toNat_low]
  simp only [UInt8.reduceToNat]
  omega

theorem toNat_lead {n k : Nat} (h : n + k < 256) : (UInt8.ofNat (n + k)).toNat = n + k := by
  rw [UInt8.toNat_ofNat']
  omega

/-- The second of three bytes does not write an overlong form or half of a surrogate pair. -/
theorem isSecond_three {v : Nat} (h : 0x800 ≤ v) (h' : v < 0x10000)
    (hhalf : v < 0xD800 ∨ 0xDFFF < v) :
    isSecond (UInt8.ofNat (v / 4096 % 16 + 224)) (UInt8.ofNat (v / 64 % 64 + 128)) = true := by
  have hlead := toNat_lead (n := v / 4096 % 16) (k := 224) (by omega)
  rw [isSecond_iff, toNat_low]
  unfold secondByteRange
  split_ifs with h1 h2 h3 h4
  all_goals
    simp only [UInt8.reduceToNat]
    simp only [← UInt8.toNat_inj, hlead, UInt8.reduceToNat] at *
    omega

/-- The second of four bytes does not write an overlong form or a number that is too large. -/
theorem isSecond_four {v : Nat} (h : 0x10000 ≤ v) (h' : v < 0x110000) :
    isSecond (UInt8.ofNat (v / 262144 % 8 + 240)) (UInt8.ofNat (v / 4096 % 64 + 128)) = true := by
  have hlead := toNat_lead (n := v / 262144 % 8) (k := 240) (by omega)
  rw [isSecond_iff, toNat_low]
  unfold secondByteRange
  split_ifs with h1 h2 h3 h4
  all_goals
    simp only [UInt8.reduceToNat]
    simp only [← UInt8.toNat_inj, hlead, UInt8.reduceToNat] at *
    omega

theorem char_congr {m n : Nat} {rest : List UInt8} (h : m = n) :
    Utf8Step.char (Char.ofNat m) rest = .char (Char.ofNat n) rest := by rw [h]

/-- The character is read from the bytes, and not from fewer of them. -/
structure IsSequence (lead : UInt8) (tail : List UInt8) (c : Char) : Prop where
  read : ∀ rest, utf8Step lead (tail ++ rest) = .char c rest
  cut : ∀ part more, tail = part ++ more → more ≠ [] →
    ∃ length, utf8Step lead part = .flaw .truncated length

section
variable {v : Nat}

theorem isSequence_one (h : v ≤ 127) : IsSequence (UInt8.ofNat v) [] (Char.ofNat v) := by
  have hlead : (UInt8.ofNat v).toNat = v := by
    rw [UInt8.toNat_ofNat']
    omega
  constructor
  · intro rest
    rw [List.nil_append, utf8Step_one (by omega), hlead]
  · intro part more heq hmore
    exact absurd (List.append_eq_nil_iff.mp heq.symm).2 hmore

theorem isSequence_two (h : 127 < v) (h' : v ≤ 2047) :
    IsSequence (UInt8.ofNat (v / 64 % 32 + 192)) [UInt8.ofNat (v % 64 + 128)] (Char.ofNat v) := by
  have hlead := toNat_lead (n := v / 64 % 32) (k := 192) (by omega)
  have hsecond : isSecond (UInt8.ofNat (v / 64 % 32 + 192)) (UInt8.ofNat (v % 64 + 128)) =
      true := by
    refine isSecond_low ?_ v
    simp only [ne_eq, ← UInt8.toNat_inj, hlead, UInt8.reduceToNat]
    omega
  constructor
  · intro rest
    rw [List.singleton_append, utf8Step_two (by omega) (by omega) hsecond, hlead, lowBits_low]
    exact char_congr (by omega)
  · intro part more heq hmore
    cases part with
    | nil => exact ⟨1, utf8Step_cut_one (by omega) (by omega)⟩
    | cons b part => exact absurd (List.append_eq_nil_iff.mp (List.cons.inj heq).2.symm).2 hmore

theorem isSequence_three (h : 2047 < v) (h' : v ≤ 65535) (hhalf : v < 0xD800 ∨ 0xDFFF < v) :
    IsSequence (UInt8.ofNat (v / 4096 % 16 + 224))
      [UInt8.ofNat (v / 64 % 64 + 128), UInt8.ofNat (v % 64 + 128)] (Char.ofNat v) := by
  have hlead := toNat_lead (n := v / 4096 % 16) (k := 224) (by omega)
  have hsecond := isSecond_three (v := v) (by omega) (by omega) hhalf
  constructor
  · intro rest
    rw [List.cons_append, List.singleton_append,
      utf8Step_three (by omega) (by omega) hsecond (isContinuation_low v), hlead, lowBits_low,
      lowBits_low]
    exact char_congr (by omega)
  · intro part more heq hmore
    rcases part with _ | ⟨b, _ | ⟨c, part⟩⟩
    · exact ⟨1, utf8Step_cut_one (by omega) (by omega)⟩
    · obtain ⟨rfl, -⟩ := List.cons.inj heq
      exact ⟨2, utf8Step_cut_two (by omega) (by omega) hsecond⟩
    · have hnil := (List.cons.inj (List.cons.inj heq).2).2
      exact absurd (List.append_eq_nil_iff.mp hnil.symm).2 hmore

theorem isSequence_four (h : 65535 < v) (h' : v < 0x110000) :
    IsSequence (UInt8.ofNat (v / 262144 % 8 + 240)) [UInt8.ofNat (v / 4096 % 64 + 128),
      UInt8.ofNat (v / 64 % 64 + 128), UInt8.ofNat (v % 64 + 128)] (Char.ofNat v) := by
  have hlead := toNat_lead (n := v / 262144 % 8) (k := 240) (by omega)
  have hsecond := isSecond_four (v := v) (by omega) h'
  have hthird := isContinuation_low (v / 64)
  constructor
  · intro rest
    rw [List.cons_append, List.cons_append, List.singleton_append,
      utf8Step_four (by omega) (by omega) hsecond hthird (isContinuation_low v), hlead,
      lowBits_low, lowBits_low, lowBits_low]
    exact char_congr (by omega)
  · intro part more heq hmore
    rcases part with _ | ⟨b, _ | ⟨c, _ | ⟨d, part⟩⟩⟩
    · exact ⟨1, utf8Step_cut_one (by omega) (by omega)⟩
    · obtain ⟨rfl, -⟩ := List.cons.inj heq
      exact ⟨2, utf8Step_cut_two (by omega) (by omega) hsecond⟩
    · obtain ⟨rfl, hrest⟩ := List.cons.inj heq
      obtain ⟨rfl, -⟩ := List.cons.inj hrest
      exact ⟨3, utf8Step_cut_three (by omega) (by omega) hsecond hthird⟩
    · have hnil := (List.cons.inj (List.cons.inj (List.cons.inj heq).2).2).2
      exact absurd (List.append_eq_nil_iff.mp hnil.symm).2 hmore

end

/-- Every character has a sequence of bytes. -/
theorem isSequence_utf8EncodeChar (c : Char) :
    ∃ lead tail, String.utf8EncodeChar c = lead :: tail ∧ IsSequence lead tail c := by
  have hvalid : c.val.toNat < 0xD800 ∨ 0xDFFF < c.val.toNat ∧ c.val.toNat < 0x110000 := c.valid
  have hback : ∀ lead tail, IsSequence lead tail (Char.ofNat c.val.toNat) →
      IsSequence lead tail c := by
    intro lead tail h
    rwa [show Char.ofNat c.val.toNat = c from Char.ofNat_toNat c] at h
  unfold String.utf8EncodeChar
  dsimp only
  generalize c.val.toNat = v at hvalid hback
  split
  · next h1 => exact ⟨_, _, rfl, hback _ _ (isSequence_one h1)⟩
  · next h1 =>
    split
    · next h2 => exact ⟨_, _, rfl, hback _ _ (isSequence_two (by omega) h2)⟩
    · next h2 =>
      split
      · next h3 => exact ⟨_, _, rfl, hback _ _ (isSequence_three (by omega) h3 (by omega))⟩
      · next h3 => exact ⟨_, _, rfl, hback _ _ (isSequence_four (by omega) (by omega))⟩

/-! ## Texts -/

theorem encodeUtf8_cons (c : Char) (cs : List Char) :
    encodeUtf8 (c :: cs) = String.utf8EncodeChar c ++ encodeUtf8 cs := List.flatMap_cons

theorem decodeFrom_encodeUtf8 (offset : Nat) (cs : List Char) :
    decodeFrom offset (encodeUtf8 cs) = .ok cs := by
  induction cs generalizing offset with
  | nil =>
      show decodeFrom offset [] = _
      rw [decodeFrom]
  | cons c cs ih =>
      obtain ⟨lead, tail, hbytes, hsequence⟩ := isSequence_utf8EncodeChar c
      rw [encodeUtf8_cons, hbytes, List.cons_append, decodeFrom]
      split
      · next flaw length hflaw =>
        rw [hsequence.read] at hflaw
        cases hflaw
      · next c' after hchar =>
        rw [hsequence.read] at hchar
        obtain ⟨rfl, rfl⟩ := Utf8Step.char.inj hchar
        rw [ih]
        rfl

/-- **Characters are read from their bytes.** -/
theorem decodeUtf8_encodeUtf8 (cs : List Char) : decodeUtf8 (encodeUtf8 cs) = .ok cs :=
  decodeFrom_encodeUtf8 0 cs

/-! ## Back to the bytes -/

section
variable {lead b c d : UInt8}

theorem isContinuation_iff : isContinuation b = true ↔ 0x80 ≤ b.toNat ∧ b.toNat < 0xC0 := by
  simp only [isContinuation, UInt8.le_iff_toNat_le, UInt8.lt_iff_toNat_lt, UInt8.reduceToNat,
    Bool.and_eq_true, decide_eq_true_eq]

/-- A second byte continues the sequence, and rules out overlong forms, halves of surrogate pairs
and numbers that are too large. -/
theorem isSecond_bounds (h : isSecond lead b = true) :
    (0x80 ≤ b.toNat ∧ b.toNat < 0xC0) ∧ (lead.toNat = 0xE0 → 0xA0 ≤ b.toNat) ∧
      (lead.toNat = 0xED → b.toNat < 0xA0) ∧ (lead.toNat = 0xF0 → 0x90 ≤ b.toNat) ∧
      (lead.toNat = 0xF4 → b.toNat < 0x90) := by
  rw [isSecond_iff] at h
  unfold secondByteRange at h
  split_ifs at h with h1 h2 h3 h4
  all_goals
    simp only [UInt8.reduceToNat] at h
    simp only [← UInt8.toNat_inj, UInt8.reduceToNat] at *
    omega

/-- The bytes of a number that is a character. -/
theorem utf8EncodeChar_ofNat {v : Nat} (h : v.isValidChar) :
    String.utf8EncodeChar (Char.ofNat v) =
      if v ≤ 127 then [UInt8.ofNat v]
      else if v ≤ 2047 then [UInt8.ofNat (v / 64 % 32 + 192), UInt8.ofNat (v % 64 + 128)]
      else if v ≤ 65535 then [UInt8.ofNat (v / 4096 % 16 + 224), UInt8.ofNat (v / 64 % 64 + 128),
        UInt8.ofNat (v % 64 + 128)]
      else [UInt8.ofNat (v / 262144 % 8 + 240), UInt8.ofNat (v / 4096 % 64 + 128),
        UInt8.ofNat (v / 64 % 64 + 128), UInt8.ofNat (v % 64 + 128)] := by
  have hval : (Char.ofNat v).val.toNat = v := (Char.toNat_ofNat v).trans (if_pos h)
  unfold String.utf8EncodeChar
  rw [hval]

theorem ofNat_eq {n : Nat} (h : n = b.toNat) : UInt8.ofNat n = b := by
  rw [h, UInt8.ofNat_toNat]

theorem utf8EncodeChar_one (h : lead.toNat < 0x80) :
    String.utf8EncodeChar (Char.ofNat lead.toNat) = [lead] := by
  rw [utf8EncodeChar_ofNat (Or.inl (by omega)), if_pos (by omega), UInt8.ofNat_toNat]

theorem utf8EncodeChar_two (h : 0xC2 ≤ lead.toNat) (h' : lead.toNat < 0xE0)
    (hb : isSecond lead b = true) :
    String.utf8EncodeChar (Char.ofNat (lead.toNat % 32 * 64 + lowBits b)) = [lead, b] := by
  obtain ⟨hb, -⟩ := isSecond_bounds hb
  unfold lowBits
  rw [utf8EncodeChar_ofNat (Or.inl (by omega)), if_neg (by omega), if_pos (by omega),
    ofNat_eq (b := lead) (by omega), ofNat_eq (b := b) (by omega)]

theorem utf8EncodeChar_three (h : 0xE0 ≤ lead.toNat) (h' : lead.toNat < 0xF0)
    (hb : isSecond lead b = true) (hc : isContinuation c = true) :
    String.utf8EncodeChar (Char.ofNat (lead.toNat % 16 * 4096 + lowBits b * 64 + lowBits c)) =
      [lead, b, c] := by
  obtain ⟨hb, hoverlong, hhalf, -⟩ := isSecond_bounds hb
  have hc := isContinuation_iff.mp hc
  unfold lowBits
  have hvalid : (lead.toNat % 16 * 4096 + b.toNat % 64 * 64 + c.toNat % 64).isValidChar := by
    unfold Nat.isValidChar
    omega
  rw [utf8EncodeChar_ofNat hvalid, if_neg (by omega), if_neg (by omega), if_pos (by omega),
    ofNat_eq (b := lead) (by omega), ofNat_eq (b := b) (by omega), ofNat_eq (b := c) (by omega)]

theorem utf8EncodeChar_four (h : 0xF0 ≤ lead.toNat) (h' : lead.toNat < 0xF5)
    (hb : isSecond lead b = true) (hc : isContinuation c = true) (hd : isContinuation d = true) :
    String.utf8EncodeChar (Char.ofNat (lead.toNat % 8 * 262144 + lowBits b * 4096 +
      lowBits c * 64 + lowBits d)) = [lead, b, c, d] := by
  obtain ⟨hb, -, -, hoverlong, hlarge⟩ := isSecond_bounds hb
  have hc := isContinuation_iff.mp hc
  have hd := isContinuation_iff.mp hd
  unfold lowBits
  have hvalid : (lead.toNat % 8 * 262144 + b.toNat % 64 * 4096 + c.toNat % 64 * 64 +
      d.toNat % 64).isValidChar := by
    unfold Nat.isValidChar
    omega
  rw [utf8EncodeChar_ofNat hvalid, if_neg (by omega), if_neg (by omega), if_neg (by omega),
    ofNat_eq (b := lead) (by omega), ofNat_eq (b := b) (by omega), ofNat_eq (b := c) (by omega),
    ofNat_eq (b := d) (by omega)]

end

/-- **A character that is read has the bytes that it was read from.** -/
theorem eq_of_utf8Step {lead : UInt8} {rest after : List UInt8} {ch : Char}
    (h : utf8Step lead rest = .char ch after) :
    lead :: rest = String.utf8EncodeChar ch ++ after := by
  unfold utf8Step at h
  split at h
  · next hshort =>
    obtain ⟨rfl, rfl⟩ := Utf8Step.char.inj h
    rw [utf8EncodeChar_one (UInt8.lt_iff_toNat_lt.mp hshort)]
    rfl
  next hlong =>
  split at h
  · cases h
  next hstart =>
  simp only [UInt8.lt_iff_toNat_lt, UInt8.le_iff_toNat_le, Bool.or_eq_true, decide_eq_true_eq,
    UInt8.reduceToNat] at hlong hstart
  split at h
  · cases h
  next b rest =>
  split at h
  · cases h
  next hb =>
  rw [Bool.not_eq_true, Bool.not_eq_false'] at hb
  split at h
  · next htwo =>
    have htwo := UInt8.lt_iff_toNat_lt.mp htwo
    obtain ⟨rfl, rfl⟩ := Utf8Step.char.inj h
    rw [utf8EncodeChar_two (by omega) htwo hb]
    rfl
  next htwo =>
  rw [UInt8.lt_iff_toNat_lt] at htwo
  split at h
  · cases h
  next c rest =>
  split at h
  · cases h
  next hc =>
  rw [Bool.not_eq_true, Bool.not_eq_false'] at hc
  split at h
  · next hthree =>
    have hthree := UInt8.lt_iff_toNat_lt.mp hthree
    obtain ⟨rfl, rfl⟩ := Utf8Step.char.inj h
    rw [utf8EncodeChar_three (Nat.not_lt.mp htwo) hthree hb hc]
    rfl
  next hthree =>
  rw [UInt8.lt_iff_toNat_lt] at hthree
  split at h
  · cases h
  next d rest =>
  split at h
  · cases h
  next hd =>
  rw [Bool.not_eq_true, Bool.not_eq_false'] at hd
  obtain ⟨rfl, rfl⟩ := Utf8Step.char.inj h
  rw [utf8EncodeChar_four (Nat.not_lt.mp hthree) (by omega) hb hc hd]
  rfl

theorem encodeUtf8_of_decodeFrom {offset : Nat} {bytes : List UInt8} {cs : List Char}
    (h : decodeFrom offset bytes = .ok cs) : encodeUtf8 cs = bytes := by
  induction offset, bytes using decodeFrom.induct generalizing cs with
  | case1 offset =>
      rw [decodeFrom] at h
      cases h
      rfl
  | case2 offset lead rest flaw length hstep =>
      rw [decodeFrom] at h
      split at h
      · cases h
      · next hchar => cases hstep.symm.trans hchar
  | case3 offset lead rest c after hstep ih =>
      rw [decodeFrom] at h
      split at h
      · cases h
      · next hchar =>
        obtain ⟨rfl, rfl⟩ := Utf8Step.char.inj (hstep.symm.trans hchar)
        cases hrest : decodeFrom (offset + sequenceLength lead) after with
        | error fault =>
            rw [hrest] at h
            cases h
        | ok cs' =>
            rw [hrest] at h
            cases h
            rw [encodeUtf8_cons, ih hrest, eq_of_utf8Step hstep]

/-- The bytes are the UTF-8 encoding of some characters. -/
def IsUtf8 (bytes : List UInt8) : Prop := bytes.toByteArray.IsValidUTF8

theorem isUtf8_iff {bytes : List UInt8} : IsUtf8 bytes ↔ ∃ cs, encodeUtf8 cs = bytes := by
  constructor
  · rintro ⟨cs, hcs⟩
    exact ⟨cs, (List.toByteArray_inj.mp hcs).symm⟩
  · rintro ⟨cs, rfl⟩
    exact ⟨cs, rfl⟩

/-- **Bytes are decoded exactly to the characters that they encode.** -/
theorem decodeUtf8_eq_ok_iff {bytes : List UInt8} {cs : List Char} :
    decodeUtf8 bytes = .ok cs ↔ encodeUtf8 cs = bytes := by
  constructor
  · exact encodeUtf8_of_decodeFrom
  · rintro rfl
    exact decodeUtf8_encodeUtf8 cs

/-- What is not UTF-8 is refused. -/
theorem exists_fault_iff {bytes : List UInt8} :
    (∃ fault, decodeUtf8 bytes = .error fault) ↔ ¬ IsUtf8 bytes := by
  simp only [isUtf8_iff, ← decodeUtf8_eq_ok_iff]
  cases decodeUtf8 bytes <;> simp

/-- An overlong form, half of a surrogate pair, a number above the last character and a sequence that
is cut off are no UTF-8. -/
example : ¬ IsUtf8 [0xC0, 0x80] ∧ ¬ IsUtf8 [0xED, 0xA0, 0x80] ∧ ¬ IsUtf8 [0xF4, 0x90, 0x80, 0x80] ∧
    ¬ IsUtf8 [0x61, 0xE2, 0x82] := by
  refine ⟨?_, ?_, ?_, ?_⟩ <;> exact exists_fault_iff.mp ⟨_, by cbv⟩

end Casebook.Text

import Casebook.Text.HalfRun

/-!
# UTF-8

Encoding of characters as bytes and the strict decoding back. A text with halves of surrogate
pairs is not encoded. Decoding refuses overlong
forms, surrogates, values above the last code point, stray continuation bytes and
sequences that are cut off, and says at which byte the refused sequence begins.
-/

namespace Casebook.Text

/-- Why a byte sequence was refused. -/
inductive Utf8Flaw
  /-- No sequence begins with this byte. -/
  | start
  /-- A byte that should continue the sequence does not. -/
  | continuation
  /-- The bytes end inside a sequence. -/
  | truncated
deriving Repr, DecidableEq

/-- The first sequence that is not UTF-8. -/
structure Utf8Fault where
  /-- The offset of the first byte of the sequence. -/
  offset : Nat
  /-- How many bytes are at fault. -/
  length : Nat
  /-- The byte at the offset. -/
  lead : UInt8
  flaw : Utf8Flaw
deriving Repr, DecidableEq

/-- The bytes of characters. -/
def encodeUtf8 (cs : List Char) : List UInt8 := cs.flatMap String.utf8EncodeChar

/-- The bytes of a string. -/
def utf8 (s : String) : List UInt8 := encodeUtf8 s.toList

/-- The bytes of a text, unless there are halves of surrogate pairs in it. -/
def encode? (t : Text) : Except HalfRun (List UInt8) := t.characters.map encodeUtf8

/-- A byte of the form `10xxxxxx`. -/
def isContinuation (b : UInt8) : Bool := 0x80 ≤ b && b < 0xC0

/-- The six low bits of a continuation byte. -/
def lowBits (b : UInt8) : Nat := b.toNat % 64

/-- What the front of some bytes holds. -/
inductive Utf8Step
  | char (c : Char) (rest : List UInt8)
  | flaw (flaw : Utf8Flaw) (length : Nat)

/-- The smallest and the largest second byte that may follow a lead byte. -/
def secondByteRange (lead : UInt8) : UInt8 × UInt8 :=
  if lead = 0xE0 then (0xA0, 0xBF)
  else if lead = 0xED then (0x80, 0x9F)
  else if lead = 0xF0 then (0x90, 0xBF)
  else if lead = 0xF4 then (0x80, 0x8F)
  else (0x80, 0xBF)

/-- A byte that may follow the lead byte. -/
def isSecond (lead b : UInt8) : Bool :=
  (secondByteRange lead).1 ≤ b && b ≤ (secondByteRange lead).2

/-- Reads one character off the front of a lead byte and the bytes after it. -/
def utf8Step (lead : UInt8) (rest : List UInt8) : Utf8Step :=
  if lead < 0x80 then .char (Char.ofNat lead.toNat) rest
  else if lead < 0xC2 || 0xF5 ≤ lead then .flaw .start 1
  else
    match rest with
    | [] => .flaw .truncated 1
    | b :: rest =>
      if !isSecond lead b then .flaw .continuation 1
      else if lead < 0xE0 then
        .char (Char.ofNat (lead.toNat % 32 * 64 + lowBits b)) rest
      else
        match rest with
        | [] => .flaw .truncated 2
        | c :: rest =>
          if !isContinuation c then .flaw .continuation 2
          else if lead < 0xF0 then
            .char (Char.ofNat (lead.toNat % 16 * 4096 + lowBits b * 64 + lowBits c)) rest
          else
            match rest with
            | [] => .flaw .truncated 3
            | d :: rest =>
              if !isContinuation d then .flaw .continuation 3
              else
                .char (Char.ofNat (lead.toNat % 8 * 262144 + lowBits b * 4096 +
                  lowBits c * 64 + lowBits d)) rest

/-- A character read leaves fewer bytes. -/
theorem length_lt_of_utf8Step {lead : UInt8} {rest after : List UInt8} {c : Char}
    (h : utf8Step lead rest = .char c after) : after.length < rest.length + 1 := by
  unfold utf8Step at h
  split at h
  · simp_all
  · split at h
    · simp at h
    · split at h
      · simp at h
      · split at h
        · simp at h
        · split at h
          · simp at h; obtain ⟨_, rfl⟩ := h; simp only [List.length_cons]; omega
          · split at h
            · simp at h
            · split at h
              · simp at h
              · split at h
                · simp at h; obtain ⟨_, rfl⟩ := h; simp only [List.length_cons]; omega
                · split at h
                  · simp at h
                  · split at h
                    · simp at h
                    · simp at h; obtain ⟨_, rfl⟩ := h; simp only [List.length_cons]; omega

/-- How many bytes the sequence of a lead byte has. -/
def sequenceLength (lead : UInt8) : Nat :=
  if lead < 0x80 then 1 else if lead < 0xE0 then 2 else if lead < 0xF0 then 3 else 4

/-- Decodes bytes of which `offset` stand before. -/
def decodeFrom (offset : Nat) (bytes : List UInt8) : Except Utf8Fault (List Char) :=
  match bytes with
  | [] => .ok []
  | lead :: rest =>
    match _h : utf8Step lead rest with
    | .flaw flaw length => .error ⟨offset, length, lead, flaw⟩
    | .char c after => do
      let cs ← decodeFrom (offset + sequenceLength lead) after
      return c :: cs
termination_by bytes.length
decreasing_by exact length_lt_of_utf8Step (by assumption)

/-- The characters that the bytes encode. -/
def decodeUtf8 (bytes : List UInt8) : Except Utf8Fault (List Char) := decodeFrom 0 bytes

end Casebook.Text

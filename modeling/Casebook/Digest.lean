import Casebook.Text.Hex

/-!
# Digests

The secure hash algorithm with 160 bits. The bytes are padded to whole blocks of sixteen
words; the blocks are mixed one after the other into five words, in eighty rounds each,
and the digest is those five words in hexadecimal.
-/

namespace Casebook.Digest

/-- The five words that the blocks are mixed into. -/
structure Mixed where
  a : UInt32
  b : UInt32
  c : UInt32
  d : UInt32
  e : UInt32
deriving Repr, DecidableEq

def Mixed.initial : Mixed := ⟨0x67452301, 0xEFCDAB89, 0x98BADCFE, 0x10325476, 0xC3D2E1F0⟩

/-- Turns a word left by `n` bits, with `n` between one and thirty-one. -/
def turnLeft (n w : UInt32) : UInt32 := (w <<< n) ||| (w >>> (32 - n))

/-- What a round adds: a choice, a parity or a majority of three words, and a constant. -/
def roundTerm (round : Nat) (m : Mixed) : UInt32 :=
  if round < 20 then ((m.b &&& m.c) ||| (~~~m.b &&& m.d)) + 0x5A827999
  else if round < 40 then (m.b ^^^ m.c ^^^ m.d) + 0x6ED9EBA1
  else if round < 60 then ((m.b &&& m.c) ||| (m.b &&& m.d) ||| (m.c &&& m.d)) + 0x8F1BBCDC
  else (m.b ^^^ m.c ^^^ m.d) + 0xCA62C1D6

/-- One round with one word. -/
def Mixed.round (m : Mixed) (round : Nat) (word : UInt32) : Mixed :=
  ⟨turnLeft 5 m.a + roundTerm round m + m.e + word, m.a, turnLeft 30 m.b, m.c, m.d⟩

/-- The word sixteen places after the first of a window of sixteen. -/
def nextWord (window : List UInt32) : UInt32 :=
  let word := fun i => window.getD i 0
  turnLeft 1 (word 13 ^^^ word 8 ^^^ word 2 ^^^ word 0)

/-- The rounds from `round` on, `left` of them; the window holds the next sixteen words. -/
def rounds (round : Nat) (window : List UInt32) (m : Mixed) : (left : Nat) → Mixed
  | 0 => m
  | left + 1 =>
    rounds (round + 1) (window.tail ++ [nextWord window]) (m.round round (window.headD 0)) left

/-- One block of sixteen words. -/
def Mixed.block (m : Mixed) (words : List UInt32) : Mixed :=
  let n := rounds 0 words m 80
  ⟨m.a + n.a, m.b + n.b, m.c + n.c, m.d + n.d, m.e + n.e⟩

/-- The `n` lowest bytes of a number, the highest of them first. -/
def bigEndian : (n : Nat) → Nat → List UInt8
  | 0, _ => []
  | n + 1, k => bigEndian n (k / 256) ++ [UInt8.ofNat (k % 256)]

/-- The bytes behind a message of so many bytes: a one bit, zeros up to the last eight
bytes of a block, and the number of bits. -/
def padding (length : Nat) : List UInt8 :=
  0x80 :: List.replicate ((119 - length % 64) % 64) 0 ++ bigEndian 8 (8 * length)

/-- The words that bytes make up, four bytes each, the highest byte first. -/
def words : List UInt8 → List UInt32
  | a :: b :: c :: d :: rest =>
    ((a.toUInt32 <<< 24) ||| (b.toUInt32 <<< 16) ||| (c.toUInt32 <<< 8) ||| d.toUInt32) ::
      words rest
  | _ => []

/-- Mixes so many blocks of words. -/
def blocks : (count : Nat) → List UInt32 → Mixed → Mixed
  | 0, _, m => m
  | count + 1, ws, m => blocks count (ws.drop 16) (m.block (ws.take 16))

/-- The digest of the bytes, in forty hexadecimal digits. -/
def sha1 (bytes : List UInt8) : String :=
  let ws := words (bytes ++ padding bytes.length)
  let m := blocks (ws.length / 16) ws .initial
  String.ofList ([m.a, m.b, m.c, m.d, m.e].flatMap fun w => Text.hex 8 w.toNat)

end Casebook.Digest

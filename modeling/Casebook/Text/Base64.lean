/-!
# Base 64

Bytes written as letters, digits, plus and slash, six bits each. Other characters are
skipped when they are read back; equality signs fill up the last group of four.
-/

namespace Casebook.Text

/-- The six bits that a character stands for. -/
def sixBits? (c : Char) : Option Nat :=
  let n := c.toNat
  if 65 ≤ n && n ≤ 90 then some (n - 65)
  else if 97 ≤ n && n ≤ 122 then some (n - 71)
  else if 48 ≤ n && n ≤ 57 then some (n + 4)
  else if c == '+' then some 62
  else if c == '/' then some 63
  else none

/-- Reads characters after `place` of the current group of four, whose bits that are not
written out yet are `bits`, and after `pads` equality signs. -/
def base64From (place bits pads : Nat) : List Char → Option (List UInt8)
  | [] => if place = 0 then some [] else none
  | c :: cs =>
    if c = '=' then
      if place ≥ 2 then (if place + pads + 1 ≥ 4 then some [] else base64From place bits (pads + 1) cs)
      else base64From place bits pads cs
    else
      match sixBits? c with
      | none => base64From place bits pads cs
      | some n =>
        match place with
        | 0 => base64From 1 n 0 cs
        | 1 => (base64From 2 (n % 16) 0 cs).map (UInt8.ofNat (bits * 4 + n / 16) :: ·)
        | 2 => (base64From 3 (n % 4) 0 cs).map (UInt8.ofNat (bits * 16 + n / 4) :: ·)
        | _ => (base64From 0 0 0 cs).map (UInt8.ofNat (bits * 64 + n) :: ·)

/-- The bytes that a text stands for, if its groups are complete. -/
def readBase64? (cs : List Char) : Option (List UInt8) := base64From 0 0 0 cs

/-- The character for six bits. -/
def sixBitChar (n : Nat) : Char :=
  Char.ofNat (if n < 26 then 65 + n else if n < 52 then 71 + n else if n < 62 then n - 4
    else if n = 62 then 43 else 47)

/-- The characters for bytes. -/
def base64 : List UInt8 → List Char
  | [] => []
  | [a] =>
    let n := a.toNat
    [sixBitChar (n / 4), sixBitChar (n % 4 * 16), '=', '=']
  | [a, b] =>
    let (m, n) := (a.toNat, b.toNat)
    [sixBitChar (m / 4), sixBitChar (m % 4 * 16 + n / 16), sixBitChar (n % 16 * 4), '=']
  | a :: b :: c :: rest =>
    let (l, m, n) := (a.toNat, b.toNat, c.toNat)
    sixBitChar (l / 4) :: sixBitChar (l % 4 * 16 + m / 16) ::
      sixBitChar (m % 16 * 4 + n / 64) :: sixBitChar (n % 64) :: base64 rest

/-- Cuts a list into pieces of the given length; `fuel` bounds their number. -/
def piecesOf (length : Nat) : (fuel : Nat) → List Char → List (List Char)
  | 0, _ => []
  | fuel + 1, cs =>
    if cs.isEmpty then [] else cs.take length :: piecesOf length fuel (cs.drop length)

/-- The characters for bytes in lines of seventy-six. -/
def base64Lines (bytes : List UInt8) : List (List Char) :=
  let cs := base64 bytes
  piecesOf 76 (cs.length + 1) cs

end Casebook.Text

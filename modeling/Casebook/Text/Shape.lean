import Casebook.Text.Range

/-!
# Shapes of letters

Small Latin letters have other shapes with code points of their own: wide, raised and lowered
ones, old ones, those of numerals, and those of mathematics, which has thirteen alphabets with
capital letters in front of small ones.
-/

namespace Casebook.Text

/-- The code points of single letters of another shape, letter by letter. -/
def shapedLetters : List (Char × List Nat) :=
  [('a', [0xaa, 0x1d43, 0x2090]), ('b', [0x1d47]), ('c', [0x1d9c, 0x217d]),
    ('d', [0x1d48, 0x2146, 0x217e]), ('e', [0x1d49, 0x2091, 0x212f, 0x2147]), ('f', [0x1da0]),
    ('g', [0x1d4d, 0x210a]), ('h', [0x2b0, 0x2095, 0x210e]),
    ('i', [0x1d62, 0x2071, 0x2139, 0x2148, 0x2170]), ('j', [0x2b2, 0x2149, 0x2c7c]),
    ('k', [0x1d4f, 0x2096]), ('l', [0x2e1, 0x2097, 0x2113, 0x217c]),
    ('m', [0x1d50, 0x2098, 0x217f]), ('n', [0x207f, 0x2099]),
    ('o', [0xba, 0x1d52, 0x2092, 0x2134]), ('p', [0x1d56, 0x209a]), ('q', [0x107a5]),
    ('r', [0x2b3, 0x1d63]), ('s', [0x17f, 0x2e2, 0x209b]), ('t', [0x1d57, 0x209c]),
    ('u', [0x1d58, 0x1d64]), ('v', [0x1d5b, 0x1d65, 0x2174]), ('w', [0x2b7]),
    ('x', [0x2e3, 0x2093, 0x2179]), ('y', [0x2b8]), ('z', [0x1dbb])]

/-- A small letter in its plain shape; another character is left as it is. -/
def plainShape (c : Char) : Char :=
  let n := c.toNat
  let nth := fun (k : Nat) => Char.ofNat ('a'.toNat + k)
  if isInRanges [(0xff41, 0xff5a)] n then nth (n - 0xff41)
  else if isInRanges [(0x1d400, 0x1d6a3)] n && 26 ≤ (n - 0x1d400) % 52 then
    nth ((n - 0x1d400) % 52 - 26)
  else ((shapedLetters.find? (·.2.contains n)).map Prod.fst).getD c

theorem plainShape_of_ascii : ∀ n < 128, plainShape (Char.ofNat n) = Char.ofNat n := by decide

end Casebook.Text

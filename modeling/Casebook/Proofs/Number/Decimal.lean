import Casebook.Number.Shortest
import Casebook.Proofs.Text.Digit

/-!
# Decimals through binary numbers

A decimal from three up to four, of at most fifteen digits behind the point, is read as the nearest
binary number and written again as the shortest decimal that is read as the same number. In this
range the binary numbers lie two to the power of 51 to the unit, which is so close that two such
decimals never share one.

Main statement (`shortest_nearest`): what is written is the decimal itself, without the zeros at its
end.
-/

namespace Casebook.Number

namespace Binary64

/-! ## Rounding -/

/-- A quotient is rounded by at most a half, and by a half only to an even number. -/
theorem roundDiv_spec (num : Nat) {den : Nat} (hden : 0 < den) :
    2 * (roundDiv num den * den) ≤ 2 * num + den ∧ 2 * num ≤ 2 * (roundDiv num den * den) + den ∧
      (2 * (roundDiv num den * den) = 2 * num + den ∨
        2 * num = 2 * (roundDiv num den * den) + den → roundDiv num den % 2 = 0) := by
  have hsplit : den * (num / den) + num % den = num := Nat.div_add_mod num den
  have hlt : num % den < den := Nat.mod_lt num hden
  unfold roundDiv
  dsimp only
  generalize num / den = q at *
  generalize num % den = r at *
  have hone : (q + 1) * den = den * q + den := by ring
  have hzero : q * den = den * q := by ring
  split
  · next hup =>
    rw [hone]
    simp only [Bool.or_eq_true, decide_eq_true_eq, Bool.and_eq_true, beq_iff_eq] at hup
    generalize den * q = p at *
    omega
  · next hdown =>
    rw [hzero]
    simp only [Bool.or_eq_true, decide_eq_true_eq, Bool.and_eq_true, beq_iff_eq, not_or,
      not_and] at hdown
    generalize den * q = p at *
    omega

/-! ## The range from three to four -/

/-- `n` tenths, hundredths and so on: a decimal with `d` digits behind the point, from three up to
four. -/
structure IsThree (n d : Nat) : Prop where
  low : 3 * 10 ^ d ≤ n
  high : n < 4 * 10 ^ d
  short : d ≤ 15

theorem IsThree.pow_le {n d : Nat} (h : IsThree n d) : 10 ^ d ≤ 10 ^ 15 :=
  Nat.pow_le_pow_right (by decide) h.short

theorem scale_natCast (num den k : Nat) : scale num den (k : Int) = (num * 2 ^ k, den) := by
  unfold scale
  rw [if_pos (Int.natCast_nonneg k), Int.toNat_natCast]
  rfl

theorem exponentOf_eq {num den n d : Nat} {guess : Int}
    (hguess : (num.log2 : Int) - den.log2 - 52 = guess) (hscale : scale num den (-guess) = (n, d)) :
    exponentOf num den = max (if n / d < 2 ^ 52 then guess - 1 else guess) minExponent := by
  subst hguess
  unfold exponentOf
  simp only [hscale]
  rfl

theorem ofRatio_eq {num den n d : Nat} {e : Int} (negative : Bool) (hnum : num ≠ 0)
    (he : exponentOf num den = e) (hscale : scale num den (-e) = (n, d))
    (hsize : roundDiv n d ≠ twoTo 53) (hmost : e ≤ maxExponent) :
    ofRatio negative num den = .finite negative (roundDiv n d) e := by
  unfold ofRatio
  simp only [he, hscale, if_neg hnum, if_neg hsize, if_neg (Int.not_lt.mpr hmost)]

/-- The binary numbers from two up to four have the exponent -51. -/
theorem exponentOf_three {n d : Nat} (h : IsThree n d) : exponentOf n (10 ^ d) = -51 := by
  obtain ⟨hlow, hhigh, -⟩ := h
  have hpos : 0 < 10 ^ d := Nat.pow_pos (by decide)
  generalize 10 ^ d = den at *
  have hn : n ≠ 0 := by omega
  have hden : 2 ^ den.log2 ≤ den := Nat.log2_self_le (by omega)
  have hden' : den < 2 ^ (den.log2 + 1) := Nat.lt_log2_self
  have hleast : den.log2 + 1 ≤ n.log2 := by
    rw [Nat.le_log2 hn, Nat.pow_succ]
    omega
  have hmost : n.log2 < den.log2 + 3 := by
    rw [Nat.log2_lt hn]
    rw [Nat.pow_succ] at hden' ⊢
    rw [Nat.pow_succ]
    omega
  have hguess : (n.log2 : Int) - den.log2 - 52 = -51 ∨ (n.log2 : Int) - den.log2 - 52 = -50 := by
    omega
  rcases hguess with hguess | hguess
  · -- the guess is right
    have hquot : ¬ n * 2 ^ 51 / den < 2 ^ 52 := by
      rw [Nat.div_lt_iff_lt_mul hpos]
      omega
    rw [exponentOf_eq hguess (scale_natCast n den 51), if_neg hquot]
    rfl
  · -- the guess is one too high
    have hquot : n * 2 ^ 50 / den < 2 ^ 52 := by
      rw [Nat.div_lt_iff_lt_mul hpos]
      omega
    rw [exponentOf_eq hguess (scale_natCast n den 50), if_pos hquot]
    rfl

/-- `m` is the multiple of two to the power of -51 that is nearest to a decimal. -/
structure IsNearest (n d m : Nat) : Prop where
  above : m * 10 ^ d * 2 ≤ n * 2 ^ 52 + 10 ^ d
  below : n * 2 ^ 52 ≤ m * 10 ^ d * 2 + 10 ^ d
  even : m * 10 ^ d * 2 = n * 2 ^ 52 + 10 ^ d ∨ n * 2 ^ 52 = m * 10 ^ d * 2 + 10 ^ d → m % 2 = 0
  least : 3 * 2 ^ 51 ≤ m
  most : m < 2 ^ 53

theorem isNearest_roundDiv {n d : Nat} (h : IsThree n d) :
    IsNearest n d (roundDiv (n * 2 ^ 51) (10 ^ d)) := by
  have hpow := h.pow_le
  obtain ⟨hlow, hhigh, -⟩ := h
  have hpos : 0 < 10 ^ d := Nat.pow_pos (by decide)
  obtain ⟨habove, hbelow, heven⟩ := roundDiv_spec (n * 2 ^ 51) hpos
  generalize roundDiv (n * 2 ^ 51) (10 ^ d) = m at *
  refine ⟨by omega, by omega, fun htie => heven (by omega), ?_, ?_⟩
  · by_contra hlt
    have hm : (m + 1) * 10 ^ d ≤ 3 * 2 ^ 51 * 10 ^ d := Nat.mul_le_mul_right _ (by omega)
    rw [Nat.succ_mul] at hm
    generalize m * 10 ^ d = p at *
    generalize 10 ^ d = den at *
    omega
  · by_contra hge
    have hm : 2 ^ 53 * 10 ^ d ≤ m * 10 ^ d := Nat.mul_le_mul_right _ (by omega)
    generalize m * 10 ^ d = p at *
    generalize 10 ^ d = den at *
    omega

/-- The number that a decimal of this range is read as. -/
theorem ofRatio_three {n d : Nat} (h : IsThree n d) :
    ofRatio false n (10 ^ d) = .finite false (roundDiv (n * 2 ^ 51) (10 ^ d)) (-51) := by
  have hn : n ≠ 0 := by
    have hpos : 0 < 10 ^ d := Nat.pow_pos (by decide)
    have hlow := h.low
    omega
  have hsize : roundDiv (n * 2 ^ 51) (10 ^ d) ≠ twoTo 53 := Nat.ne_of_lt (isNearest_roundDiv h).most
  exact ofRatio_eq false hn (exponentOf_three h) (scale_natCast n (10 ^ d) 51) hsize (by decide)

/-! ## The shortest decimal -/

section

variable {n d m : Nat}

theorem twoTo_eq (k : Nat) : twoTo k = 2 ^ k := rfl

theorem tenTo_eq (k : Nat) : tenTo k = 10 ^ k := rfl

theorem interval_three (hm : 3 * 2 ^ 51 ≤ m) :
    interval m (-51) = ⟨4 * m - 2, 4 * m, 4 * m + 2, 2 ^ 53, m % 2 == 0⟩ := by
  have hne : m ≠ twoTo 52 := by
    rw [twoTo_eq]
    omega
  have hexponent : ¬ (-51 : Int) ≥ 2 := by decide
  have hden : twoTo (2 - (-51 : Int)).toNat = 2 ^ 53 := twoTo_eq 53
  unfold interval
  simp only [hne, decide_false, Bool.false_and, Bool.false_eq_true, if_false, if_neg hexponent,
    Nat.mul_one, hden]

/-- The decimals that are read as the number `m`: those within half of the distance between numbers,
and those just there if `m` is even. -/
theorem holds_iff (hm : 3 * 2 ^ 51 ≤ m) (q k : Nat) :
    (interval m (-51)).holds ⟨q, -(k : Int)⟩ = true ↔
      if m % 2 = 0 then m * 10 ^ k * 4 ≤ q * 2 ^ 53 + 10 ^ k * 2 ∧
        q * 2 ^ 53 ≤ m * 10 ^ k * 4 + 10 ^ k * 2
      else m * 10 ^ k * 4 < q * 2 ^ 53 + 10 ^ k * 2 ∧ q * 2 ^ 53 < m * 10 ^ k * 4 + 10 ^ k * 2 := by
  have hlow : (4 * m - 2) * 10 ^ k + 10 ^ k * 2 = m * 10 ^ k * 4 := by
    rw [Nat.sub_mul]
    have hle : 2 * 10 ^ k ≤ 4 * m * 10 ^ k := Nat.mul_le_mul_right _ (by omega)
    rw [show 4 * m * 10 ^ k = m * 10 ^ k * 4 by ring] at hle ⊢
    omega
  have hhigh : (4 * m + 2) * 10 ^ k = m * 10 ^ k * 4 + 10 ^ k * 2 := by ring
  have hnum : (if 0 ≤ -(k : Int) then q * tenTo (-(k : Int)).toNat * 2 ^ 53 else q * 2 ^ 53) =
      q * 2 ^ 53 := by
    split
    · next hk =>
      rw [show (-(k : Int)).toNat = 0 by omega, tenTo_eq, Nat.pow_zero, Nat.mul_one]
    · rfl
  have hscale : (if 0 ≤ -(k : Int) then 1 else tenTo (-(-(k : Int))).toNat) = 10 ^ k := by
    split
    · next hk => rw [show k = 0 by omega, Nat.pow_zero]
    · rw [Int.neg_neg, Int.toNat_natCast, tenTo_eq]
  rw [interval_three hm]
  unfold Interval.holds
  dsimp only
  rw [hnum, hscale, hhigh]
  simp only [beq_iff_eq]
  split
  all_goals
    simp only [Bool.and_eq_true, decide_eq_true_eq]
    omega

/-- What is read as the number `m` lies within half of the distance between numbers. -/
theorem near_of_holds {q k : Nat} (hm : 3 * 2 ^ 51 ≤ m)
    (h : (interval m (-51)).holds ⟨q, -(k : Int)⟩ = true) :
    m * 10 ^ k * 4 ≤ q * 2 ^ 53 + 10 ^ k * 2 ∧ q * 2 ^ 53 ≤ m * 10 ^ k * 4 + 10 ^ k * 2 := by
  rw [holds_iff hm] at h
  split at h
  all_goals omega

variable {q k j : Nat}

/-- The decimal that a number is nearest to is read as that number. -/
theorem holds_of_nearest (h : IsNearest n d m) (hn : n = q * 10 ^ j) (hd : d = k + j) :
    (interval m (-51)).holds ⟨q, -(k : Int)⟩ = true := by
  obtain ⟨habove, hbelow, heven, hleast, -⟩ := h
  have hj : 0 < 10 ^ j := Nat.pow_pos (by decide)
  have hd' : 10 ^ d = 10 ^ k * 10 ^ j := by rw [hd, Nat.pow_add]
  rw [holds_iff hleast]
  rw [hn, hd', ← Nat.mul_assoc] at habove hbelow heven
  generalize m * 10 ^ k = a at *
  generalize 10 ^ k = den at *
  generalize 10 ^ j = f at *
  -- the zeros at the end are a factor of both sides
  have hfa : a * f * 2 = a * 2 * f := by ring
  have hfn : q * f * 2 ^ 52 + den * f = (q * 2 ^ 52 + den) * f := by ring
  have hfq : q * f * 2 ^ 52 = q * 2 ^ 52 * f := by ring
  have hfb : a * 2 * f + den * f = (a * 2 + den) * f := by ring
  rw [hfa, hfn] at habove
  rw [hfa, hfb, hfq] at hbelow
  rw [hfa, hfn, hfb, hfq] at heven
  replace habove := Nat.le_of_mul_le_mul_right habove hj
  replace hbelow := Nat.le_of_mul_le_mul_right hbelow hj
  split
  · omega
  · next hodd =>
    have hno : ¬ (a * 2 = q * 2 ^ 52 + den ∨ q * 2 ^ 52 = a * 2 + den) := fun htie =>
      hodd (heven (htie.imp (congrArg (· * f)) (congrArg (· * f))))
    omega

/-- No two decimals of at most fifteen digits behind the point are read as one number. -/
theorem eq_of_holds (h : IsThree n d) (hm : IsNearest n d m)
    (hholds : (interval m (-51)).holds ⟨q, -(k : Int)⟩ = true) (hd : d = k + j) :
    q * 10 ^ j = n := by
  have hpow := h.pow_le
  obtain ⟨habove, hbelow, -, hleast, -⟩ := hm
  obtain ⟨hlow, hhigh⟩ := near_of_holds hleast hholds
  replace hlow := Nat.mul_le_mul_right (10 ^ j) hlow
  replace hhigh := Nat.mul_le_mul_right (10 ^ j) hhigh
  have hd' : 10 ^ d = 10 ^ k * 10 ^ j := by rw [hd, Nat.pow_add]
  have hcentre : m * 10 ^ k * 4 * 10 ^ j = m * 10 ^ d * 4 := by
    rw [hd']
    ring
  have hleft : (q * 2 ^ 53 + 10 ^ k * 2) * 10 ^ j = q * 10 ^ j * 2 ^ 53 + 10 ^ d * 2 := by
    rw [hd']
    ring
  have hright : (m * 10 ^ k * 4 + 10 ^ k * 2) * 10 ^ j = m * 10 ^ d * 4 + 10 ^ d * 2 := by
    rw [hd']
    ring
  have hq : q * 2 ^ 53 * 10 ^ j = q * 10 ^ j * 2 ^ 53 := by ring
  rw [hcentre, hleft] at hlow
  rw [hq, hright] at hhigh
  generalize m * 10 ^ d = a at *
  generalize q * 10 ^ j = p at *
  generalize 10 ^ d = den at *
  omega

/-! ## The grids -/

/-- The neighbours of a number on the grid of so many digits behind the point. -/
theorem neighbours_eq (hm : 3 * 2 ^ 51 ≤ m) (k : Nat) :
    ∃ up, (interval m (-51)).neighbours (-(k : Int)) =
      (⟨4 * m * 10 ^ k / 2 ^ 53, -(k : Int)⟩, ⟨4 * m * 10 ^ k / 2 ^ 53 + 1, -(k : Int)⟩, up) := by
  have hnum : (if 0 ≤ -(k : Int) then 4 * m else 4 * m * tenTo (-(-(k : Int))).toNat) =
      4 * m * 10 ^ k := by
    split
    · next hk => rw [show k = 0 by omega, Nat.pow_zero, Nat.mul_one]
    · rw [Int.neg_neg, Int.toNat_natCast, tenTo_eq]
  have hden : (if 0 ≤ -(k : Int) then 2 ^ 53 * tenTo (-(k : Int)).toNat else 2 ^ 53) = 2 ^ 53 := by
    split
    · next hk => rw [show (-(k : Int)).toNat = 0 by omega, tenTo_eq, Nat.pow_zero, Nat.mul_one]
    · rfl
  rw [interval_three hm]
  unfold Interval.neighbours
  dsimp only
  rw [hnum, hden]
  exact ⟨_, rfl⟩

/-- A grid without a decimal that is read as the number. -/
theorem onGrid_none (hm : 3 * 2 ^ 51 ≤ m)
    (h : ∀ q, (interval m (-51)).holds ⟨q, -(k : Int)⟩ = false) :
    (interval m (-51)).onGrid (-(k : Int)) = none := by
  obtain ⟨up, hup⟩ := neighbours_eq hm k
  unfold Interval.onGrid
  rw [hup]
  dsimp only
  rw [h, h]

/-- A grid with only one decimal that is read as the number. -/
theorem onGrid_some (hm : 3 * 2 ^ 51 ≤ m) (hk : k ≤ 15)
    (hq : (interval m (-51)).holds ⟨q, -(k : Int)⟩ = true)
    (honly : ∀ p, (interval m (-51)).holds ⟨p, -(k : Int)⟩ = true → p = q) :
    (interval m (-51)).onGrid (-(k : Int)) = some ⟨q, -(k : Int)⟩ := by
  obtain ⟨up, hup⟩ := neighbours_eq hm k
  obtain ⟨hlow, hhigh⟩ := near_of_holds hm hq
  have hpow : 10 ^ k ≤ 10 ^ 15 := Nat.pow_le_pow_right (by decide) hk
  have hfloor : 4 * m * 10 ^ k / 2 ^ 53 = q ∨ 4 * m * 10 ^ k / 2 ^ 53 + 1 = q := by
    rw [show 4 * m * 10 ^ k = m * 10 ^ k * 4 by ring]
    generalize m * 10 ^ k = a at *
    generalize 10 ^ k = den at *
    omega
  unfold Interval.onGrid
  rw [hup]
  dsimp only
  generalize 4 * m * 10 ^ k / 2 ^ 53 = p at *
  rcases hfloor with rfl | rfl
  · have hother : (interval m (-51)).holds ⟨p + 1, -(k : Int)⟩ = false :=
      Bool.eq_false_iff.mpr fun hholds => absurd (honly _ hholds) (by omega)
    rw [hq, hother]
  · have hother : (interval m (-51)).holds ⟨p, -(k : Int)⟩ = false :=
      Bool.eq_false_iff.mpr fun hholds => absurd (honly _ hholds) (by omega)
    rw [hq, hother]

/-- The coarsest grid on which something is found. -/
theorem findSome?_range {α : Type} {f : Nat → Option α} {a : α} {size : Nat} (hk : k < size)
    (hbefore : ∀ i < k, f i = none) (ha : f k = some a) :
    (List.range size).findSome? f = some a := by
  rw [List.findSome?_eq_some_iff]
  refine ⟨List.range k, k, (List.range (size - k - 1)).map (k + 1 + ·), ?_, ha, fun i hi =>
    hbefore i (List.mem_range.mp hi)⟩
  rw [← List.singleton_append, ← List.append_assoc, ← List.range_succ, ← List.range_add]
  congr 1
  omega

/-- The numbers from three up to four have one digit in front of the point. -/
theorem decimalExponent_three (hleast : 3 * 2 ^ 51 ≤ m) (hmost : m < 2 ^ 53) :
    decimalExponent (4 * m) (2 ^ 53) = 0 := by
  unfold decimalExponent
  rw [if_pos (by omega), show 4 * m / 2 ^ 53 = 3 by omega]
  rfl

theorem trimmed_of_ne {q : Nat} (hq : q % 10 ≠ 0) (e : Int) (fuel : Nat) :
    Decimal.trimmed fuel ⟨q, e⟩ = ⟨q, e⟩ := by
  cases fuel with
  | zero => rfl
  | succ fuel =>
      unfold Decimal.trimmed
      rw [if_neg (by simp [hq])]

/-- The grids are tried from that of the integers on. -/
theorem shortest_eq (hleast : 3 * 2 ^ 51 ≤ m) (hmost : m < 2 ^ 53) :
    ∃ usual, shortest m (-51) = Decimal.trimmed 20 (((List.range 17).findSome?
      fun k : Nat => (interval m (-51)).onGrid (-(k : Int))).getD usual) := by
  have htop : decimalExponent (interval m (-51)).centre (interval m (-51)).den = 0 := by
    rw [interval_three hleast]
    exact decimalExponent_three hleast hmost
  unfold shortest
  simp only [htop, Int.zero_sub, List.findSome?_map]
  exact ⟨_, rfl⟩

/-- **The shortest decimal** of the number nearest to a decimal of at most fifteen digits behind the
point is that decimal, without the zeros at its end. -/
theorem shortest_nearest (h : IsThree n d) (hn : n = q * 10 ^ j) (hd : d = k + j)
    (hq : q % 10 ≠ 0) : shortest (roundDiv (n * 2 ^ 51) (10 ^ d)) (-51) = ⟨q, -(k : Int)⟩ := by
  have hm := isNearest_roundDiv h
  have hshort := h.short
  generalize roundDiv (n * 2 ^ 51) (10 ^ d) = m at *
  have hbefore : ∀ i < k, (interval m (-51)).onGrid (-(i : Int)) = none := by
    intro i hi
    refine onGrid_none hm.least fun p => Bool.eq_false_iff.mpr fun hholds => ?_
    have hp : p * 10 ^ (d - i) = n := eq_of_holds h hm hholds (by omega)
    -- a shorter decimal would be the same one, but its last digit is no zero
    rw [hn, show d - i = (k - i - 1) + 1 + j by omega, Nat.pow_add, ← Nat.mul_assoc] at hp
    replace hp := Nat.eq_of_mul_eq_mul_right (Nat.pow_pos (by decide)) hp
    rw [Nat.pow_succ, ← Nat.mul_assoc] at hp
    omega
  have hfound : (interval m (-51)).onGrid (-(k : Int)) = some ⟨q, -(k : Int)⟩ := by
    refine onGrid_some hm.least (by omega) (holds_of_nearest hm hn hd) fun p hholds => ?_
    have hp := eq_of_holds h hm hholds hd
    rw [hn] at hp
    exact Nat.eq_of_mul_eq_mul_right (Nat.pow_pos (by decide)) hp
  obtain ⟨usual, husual⟩ := shortest_eq hm.least hm.most
  rw [husual, findSome?_range (show k < 17 by omega) hbefore hfound, Option.getD_some,
    trimmed_of_ne hq]

end

end Binary64

/-! ## Texts -/

open Binary64

theorem Binary64.IsThree.of_zeros {n d q k j : Nat} (h : IsThree n d) (hn : n = q * 10 ^ j)
    (hd : d = k + j) : IsThree q k := by
  have hj : 0 < 10 ^ j := Nat.pow_pos (by decide)
  obtain ⟨hlow, hhigh, hshort⟩ := h
  rw [hn, hd, Nat.pow_add, ← Nat.mul_assoc] at hlow hhigh
  exact ⟨Nat.le_of_mul_le_mul_right hlow hj, Nat.lt_of_mul_lt_mul_right hhigh, by omega⟩

/-- The digits of a decimal from three up to four: one in front of the point and `d` behind it. -/
theorem length_toDigits_three {n d : Nat} (h : IsThree n d) :
    (Nat.toDigits 10 n).length = d + 1 := by
  have hpos : 0 < 10 ^ d := Nat.pow_pos (by decide)
  have hlow := h.low
  have hhigh := h.high
  refine Nat.le_antisymm ?_ (Nat.lt_of_not_le fun hle => ?_)
  · rw [Nat.length_toDigits_le_iff (by decide) (by omega), Nat.pow_succ]
    omega
  · cases d with
    | zero => exact absurd (List.length_eq_zero_iff.mp (Nat.le_zero.mp hle)) Nat.toDigits_ne_nil
    | succ d =>
        rw [Nat.length_toDigits_le_iff (by decide) (by omega)] at hle
        omega

/-- A decimal from three up to four is read as a quotient and rounded once. -/
theorem ofDecimal_three {n d : Nat} (h : IsThree n d) (hd : 0 < d) :
    ofDecimal false n (-(d : Int)) =
      .finite false (roundDiv (n * 2 ^ 51) (10 ^ d)) (-51) := by
  have hpos : 0 < 10 ^ d := Nat.pow_pos (by decide)
  have hlow := h.low
  have hn : n ≠ 0 := by omega
  have hsize : ((decimalLength n : Nat) : Int) + -(d : Int) = 1 := by
    unfold decimalLength
    rw [if_neg hn, length_toDigits_three h]
    omega
  unfold ofDecimal
  dsimp only
  rw [hsize, if_neg (by simp [hn]), if_neg (by decide), if_neg (by omega), Int.neg_neg,
    Int.toNat_natCast, tenTo_eq, ofRatio_three h]

theorem digitsValue_cons (c : Char) (cs : List Char) :
    Text.digitsValue (c :: cs) = Text.digitValue c * 10 ^ cs.length + Text.digitsValue cs := by
  induction cs using List.reverseRecOn with
  | nil => simp [Text.digitsValue]
  | append_singleton cs last ih =>
      rw [← List.cons_append, Text.digitsValue_concat, ih, Text.digitsValue_concat,
        List.length_append, List.length_singleton, Nat.pow_succ]
      ring

/-- A digit in front of a number's own. -/
theorem toDigits_three (n : Nat) :
    Nat.toDigits 10 (3 * 10 ^ (Nat.toDigits 10 n).length + n) = '3' :: Nat.toDigits 10 n := by
  have hnumeral : Text.IsNumeral ('3' :: Nat.toDigits 10 n) := by
    refine ⟨by simp, ?_, by simp⟩
    rw [List.forall_mem_cons]
    exact ⟨by decide, (Text.isNumeral_toDigits n).isDigit⟩
  have hvalue := digitsValue_cons '3' (Nat.toDigits 10 n)
  rw [Text.digitsValue_toDigits] at hvalue
  rw [← Text.toDigits_digitsValue hnumeral, hvalue]
  rfl

theorem length_toString (n : Nat) : (toString n).length = (Nat.toDigits 10 n).length := by
  show (Nat.repr n).length = _
  rw [Nat.repr_eq_ofList_toDigits, String.length_ofList]

/-- The text of a decimal from three up to four has its point behind the first digit. -/
theorem render_three {n d q k j : Nat} (h : IsThree n d) (hpos : 0 < d) (hn : n = q * 10 ^ j)
    (hd : d = k + j) (hq : q % 10 ≠ 0) :
    Layout.message.render (ofDecimal false n (-(d : Int))) = Layout.positional (toString q) 1 := by
  have hm := isNearest_roundDiv h
  have hleast := hm.least
  have hpoint : (((toString q).length : Nat) : Int) + -(k : Int) = 1 := by
    rw [length_toString, length_toDigits_three (h.of_zeros hn hd)]
    omega
  have hne : ¬ roundDiv (n * 2 ^ 51) (10 ^ d) = 0 := by omega
  rw [ofDecimal_three h hpos]
  unfold Layout.render
  simp only [if_neg hne, shortest_nearest h hn hd hq, hpoint, Bool.false_eq_true, if_false]
  exact String.empty_append

theorem positional_of_cons {c : Char} {cs : List Char} (h : cs ≠ []) :
    Layout.positional (String.ofList (c :: cs)) 1 = String.ofList (c :: '.' :: cs) := by
  have hlength : 0 < cs.length := List.length_pos_iff.mpr h
  unfold Layout.positional
  rw [String.length_ofList, String.toList_ofList, if_neg (by decide),
    if_neg (by simp only [List.length_cons]; omega)]
  apply String.toList_injective
  simp

theorem length_toDigits_zeros {n : Nat} (h : 0 < n) (j : Nat) :
    (Nat.toDigits 10 (n * 10 ^ j)).length = (Nat.toDigits 10 n).length + j := by
  induction j with
  | zero => rw [Nat.pow_zero, Nat.mul_one, Nat.add_zero]
  | succ j ih =>
      have hpos : 0 < n * 10 ^ j := Nat.mul_pos h (Nat.pow_pos (by decide))
      rw [Nat.pow_succ, ← Nat.mul_assoc, Nat.mul_comm _ 10, ← Nat.add_zero (10 * _),
        ← Nat.toDigits_append_toDigits (by decide) hpos (by decide), List.length_append, ih]
      rfl

/-- The decimal that a three, a point and the digits of a number write: its digits, and how many of
them stand behind the point. -/
def threePoint (n : Nat) : Nat × Nat :=
  (3 * 10 ^ (Nat.toDigits 10 n).length + n, (Nat.toDigits 10 n).length)

theorem isThree_threePoint {n : Nat} (h : n < 10 ^ 15) :
    IsThree (threePoint n).1 (threePoint n).2 := by
  have hlength : (Nat.toDigits 10 n).length ≤ 15 :=
    (Nat.length_toDigits_le_iff (by decide) (by decide)).mpr h
  have hpos : 0 < (Nat.toDigits 10 n).length := List.length_pos_iff.mpr Nat.toDigits_ne_nil
  have hlt : n < 10 ^ (Nat.toDigits 10 n).length :=
    (Nat.length_toDigits_le_iff (by decide) hpos).mp (le_refl _)
  show IsThree (3 * 10 ^ (Nat.toDigits 10 n).length + n) (Nat.toDigits 10 n).length
  exact ⟨by omega, by omega, hlength⟩

/-- **A three, a point and a number's digits**, at most fifteen, are written again as they were
read, but without the zeros at the end. -/
theorem render_threePoint {n q j : Nat} (h : n < 10 ^ 15) (hn : n = q * 10 ^ j) (hq : q % 10 ≠ 0) :
    Layout.message.render (ofDecimal false (threePoint n).1 (-((threePoint n).2 : Int))) =
      "3." ++ toString q := by
  have hlength : (threePoint n).2 = (Nat.toDigits 10 q).length + j := by
    show (Nat.toDigits 10 n).length = _
    rw [hn, length_toDigits_zeros (by omega)]
  have hdigits : (threePoint n).1 = (3 * 10 ^ (Nat.toDigits 10 q).length + q) * 10 ^ j := by
    show 3 * 10 ^ (threePoint n).2 + n = _
    rw [hlength, Nat.pow_add, hn]
    ring
  have hpos : 0 < (threePoint n).2 := List.length_pos_iff.mpr Nat.toDigits_ne_nil
  have hlast : (3 * 10 ^ (Nat.toDigits 10 q).length + q) % 10 ≠ 0 := by
    have hdigit : 0 < (Nat.toDigits 10 q).length := List.length_pos_iff.mpr Nat.toDigits_ne_nil
    obtain ⟨k, hk⟩ := Nat.exists_eq_add_of_le' hdigit
    rw [hk, Nat.pow_succ]
    omega
  rw [render_three (isThree_threePoint h) hpos hdigits hlength hlast]
  show Layout.positional (Nat.repr _) 1 = "3." ++ Nat.repr q
  rw [Nat.repr_eq_ofList_toDigits, toDigits_three, positional_of_cons Nat.toDigits_ne_nil,
    Nat.repr_eq_ofList_toDigits]
  rw [← String.ofList_append]
  rfl

end Casebook.Number

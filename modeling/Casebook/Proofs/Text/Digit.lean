import Casebook.Text.Digit
import Mathlib

/-!
# Numerals

The number that decimal digits write is written with the same digits again if they are those of
ASCII and the first of them is no zero that could be left out (`toDigits_digitsValue`); and such
digits are what every number is written with (`isNumeral_toDigits`, `digitsValue_toDigits`).
-/

namespace Casebook.Text

theorem toNat_of_isDigit {c : Char} (h : c.isDigit = true) : 48 ≤ c.toNat ∧ c.toNat ≤ 57 :=
  Char.isDigit_iff_toNat.mp h

theorem digitValue?_of_isDigit {c : Char} (h : c.isDigit = true) :
    digitValue? c = some (c.toNat - 48) := by
  obtain ⟨hlow, hhigh⟩ := toNat_of_isDigit h
  unfold digitValue? digitZeros
  rw [List.find?_cons_of_pos (by simp; omega)]
  rfl

theorem digitChar_digitValue {c : Char} (h : c.isDigit = true) :
    digitValue c < 10 ∧ (digitValue c).digitChar = c := by
  obtain ⟨hlow, hhigh⟩ := toNat_of_isDigit h
  unfold digitValue
  rw [digitValue?_of_isDigit h, Option.getD_some]
  have hc : c = Char.ofNat c.toNat := (Char.ofNat_toNat c).symm
  rw [hc]
  generalize c.toNat = n at hlow hhigh
  interval_cases n <;> decide

/-- A numeral as a number is written: ASCII digits, of which the first is a zero only if it is the
only one. -/
structure IsNumeral (cs : List Char) : Prop where
  ne_nil : cs ≠ []
  isDigit : ∀ c ∈ cs, c.isDigit = true
  head_ne : cs ≠ ['0'] → cs.head? ≠ some '0'

theorem digitsValue_concat (cs : List Char) (c : Char) :
    digitsValue (cs ++ [c]) = 10 * digitsValue cs + digitValue c := by
  unfold digitsValue
  rw [List.foldl_append]
  rfl

theorem digitsValue_pos {cs : List Char} (hdigits : ∀ c ∈ cs, c.isDigit = true)
    (hne : cs ≠ []) (hhead : cs.head? ≠ some '0') : 0 < digitsValue cs := by
  induction cs using List.reverseRecOn with
  | nil => exact absurd rfl hne
  | append_singleton cs c ih =>
      rw [digitsValue_concat]
      cases cs with
      | nil =>
          -- the only digit is no zero
          obtain ⟨-, hchar⟩ := digitChar_digitValue (hdigits c (by simp))
          have hvalue : digitValue c ≠ 0 := by
            intro hzero
            rw [hzero] at hchar
            exact hhead (by rw [← hchar]; rfl)
          omega
      | cons first cs =>
          have hpos := ih (fun d hd => hdigits d (List.mem_append_left _ hd)) (by simp) hhead
          omega

/-- **A number is written with the digits that it was read from.** -/
theorem toDigits_digitsValue {cs : List Char} (h : IsNumeral cs) :
    Nat.toDigits 10 (digitsValue cs) = cs := by
  by_cases hzero : cs = ['0']
  · rw [hzero]
    decide
  · obtain ⟨hne, hdigits, hhead⟩ := h
    replace hhead := hhead hzero
    clear hzero
    induction cs using List.reverseRecOn with
    | nil => exact absurd rfl hne
    | append_singleton cs c ih =>
        obtain ⟨hlt, hchar⟩ := digitChar_digitValue (hdigits c (by simp))
        have hlast : Nat.toDigits 10 (digitValue c) = [c] := by
          rw [Nat.toDigits_of_lt_base hlt, hchar]
        rw [digitsValue_concat]
        cases cs with
        | nil => exact (congrArg (Nat.toDigits 10) (by simp [digitsValue])).trans hlast
        | cons first cs =>
            have hfront : ∀ d ∈ first :: cs, d.isDigit = true := fun d hd =>
              hdigits d (List.mem_append_left _ hd)
            have hpos := digitsValue_pos hfront (by simp) hhead
            rw [← Nat.toDigits_append_toDigits (by decide) hpos hlt, ih (by simp) hfront hhead,
              hlast]

/-! ## Numbers as they are written -/

theorem isDigit_of_ascii {c : Char} (h : c.isDigit = true) : isDigit c = true := by
  unfold isDigit
  rw [digitValue?_of_isDigit h]
  rfl

theorem digitValue_digitChar {n : Nat} (h : n < 10) : digitValue n.digitChar = n := by
  interval_cases n <;> decide

theorem digitsValue_toDigits (n : Nat) : digitsValue (Nat.toDigits 10 n) = n := by
  induction n using Nat.strongRecOn with
  | ind n ih =>
      by_cases hn : n < 10
      · rw [Nat.toDigits_of_lt_base hn]
        exact (digitsValue_concat [] _).trans (by simp [digitsValue, digitValue_digitChar hn])
      · have hdigit := digitValue_digitChar (Nat.mod_lt n (by decide : 0 < 10))
        rw [Nat.toDigits_of_base_le (by decide) (Nat.not_lt.mp hn), digitsValue_concat,
          ih (n / 10) (by omega), hdigit]
        omega

theorem head?_toDigits_ne {n : Nat} (h : 0 < n) : (Nat.toDigits 10 n).head? ≠ some '0' := by
  induction n using Nat.strongRecOn with
  | ind n ih =>
      by_cases hn : n < 10
      · rw [Nat.toDigits_of_lt_base hn]
        interval_cases n <;> decide
      · rw [Nat.toDigits_of_base_le (by decide) (Nat.not_lt.mp hn),
          List.head?_append_of_ne_nil _ Nat.toDigits_ne_nil]
        exact ih (n / 10) (by omega) (by omega)

/-- **Every number is written as a numeral.** -/
theorem isNumeral_toDigits (n : Nat) : IsNumeral (Nat.toDigits 10 n) := by
  refine ⟨Nat.toDigits_ne_nil, fun c hc => Nat.isDigit_of_mem_toDigits (by decide) (by decide) hc,
    fun hzero => head?_toDigits_ne (Nat.pos_of_ne_zero ?_)⟩
  rintro rfl
  exact hzero (by decide)

/-- A number that is not huge is short enough to be read. -/
theorem length_toDigits_le {n : Nat} (h : isHuge n = false) :
    (Nat.toDigits 10 n).length ≤ numeralLimit := by
  have hlimit : 0 < numeralLimit := by decide
  unfold isHuge numeralBound at h
  rw [decide_eq_false_iff_not, Int.natAbs_natCast, Nat.not_le] at h
  -- the bound is not to be computed
  generalize numeralLimit = limit at h hlimit ⊢
  exact (Nat.length_toDigits_le_iff (by decide) hlimit).mpr h

end Casebook.Text

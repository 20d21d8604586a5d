import Casebook.Text.Point
import Mathlib

/-!
# The order of texts

Texts are ordered by the codes of their points, and a code belongs to one point only. So the
order is linear: of two texts one stands before the other, and not both unless they are the
same.
-/

namespace Casebook

namespace Point

/-- No character has the code of half a pair. -/
theorem code_char_ne_code_half (c : Char) (k : Half) : (char c).code ≠ (half k).code := by
  intro h
  have hcode : c.toNat = k.code := h
  have hvalid := c.valid
  have hk := k.isHalf
  simp only [UInt32.isValidChar, Nat.isValidChar] at hvalid
  unfold Char.toNat at hcode
  omega

/-- A code is that of one point only. -/
theorem code_inj {p q : Point} : p.code = q.code ↔ p = q := by
  constructor
  · intro h
    cases p with
    | char c =>
        cases q with
        | char d => exact congrArg char (Char.toNat_inj.mp h)
        | half k => exact absurd h (code_char_ne_code_half c k)
    | half k =>
        cases q with
        | char d => exact absurd h.symm (code_char_ne_code_half d k)
        | half l =>
            obtain ⟨m, hm⟩ := k
            obtain ⟨n, hn⟩ := l
            have hmn : m = n := h
            subst hmn
            rfl
  · rintro rfl
    rfl

theorem listLe_cons_iff {p q : Point} {ps qs : List Point} :
    listLe (p :: ps) (q :: qs) = true ↔ p.code < q.code ∨ (p = q ∧ listLe ps qs = true) := by
  rw [listLe]
  by_cases h : p = q
  · subst h
    simp
  · have hne : p.code ≠ q.code := fun heq => h (code_inj.mp heq)
    rw [if_neg h]
    simp only [decide_eq_true_eq, h, false_and, or_false]
    omega

theorem listLe_total (ps qs : List Point) : listLe ps qs = true ∨ listLe qs ps = true := by
  induction ps generalizing qs with
  | nil => exact Or.inl rfl
  | cons p ps ih =>
      cases qs with
      | nil => exact Or.inr rfl
      | cons q qs =>
          rw [listLe_cons_iff, listLe_cons_iff]
          rcases Nat.lt_trichotomy p.code q.code with h | h | h
          · exact Or.inl (Or.inl h)
          · obtain rfl := code_inj.mp h
            rcases ih qs with h | h
            · exact Or.inl (Or.inr ⟨rfl, h⟩)
            · exact Or.inr (Or.inr ⟨rfl, h⟩)
          · exact Or.inr (Or.inl h)

theorem listLe_trans {ps qs rs : List Point} (hpq : listLe ps qs = true)
    (hqr : listLe qs rs = true) : listLe ps rs = true := by
  induction ps generalizing qs rs with
  | nil => rfl
  | cons p ps ih =>
      cases qs with
      | nil => exact absurd hpq (by simp [listLe])
      | cons q qs =>
          cases rs with
          | nil => exact absurd hqr (by simp [listLe])
          | cons r rs =>
              rw [listLe_cons_iff] at hpq hqr ⊢
              rcases hpq with hpq | ⟨rfl, hpq⟩
              · rcases hqr with hqr | ⟨rfl, -⟩
                · exact Or.inl (hpq.trans hqr)
                · exact Or.inl hpq
              · rcases hqr with hqr | ⟨rfl, hqr⟩
                · exact Or.inl hqr
                · exact Or.inr ⟨rfl, ih hpq hqr⟩

theorem listLe_antisymm {ps qs : List Point} (hpq : listLe ps qs = true)
    (hqp : listLe qs ps = true) : ps = qs := by
  induction ps generalizing qs with
  | nil =>
      cases qs with
      | nil => rfl
      | cons q qs => exact absurd hqp (by simp [listLe])
  | cons p ps ih =>
      cases qs with
      | nil => exact absurd hpq (by simp [listLe])
      | cons q qs =>
          rw [listLe_cons_iff] at hpq hqp
          rcases hpq with hpq | ⟨rfl, hpq⟩
          · rcases hqp with hqp | ⟨rfl, -⟩ <;> omega
          · rcases hqp with hqp | ⟨-, hqp⟩
            · omega
            · rw [ih hpq hqp]

end Point

namespace Text

theorem le_total (s t : Text) : (s.le t || t.le s) = true := by
  rw [Bool.or_eq_true]
  exact Point.listLe_total s.points t.points

theorem le_trans (s t u : Text) (hst : s.le t = true) (htu : t.le u = true) : s.le u = true :=
  Point.listLe_trans hst htu

theorem le_antisymm {s t : Text} (hst : s.le t = true) (hts : t.le s = true) : s = t := by
  obtain ⟨ps⟩ := s
  obtain ⟨qs⟩ := t
  exact congrArg Text.mk (Point.listLe_antisymm hst hts)

theorem pairwise_mergeSort_le (ts : List Text) :
    (ts.mergeSort Text.le).Pairwise (fun s t => s.le t = true) :=
  List.pairwise_mergeSort le_trans le_total ts

end Text

end Casebook

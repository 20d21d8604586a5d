import Casebook.Fault
import Mathlib

/-!
# Steps that can fail

Steps one after the other succeed if each of them does, and the first fault is the fault of them
all.
-/

namespace Casebook

variable {ε α β : Type}

/-! ## Lists side by side -/

theorem exists_left_of_forall₂ {R : α → β → Prop} {as : List α} {bs : List β}
    (h : List.Forall₂ R as bs) {b : β} (hb : b ∈ bs) : ∃ a ∈ as, R a b := by
  induction h with
  | nil => cases hb
  | @cons a b' as bs hab _ ih =>
      rcases List.mem_cons.mp hb with rfl | hb
      · exact ⟨a, List.mem_cons_self, hab⟩
      · obtain ⟨a', ha', hR⟩ := ih hb
        exact ⟨a', List.mem_cons_of_mem a ha', hR⟩

theorem exists_right_of_forall₂ {R : α → β → Prop} {as : List α} {bs : List β}
    (h : List.Forall₂ R as bs) {a : α} (ha : a ∈ as) : ∃ b ∈ bs, R a b :=
  exists_left_of_forall₂ (List.Forall₂.flip (R := flip R) h) ha

/-! ## One step after the other -/

/-- Two steps that succeed, one after the other. -/
theorem bind_eq_ok {x : Except ε α} {f : α → Except ε β} {b : β} (h : x >>= f = .ok b) :
    ∃ a, x = .ok a ∧ f a = .ok b := by
  cases x with
  | error fault => cases h
  | ok a => exact ⟨a, rfl, h⟩

/-- A fault of two steps is a fault of one of them. -/
theorem bind_eq_error {x : Except ε α} {f : α → Except ε β} {fault : ε}
    (h : x >>= f = .error fault) : x = .error fault ∨ ∃ a, x = .ok a ∧ f a = .error fault := by
  cases x with
  | error other => exact Or.inl (congrArg Except.error (Except.error.inj h))
  | ok a => exact Or.inr ⟨a, rfl, h⟩

theorem mapError_eq_error {ε' : Type} {x : Except ε α} {f : ε → ε'} {fault : ε'}
    (h : x.mapError f = .error fault) : ∃ other, f other = fault := by
  cases x with
  | error other => exact ⟨other, Except.error.inj h⟩
  | ok a => cases h

/-- The fault of the first element that has one is the fault of the whole list. -/
theorem mapM_of_first {f : α → Except ε β} {before after : List α} {a : α} {fault : ε}
    (hbefore : ∀ x ∈ before, ∃ y, f x = .ok y) (ha : f a = .error fault) :
    (before ++ a :: after).mapM f = .error fault := by
  induction before with
  | nil =>
      rw [List.nil_append, List.mapM_cons, ha]
      rfl
  | cons x before ih =>
      obtain ⟨⟨y, hy⟩, hrest⟩ := List.forall_mem_cons.mp hbefore
      rw [List.cons_append, List.mapM_cons, hy, ih hrest]
      rfl

/-- Either every element has a value, or there is a first one that has none. -/
theorem mapM_cases (f : α → Except ε β) (as : List α) :
    (∃ bs, as.mapM f = .ok bs ∧ List.Forall₂ (fun a b => f a = .ok b) as bs) ∨
      ∃ before a after fault, as = before ++ a :: after ∧ (∀ x ∈ before, ∃ y, f x = .ok y) ∧
        f a = .error fault := by
  induction as with
  | nil => exact Or.inl ⟨[], rfl, .nil⟩
  | cons a as ih =>
      cases ha : f a with
      | error fault => exact Or.inr ⟨[], a, as, fault, rfl, by simp, ha⟩
      | ok b =>
          rcases ih with ⟨bs, hbs, hall⟩ | ⟨before, x, after, fault, rfl, hbefore, hx⟩
          · refine Or.inl ⟨b :: bs, ?_, .cons ha hall⟩
            rw [List.mapM_cons, ha, hbs]
            rfl
          · exact Or.inr ⟨a :: before, x, after, fault, rfl,
              List.forall_mem_cons.mpr ⟨⟨b, ha⟩, hbefore⟩, hx⟩

/-- A list of values comes from its elements, one from each. -/
theorem mapM_eq_ok_iff {f : α → Except ε β} {as : List α} {bs : List β} :
    as.mapM f = .ok bs ↔ List.Forall₂ (fun a b => f a = .ok b) as bs := by
  constructor
  · intro h
    rcases mapM_cases f as with
      ⟨values, hvalues, hall⟩ | ⟨before, a, after, fault, rfl, hbefore, ha⟩
    · cases h.symm.trans hvalues
      exact hall
    · cases h.symm.trans (mapM_of_first hbefore ha)
  · intro h
    induction h with
    | nil => rfl
    | cons ha _ ih =>
        rw [List.mapM_cons, ha, ih]
        rfl

/-- A step that gives every element back gives the list back. -/
theorem mapM_of_fixed {f : α → Except ε α} {as : List α} (h : ∀ a ∈ as, f a = .ok a) :
    as.mapM f = .ok as :=
  mapM_eq_ok_iff.mpr (List.forall₂_same.mpr h)

end Casebook

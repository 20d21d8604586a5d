import Casebook.Snapshot.Store
import Mathlib

/-!
# Checks against accepted results

A check of lines hangs on what is accepted for their name and on whether the store is updating,
and it changes nothing under any other name (`check_spec`). Where a store holds lines of text
only, checks do not fail.
-/

namespace Casebook.Snapshot.Store

theorem get?_accept (s : Store) (name : Text) (lines : List Text) (n : Text) :
    (s.accept name lines).get? n = if n = name then some (lines.map Value.text) else s.get? n :=
  Table.lookup_put name n (lines.map Value.text) s.accepted

/-- What checking lines comes to, by what is accepted for their name: nothing or the mismatch,
and what is accepted after that. -/
def compared (updating : Bool) (accepted : Option (List Value)) (lines : List Text) :
    Outcome (Option Text × List Value) :=
  match accepted with
  | none => .ok (none, lines.map Value.text)
  | some vs =>
    if agree vs lines then .ok (none, vs)
    else if updating then .ok (none, lines.map Value.text)
    else (mismatch vs lines).map fun m => (some m, vs)

/-- **A check reads and writes under its name only.** -/
theorem check_spec (s : Store) (name : Text) (lines : List Text) :
    (∃ m vs t, s.check name lines = .ok (m, t) ∧
      compared s.updating (s.get? name) lines = .ok (m, vs) ∧ t.updating = s.updating ∧
      ∀ n, t.get? n = if n = name then some vs else s.get? n) ∨
    ∃ fault, s.check name lines = .error fault ∧
      compared s.updating (s.get? name) lines = .error fault := by
  unfold check compared
  cases hknown : s.get? name with
  | none => exact Or.inl ⟨none, _, _, rfl, rfl, rfl, get?_accept s name lines⟩
  | some vs =>
      have hkeep : ∀ n, s.get? n = if n = name then some vs else s.get? n := by
        intro n
        split
        · next hn => rw [hn, hknown]
        · rfl
      dsimp only
      split
      · exact Or.inl ⟨none, vs, s, rfl, rfl, rfl, hkeep⟩
      · split
        · exact Or.inl ⟨none, _, _, rfl, rfl, rfl, get?_accept s name lines⟩
        · cases mismatch vs lines with
          | ok m => exact Or.inl ⟨some m, vs, s, rfl, rfl, rfl, hkeep⟩
          | error fault => exact Or.inr ⟨fault, rfl, rfl⟩

theorem agree_iff (vs : List Value) (lines : List Text) :
    agree vs lines = true ↔ vs = lines.map Value.text := by
  induction vs generalizing lines with
  | nil => cases lines <;> simp [agree]
  | cons v vs ih =>
      cases lines with
      | nil => cases v <;> simp [agree]
      | cons line lines => cases v <;> simp [agree, ih]

/-- **A check leaves the store, or accepts its lines** for a name that did not have them: one for
which nothing was accepted, or any name of a store that is updating. -/
theorem check_cases {s t : Store} {name : Text} {lines : List Text} {m : Option Text}
    (h : s.check name lines = .ok (m, t)) :
    (t = s ∧ ∃ vs, s.get? name = some vs ∧ (m = none ↔ vs = lines.map Value.text) ∧
      (m = none ∨ s.updating = false)) ∨
    (t = s.accept name lines ∧ m = none ∧ s.get? name ≠ some (lines.map Value.text) ∧
      (s.get? name = none ∨ s.updating = true)) := by
  unfold check at h
  cases hknown : s.get? name with
  | none =>
      rw [hknown] at h
      cases h
      exact Or.inr ⟨rfl, rfl, nofun, Or.inl rfl⟩
  | some vs =>
      rw [hknown] at h
      dsimp only at h
      by_cases hagree : agree vs lines = true
      · rw [if_pos hagree] at h
        cases h
        exact Or.inl ⟨rfl, vs, rfl, iff_of_true rfl ((agree_iff vs lines).mp hagree), Or.inl rfl⟩
      · have hne : vs ≠ lines.map Value.text := fun heq => hagree ((agree_iff vs lines).mpr heq)
        rw [if_neg hagree] at h
        by_cases hupdating : s.updating = true
        · rw [if_pos hupdating] at h
          cases h
          exact Or.inr ⟨rfl, rfl, fun heq => hne (Option.some.inj heq), Or.inr hupdating⟩
        · rw [if_neg hupdating] at h
          cases hm : mismatch vs lines with
          | error fault =>
              rw [hm] at h
              cases h
          | ok text =>
              rw [hm] at h
              cases h
              exact Or.inl ⟨rfl, vs, rfl, iff_of_false nofun hne,
                Or.inr (Bool.eq_false_iff.mpr hupdating)⟩

/-! ## Stores of lines -/

/-- All that is accepted are lines of text. -/
def HoldsLines (s : Store) : Prop :=
  ∀ name vs, s.get? name = some vs → ∀ v ∈ vs, isText v = true

theorem changeable?_of_isText {v : Value} (h : isText v = true) : changeable? v = none := by
  cases v with
  | text t => simp [changeable?, Value.isKey]
  | _ => cases h

theorem texts_ok {vs : List Value} (h : ∀ v ∈ vs, isText v = true) :
    texts vs = .ok (vs.map Value.display) := by
  have hhead : vs.head?.filter (fun v => !isText v) = none := by
    cases vs with
    | nil => rfl
    | cons v vs => simp [h v List.mem_cons_self]
  have hchangeable : vs.findSome? changeable? = none :=
    List.findSome?_eq_none_iff.mpr fun v hv => changeable?_of_isText (h v hv)
  have hfind : vs.find? (fun v => !isText v) = none :=
    List.find?_eq_none.mpr fun v hv => by simp [h v hv]
  unfold texts
  dsimp only
  rw [hhead, hchangeable, hfind]

/-- A value that is no text keeps a list of values from being compared. -/
theorem texts_error {vs : List Value} {v : Value} (hv : v ∈ vs) (htext : isText v = false) :
    ∃ fault, texts vs = .error fault := by
  unfold texts
  dsimp only
  cases vs.head?.filter (fun v => !isText v) with
  | some first =>
      dsimp only
      cases first.hugeInteger? <;> exact ⟨_, rfl⟩
  | none =>
      dsimp only
      cases vs.findSome? changeable? with
      | some part => exact ⟨_, rfl⟩
      | none =>
          dsimp only
          cases hfind : vs.find? (fun v => !isText v) with
          | some other => exact ⟨_, rfl⟩
          | none =>
              have hall := List.find?_eq_none.mp hfind v hv
              rw [htext] at hall
              exact absurd rfl hall

theorem agree_eq_false {vs : List Value} {v : Value} (hv : v ∈ vs) (htext : isText v = false)
    (lines : List Text) : agree vs lines = false := by
  induction vs generalizing lines with
  | nil => cases hv
  | cons first vs ih =>
      cases first with
      | text t =>
          cases lines with
          | nil => rfl
          | cons line lines =>
              rcases List.mem_cons.mp hv with rfl | hv
              · cases htext
              · show (t == line && agree vs lines) = false
                rw [ih hv, Bool.and_false]
      | _ => cases lines <;> rfl

/-- Lines of text can always be compared. -/
theorem compared_ok (updating : Bool) {accepted : Option (List Value)}
    (h : ∀ vs, accepted = some vs → ∀ v ∈ vs, isText v = true) (lines : List Text) :
    ∃ result, compared updating accepted lines = .ok result := by
  unfold compared
  cases accepted with
  | none => exact ⟨_, rfl⟩
  | some vs =>
      dsimp only
      split
      · exact ⟨_, rfl⟩
      · split
        · exact ⟨_, rfl⟩
        · unfold mismatch
          rw [texts_ok (h vs rfl)]
          exact ⟨_, rfl⟩

end Casebook.Snapshot.Store

import Casebook.Text.Blank
import Casebook.Text.HalfRun

/-!
# Texts of characters

A text without halves of surrogate pairs is a text of characters, and so is any part of it.
-/

namespace Casebook.Text

theorem hasHalves_eq_false_iff {t : Text} :
    t.hasHalves = false ↔ ∀ p ∈ t.points, p.isHalf = false := by
  unfold hasHalves
  rw [List.any_eq_false]
  refine forall₂_congr fun p _ => ?_
  rw [Bool.not_eq_true]

theorem hasHalves_ofChars (cs : List Char) : (ofChars cs).hasHalves = false := by
  rw [hasHalves_eq_false_iff]
  intro p hp
  obtain ⟨c, -, rfl⟩ := List.mem_map.mp hp
  rfl

theorem hasHalves_ofString (s : String) : (ofString s).hasHalves = false :=
  hasHalves_ofChars s.toList

theorem hasHalves_append (s t : Text) :
    (s ++ t).hasHalves = (s.hasHalves || t.hasHalves) := List.any_append

/-- A text without halves is a text of characters. -/
theorem exists_eq_ofChars {t : Text} (h : t.hasHalves = false) : ∃ cs, t = ofChars cs := by
  obtain ⟨ps⟩ := t
  rw [hasHalves_eq_false_iff] at h
  induction ps with
  | nil => exact ⟨[], rfl⟩
  | cons p ps ih =>
      obtain ⟨hp, hps⟩ := List.forall_mem_cons.mp h
      obtain ⟨cs, hcs⟩ := ih hps
      cases p with
      | half half => cases hp
      | char c => exact ⟨c :: cs, congrArg (fun t : Text => Text.mk (.char c :: t.points)) hcs⟩

theorem hasHalves_of_subset {s t : Text} (h : t.hasHalves = false) (hs : s.points ⊆ t.points) :
    s.hasHalves = false := by
  rw [hasHalves_eq_false_iff] at h ⊢
  exact fun p hp => h p (hs hp)

theorem hasHalves_trimmed {t : Text} (h : t.hasHalves = false) (test : Char → Bool) :
    (trimmed test t).hasHalves = false := by
  refine hasHalves_of_subset h ?_
  intro p hp
  have hfront := (List.dropWhile_sublist _).subset (List.mem_reverse.mp hp)
  exact (List.dropWhile_sublist _).subset (List.mem_reverse.mp hfront)

theorem hasHalves_trimEnd {t : Text} (h : t.hasHalves = false) : t.trimEnd.hasHalves = false := by
  refine hasHalves_of_subset h ?_
  intro p hp
  exact List.mem_reverse.mp ((List.dropWhile_sublist _).subset (List.mem_reverse.mp hp))

theorem halfRun?_eq_none {t : Text} (h : t.hasHalves = false) : t.halfRun? = none := by
  obtain ⟨ps⟩ := t
  rw [hasHalves_eq_false_iff] at h
  unfold halfRun?
  generalize 0 = position
  induction ps generalizing position with
  | nil => rfl
  | cons p ps ih =>
      obtain ⟨hp, hps⟩ := List.forall_mem_cons.mp h
      rw [firstRun?, List.takeWhile_cons_of_neg (by rw [hp]; exact Bool.false_ne_true)]
      exact ih hps (position + 1)

theorem characters_ofChars (cs : List Char) : (ofChars cs).characters = .ok cs := by
  unfold characters
  rw [halfRun?_eq_none (hasHalves_ofChars cs)]
  show Except.ok ((cs.map Point.char).filterMap Point.char?) = _
  rw [List.filterMap_map]
  exact congrArg Except.ok List.filterMap_some

end Casebook.Text

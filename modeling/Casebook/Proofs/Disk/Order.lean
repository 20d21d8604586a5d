import Casebook.Disk.Path
import Casebook.Proofs.Text.Lines
import Casebook.Proofs.Text.Order

/-!
# The order of paths

Paths are compared by root and then name by name, names by the codes of their points, and a list
comes before its extensions: the lexicographic order of lists of codes. Main statement
(`pairwise_before_mergeSort`): different paths of one root strictly increase in it once they are
sorted.
-/

namespace Casebook

/-! ## Texts as lists of codes -/

namespace Text

theorem ofString_inj {s t : String} : ofString s = ofString t ↔ s = t :=
  ofChars_injective.eq_iff.trans String.toList_inj

/-- The codes of the points of a text. -/
def codes (t : Text) : List Nat := t.points.map Point.code

theorem codes_inj {s t : Text} : s.codes = t.codes ↔ s = t := by
  constructor
  · intro h
    obtain ⟨ps⟩ := s
    obtain ⟨qs⟩ := t
    exact congrArg Text.mk (List.map_injective_iff.mpr (fun _ _ => Point.code_inj.mp) h)
  · rintro rfl
    rfl

end Text

theorem Point.listLe_iff {ps qs : List Point} :
    Point.listLe ps qs = true ↔ ¬ qs.map Point.code < ps.map Point.code := by
  induction ps generalizing qs with
  | nil => simp [Point.listLe]
  | cons p ps ih =>
      cases qs with
      | nil => simp [Point.listLe]
      | cons q qs =>
          rw [Point.listLe_cons_iff, List.map_cons, List.map_cons, List.cons_lt_cons_iff, ih,
            ← Point.code_inj]
          -- the codes of the first points are in one of three orders
          rcases lt_trichotomy p.code q.code with hlt | heq | hgt
          · simp [hlt, hlt.not_gt, hlt.ne']
          · simp [heq]
          · simp [hgt, hgt.not_gt, hgt.ne']

theorem Text.le_iff {s t : Text} : s.le t = true ↔ ¬ t.codes < s.codes := Point.listLe_iff

namespace Disk.Path

/-! ## Names and paths -/

theorem namesLe_iff {as bs : List Text} :
    namesLe as bs = true ↔ ¬ bs.map Text.codes < as.map Text.codes := by
  induction as generalizing bs with
  | nil => simp [namesLe]
  | cons a as ih =>
      cases bs with
      | nil => simp [namesLe]
      | cons b bs =>
          rw [namesLe, List.map_cons, List.map_cons, List.cons_lt_cons_iff, Text.codes_inj]
          by_cases hab : a = b
          · subst hab
            simp [ih]
          · rw [if_neg hab, Text.le_iff]
            simp [Ne.symm hab]

/-- What the order of paths compares: the root, and behind it the names. -/
def key (p : Path) : List (List Nat) := (p.root.text : Text).codes :: p.names.map Text.codes

theorem le_iff {p q : Path} : p.le q = true ↔ ¬ q.key < p.key := by
  unfold le key
  rw [List.cons_lt_cons_iff, Text.codes_inj, Text.ofString_inj]
  by_cases hroot : p.root.text = q.root.text
  · rw [if_pos hroot, namesLe_iff]
    simp [hroot]
  · rw [if_neg hroot, Text.le_iff]
    simp [Ne.symm hroot]

theorem le_total (p q : Path) : (p.le q || q.le p) = true := by
  rw [Bool.or_eq_true, le_iff, le_iff, ← not_and_or]
  exact fun h => lt_asymm h.1 h.2

theorem le_trans (p q r : Path) (hpq : p.le q = true) (hqr : q.le r = true) : p.le r = true := by
  rw [le_iff, not_lt] at hpq hqr ⊢
  exact hpq.trans hqr

/-- The names of a path stand before those of another one in lexicographic order. -/
def Before (p q : Path) : Prop := p.names.map Text.codes < q.names.map Text.codes

instance (p q : Path) : Decidable (Before p q) :=
  inferInstanceAs (Decidable (p.names.map Text.codes < q.names.map Text.codes))

theorem before_of_le {p q : Path} (hroot : p.root = q.root) (hle : p.le q = true) (hne : p ≠ q) :
    p.Before q := by
  obtain ⟨root, as⟩ := p
  obtain ⟨_, bs⟩ := q
  obtain rfl : root = _ := hroot
  have hnames : namesLe as bs = true := by
    unfold le at hle
    rwa [if_pos rfl] at hle
  rw [namesLe_iff, not_lt] at hnames
  refine lt_of_le_of_ne hnames fun heq => hne (congrArg (Path.mk root) ?_)
  exact List.map_injective_iff.mpr (fun _ _ => Text.codes_inj.mp) heq

/-- **Different paths of one root strictly increase once they are sorted.** -/
theorem pairwise_before_mergeSort {root : Root} {ps : List Path} (hroot : ∀ p ∈ ps, p.root = root)
    (hnodup : ps.Nodup) : (ps.mergeSort le).Pairwise Before := by
  have hperm := List.mergeSort_perm ps le
  have hsorted : (ps.mergeSort le).Pairwise fun p q => p.le q = true :=
    List.pairwise_mergeSort le_trans le_total ps
  refine (hsorted.and (hperm.nodup_iff.mpr hnodup)).imp_of_mem fun {p q} hp hq h => ?_
  have hsame : p.root = q.root :=
    (hroot p (hperm.mem_iff.mp hp)).trans (hroot q (hperm.mem_iff.mp hq)).symm
  exact before_of_le hsame h.1 h.2

end Disk.Path

end Casebook

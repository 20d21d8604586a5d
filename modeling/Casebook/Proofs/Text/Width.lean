import Casebook.Text.Width
import Mathlib

/-!
# The width of plain texts

Joiners and the selector of the pictograph form change how other characters are counted. In a text
without them every character takes the cells that it takes by itself, and a sign is one character
with the marks that stand on it.
-/

namespace Casebook.Text

/-- The point is neither a joiner nor the selector of the pictograph form. -/
def IsLone (p : Point) : Prop := p ≠ Point.char joiner ∧ p ≠ Point.char pictographForm

instance : DecidablePred IsLone := fun p =>
  inferInstanceAs (Decidable (p ≠ Point.char joiner ∧ p ≠ Point.char pictographForm))

/-- The cells that points take, each by itself. -/
def cellsOf (ps : List Point) : Nat := (ps.map pointCells).sum

@[simp] theorem cellsOf_cons (p : Point) (ps : List Point) :
    cellsOf (p :: ps) = pointCells p + cellsOf ps := rfl

@[simp] theorem cellsOf_append (ps qs : List Point) :
    cellsOf (ps ++ qs) = cellsOf ps + cellsOf qs := by
  unfold cellsOf
  rw [List.map_append, List.sum_append]

theorem pointCells_le (p : Point) : pointCells p ≤ 2 := by
  cases p with
  | half h => exact Nat.le_succ 1
  | char c =>
      show cells c ≤ 2
      unfold cells
      split_ifs
      all_goals decide

theorem widthFrom_lone {p : Point} (h : IsLone p) (measured : Option Point) (ps : List Point) :
    widthFrom measured (p :: ps) = if pointCells p = 0 then widthFrom measured ps
      else pointCells p + widthFrom (some p) ps := by
  cases ps <;> simp only [widthFrom, if_neg h.1, if_neg h.2]

/-- **The width of a plain text** is the sum of the cells of its points. -/
theorem widthFrom_eq_cellsOf {ps : List Point} (h : ∀ p ∈ ps, IsLone p) (measured : Option Point) :
    widthFrom measured ps = cellsOf ps := by
  induction ps generalizing measured with
  | nil => rfl
  | cons p ps ih =>
      obtain ⟨hp, hps⟩ := List.forall_mem_cons.mp h
      rw [widthFrom_lone hp, ih hps, ih hps, cellsOf_cons]
      split
      · next hzero => rw [hzero, Nat.zero_add]
      · rfl

theorem width_eq_cellsOf {ps : List Point} (h : ∀ p ∈ ps, IsLone p) : width ps = cellsOf ps :=
  widthFrom_eq_cellsOf h none

/-! ## Signs -/

/-- One point, and others behind it that take no cell. -/
def Sign.IsPlain (s : Sign) : Prop :=
  ∃ p marks, s.points = p :: marks ∧ (∀ q ∈ marks, pointCells q = 0) ∧ s.cells = pointCells p

namespace Sign.IsPlain

variable {s : Sign} (h : s.IsPlain)
include h

theorem cells_le : s.cells ≤ 2 := by
  obtain ⟨p, marks, -, -, hcells⟩ := h
  rw [hcells]
  exact pointCells_le p

theorem cells_eq : s.cells = cellsOf s.points := by
  obtain ⟨p, marks, hpoints, hmarks, hcells⟩ := h
  have hzero : cellsOf marks = 0 := by
    unfold cellsOf
    rw [List.sum_eq_zero_iff]
    intro n hn
    obtain ⟨q, hq, rfl⟩ := List.mem_map.mp hn
    exact hmarks q hq
  rw [hcells, hpoints, cellsOf_cons, hzero, Nat.add_zero]

/-- The front of a sign takes all of its cells, unless nothing is left of it. -/
theorem cells_of_front {front rest : List Point} (hsplit : s.points = front ++ rest)
    (hne : front ≠ []) : cellsOf front = s.cells := by
  have hcells := h.cells_eq
  obtain ⟨p, marks, hpoints, hmarks, -⟩ := h
  have hrest : cellsOf rest = 0 := by
    cases front with
    | nil => exact absurd rfl hne
    | cons q front =>
        rw [hpoints, List.cons_append, List.cons.injEq] at hsplit
        unfold cellsOf
        rw [List.sum_eq_zero_iff]
        intro n hn
        obtain ⟨r, hr, rfl⟩ := List.mem_map.mp hn
        refine hmarks r ?_
        rw [hsplit.2]
        exact List.mem_append_right _ hr
  rw [hcells, hsplit, cellsOf_append, hrest, Nat.add_zero]

end Sign.IsPlain

theorem isPlain_extendSign {before : List Sign} (hbefore : ∀ s ∈ before, s.IsPlain) {p : Point}
    (hp : pointCells p = 0) : ∀ s ∈ extendSign before [p] 0, s.IsPlain := by
  cases before with
  | nil =>
      intro s hs
      rw [List.mem_singleton.mp hs]
      exact ⟨p, [], rfl, by simp, hp.symm⟩
  | cons last before =>
      obtain ⟨⟨q, marks, hpoints, hmarks, hcells⟩, hrest⟩ := List.forall_mem_cons.mp hbefore
      refine List.forall_mem_cons.mpr ⟨⟨q, marks ++ [p], ?_, ?_, hcells⟩, hrest⟩
      · show last.points ++ [p] = _
        rw [hpoints, List.cons_append]
      · intro r hr
        rcases List.mem_append.mp hr with hr | hr
        · exact hmarks r hr
        · rw [List.mem_singleton.mp hr]
          exact hp

theorem signsFrom_lone {p : Point} (h : IsLone p) (before : List Sign) (measured : Option Point)
    (ps : List Point) : signsFrom before measured (p :: ps) =
      if pointCells p = 0 then signsFrom (extendSign before [p] 0) measured ps
      else signsFrom (⟨[p], pointCells p⟩ :: before) (some p) ps := by
  cases ps <;>
    simp only [signsFrom, h.1, h.2, decide_false, Bool.false_and, Bool.false_eq_true, if_false]

/-- **The signs of a plain text** are its points with the marks behind them. -/
theorem isPlain_of_mem_signsFrom {ps : List Point} (h : ∀ p ∈ ps, IsLone p) {before : List Sign}
    (hbefore : ∀ s ∈ before, s.IsPlain) (measured : Option Point) :
    ∀ s ∈ signsFrom before measured ps, s.IsPlain := by
  induction ps generalizing before measured with
  | nil =>
      intro s hs
      exact hbefore s (List.mem_reverse.mp hs)
  | cons p ps ih =>
      obtain ⟨hp, hps⟩ := List.forall_mem_cons.mp h
      rw [signsFrom_lone hp]
      split
      · next hzero => exact ih hps (isPlain_extendSign hbefore hzero) measured
      · refine ih hps (List.forall_mem_cons.mpr ⟨?_, hbefore⟩) (some p)
        exact ⟨p, [], rfl, by simp, rfl⟩

theorem isPlain_of_mem_signs {ps : List Point} (h : ∀ p ∈ ps, IsLone p) :
    ∀ s ∈ signs ps, s.IsPlain := isPlain_of_mem_signsFrom h (by simp) none

end Casebook.Text

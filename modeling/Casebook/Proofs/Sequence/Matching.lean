import Casebook.Sequence.Matching
import Mathlib

/-!
# Matching runs, as they stand in both sequences

The search for matching runs is by rows of lengths, by marks on elements, and by searching
again on both sides of a run. What comes out of it is all that is stated here: the runs have the
same elements in both sequences and stand one behind the other in both of them
(`areRuns_runs`). That much holds whichever runs are longest and whatever the marks are.

Which of several longest runs is taken matters once. In a sequence and itself, no run that is
found off the diagonal replaces one on it, because the run that ends at the same element of both
is at least as long (`commonMarked_le_diagonal`). So the whole sequence is one run
(`runs_self`), also if most of its elements may begin none.
-/

namespace Casebook.Sequence

variable {α : Type}

/-! ## Common runs -/

/-- The run lies within both sequences and has the same elements in both. -/
structure IsCommon (as bs : List α) (r : Run) : Prop where
  left_le : r.left + r.size ≤ as.length
  right_le : r.right + r.size ≤ bs.length
  agree : ∀ k < r.size, as[r.left + k]? = bs[r.right + k]?

/-- Two runs of which one begins where the other ends are one run. -/
theorem IsCommon.append {as bs : List α} {left right m n : Nat}
    (h : IsCommon as bs ⟨left, right, m⟩) (h' : IsCommon as bs ⟨left + m, right + m, n⟩) :
    IsCommon as bs ⟨left, right, m + n⟩ := by
  have hleft : left + m + n ≤ as.length := h'.left_le
  have hright : right + m + n ≤ bs.length := h'.right_le
  refine ⟨by dsimp only; omega, by dsimp only; omega, fun k hk => ?_⟩
  dsimp only at hk ⊢
  by_cases hm : k < m
  · exact h.agree k hm
  · have hrest := h'.agree (k - m) (by dsimp only; omega)
    dsimp only at hrest
    rwa [show left + m + (k - m) = left + k by omega,
      show right + m + (k - m) = right + k by omega] at hrest

/-! ## Runs in order -/

/-- From the places `i` and `j` on, the runs stand one behind the other in both sequences, and
each is a common one. -/
def AreRuns (as bs : List α) (i j : Nat) : List Run → Prop
  | [] => i ≤ as.length ∧ j ≤ bs.length
  | r :: rs => i ≤ r.left ∧ j ≤ r.right ∧ IsCommon as bs r ∧
      AreRuns as bs (r.left + r.size) (r.right + r.size) rs

theorem AreRuns.anti {as bs : List α} {i j i' j' : Nat} {rs : List Run}
    (h : AreRuns as bs i j rs) (hi : i' ≤ i) (hj : j' ≤ j) : AreRuns as bs i' j' rs := by
  cases rs with
  | nil => exact ⟨hi.trans h.1, hj.trans h.2⟩
  | cons r rs => exact ⟨hi.trans h.1, hj.trans h.2.1, h.2.2⟩

theorem IsCommon.of_take {as bs : List α} {i j : Nat} {r : Run}
    (h : IsCommon (as.take i) (bs.take j) r) :
    IsCommon as bs r ∧ r.left + r.size ≤ i ∧ r.right + r.size ≤ j := by
  have hleft := h.left_le
  have hright := h.right_le
  rw [List.length_take] at hleft hright
  refine ⟨⟨by omega, by omega, fun k hk => ?_⟩, by omega, by omega⟩
  have hagree := h.agree k hk
  rwa [List.getElem?_take_of_lt (by omega), List.getElem?_take_of_lt (by omega)] at hagree

/-- Runs before two places and runs from there on are runs of the whole. -/
theorem AreRuns.append {as bs : List α} {i j l m : Nat} {rs rest : List Run}
    (h : AreRuns (as.take l) (bs.take m) i j rs) (hrest : AreRuns as bs l m rest) :
    AreRuns as bs i j (rs ++ rest) := by
  induction rs generalizing i j with
  | nil =>
      obtain ⟨hi, hj⟩ := h
      rw [List.length_take] at hi hj
      exact hrest.anti (by omega) (by omega)
  | cons r rs ih =>
      obtain ⟨hi, hj, hcommon, hrs⟩ := h
      exact ⟨hi, hj, hcommon.of_take.1, ih hrs⟩

theorem IsCommon.shift {as bs : List α} {l m : Nat} {r : Run} (hl : l ≤ as.length)
    (hm : m ≤ bs.length) (h : IsCommon (as.drop l) (bs.drop m) r) :
    IsCommon as bs (r.shift l m) := by
  have hleft := h.left_le
  have hright := h.right_le
  rw [List.length_drop] at hleft hright
  refine ⟨by simp only [Run.shift]; omega, by simp only [Run.shift]; omega, fun k hk => ?_⟩
  have hagree := h.agree k hk
  rw [List.getElem?_drop, List.getElem?_drop] at hagree
  simp only [Run.shift]
  rwa [show r.left + l + k = l + (r.left + k) by omega,
    show r.right + m + k = m + (r.right + k) by omega]

theorem AreRuns.shift {as bs : List α} {i j l m : Nat} {rs : List Run} (hl : l ≤ as.length)
    (hm : m ≤ bs.length) (h : AreRuns (as.drop l) (bs.drop m) i j rs) :
    AreRuns as bs (i + l) (j + m) (rs.map (Run.shift l m)) := by
  induction rs generalizing i j with
  | nil =>
      obtain ⟨hi, hj⟩ := h
      rw [List.length_drop] at hi hj
      exact ⟨by omega, by omega⟩
  | cons r rs ih =>
      obtain ⟨hi, hj, hcommon, hrs⟩ := h
      refine ⟨Nat.add_le_add_right hi l, Nat.add_le_add_right hj m, hcommon.shift hl hm, ?_⟩
      have hih := ih hrs
      rwa [show r.left + r.size + l = (r.shift l m).left + (r.shift l m).size by
          simp only [Run.shift]; omega,
        show r.right + r.size + m = (r.shift l m).right + (r.shift l m).size by
          simp only [Run.shift]; omega] at hih

theorem AreRuns.join {as bs : List α} {i j : Nat} {rs : List Run} (h : AreRuns as bs i j rs) :
    AreRuns as bs i j (joinRuns rs) := by
  induction rs generalizing i j with
  | nil => exact h
  | cons r rs ih =>
      obtain ⟨hi, hj, hcommon, hrs⟩ := h
      have hjoined := ih hrs
      rw [joinRuns]
      split
      · next s ss heq =>
        rw [heq] at hjoined
        split
        · next htouch =>
          obtain ⟨hleft, hright⟩ : r.left + r.size = s.left ∧ r.right + r.size = s.right := by
            simpa using htouch
          obtain ⟨-, -, hs, hss⟩ := hjoined
          refine ⟨hi, hj, hcommon.append (by rwa [hleft, hright]), ?_⟩
          rwa [← hleft, ← hright, Nat.add_assoc, Nat.add_assoc] at hss
        · exact ⟨hi, hj, hcommon, hjoined⟩
      · next heq =>
        rw [heq] at hjoined
        exact ⟨hi, hj, hcommon, hjoined⟩

/-! ## Common fronts -/

variable [BEq α]

section
variable [LawfulBEq α]

theorem commonLength_spec (xs ys : List α) :
    commonLength xs ys ≤ xs.length ∧ commonLength xs ys ≤ ys.length ∧
      ∀ k < commonLength xs ys, xs[k]? = ys[k]? := by
  induction xs generalizing ys with
  | nil => simp [commonLength]
  | cons x xs ih =>
      cases ys with
      | nil => simp [commonLength]
      | cons y ys =>
          rw [commonLength]
          split
          · next heq =>
            obtain rfl := eq_of_beq heq
            obtain ⟨hx, hy, hagree⟩ := ih ys
            refine ⟨Nat.succ_le_succ hx, Nat.succ_le_succ hy, fun k hk => ?_⟩
            cases k with
            | zero => rfl
            | succ k => simpa using hagree k (Nat.lt_of_succ_lt_succ hk)
          · simp

theorem commonLength_self (xs : List α) : commonLength xs xs = xs.length := by
  induction xs with
  | nil => rfl
  | cons x xs ih => rw [commonLength, if_pos BEq.rfl, ih, List.length_cons]

/-- What is in common ahead of two places is a run that begins there. -/
theorem isCommon_ahead {as bs : List α} {i j k : Nat} (hi : i ≤ as.length) (hj : j ≤ bs.length)
    (hk : k ≤ commonLength (as.drop i) (bs.drop j)) : IsCommon as bs ⟨i, j, k⟩ := by
  obtain ⟨hleft, hright, hagree⟩ := commonLength_spec (as.drop i) (bs.drop j)
  rw [List.length_drop] at hleft hright
  refine ⟨by dsimp only; omega, by dsimp only; omega, fun t ht => ?_⟩
  dsimp only at ht ⊢
  simpa using hagree t (by omega)

/-- What is in common back from two places is a run that ends there. -/
theorem isCommon_back {as bs : List α} {i j k : Nat} (hi : i ≤ as.length) (hj : j ≤ bs.length)
    (hk : k ≤ commonLength (as.take i).reverse (bs.take j).reverse) :
    IsCommon as bs ⟨i - k, j - k, k⟩ := by
  obtain ⟨hleft, hright, hagree⟩ := commonLength_spec (as.take i).reverse (bs.take j).reverse
  rw [List.length_reverse, List.length_take] at hleft hright
  refine ⟨by dsimp only; omega, by dsimp only; omega, fun t ht => ?_⟩
  dsimp only at ht ⊢
  have hback := hagree (k - 1 - t) (by omega)
  rw [List.getElem?_reverse (by rw [List.length_take]; omega),
    List.getElem?_reverse (by rw [List.length_take]; omega), List.length_take, List.length_take,
    List.getElem?_take_of_lt (by omega), List.getElem?_take_of_lt (by omega)] at hback
  rwa [show min i as.length - 1 - (k - 1 - t) = i - k + t by omega,
    show min j bs.length - 1 - (k - 1 - t) = j - k + t by omega] at hback

/-- A run stays common when it is made longer at its ends. -/
theorem isCommon_widen {as bs : List α} {r : Run} (h : IsCommon as bs r) :
    IsCommon as bs (widen as bs r) := by
  obtain ⟨left, right, size⟩ := r
  have hleft : left + size ≤ as.length := h.left_le
  have hright : right + size ≤ bs.length := h.right_le
  have hlengths := commonLength_spec (as.take left).reverse (bs.take right).reverse
  rw [List.length_reverse, List.length_take, List.length_reverse, List.length_take] at hlengths
  unfold widen
  dsimp only
  generalize hb : commonLength (as.take left).reverse (bs.take right).reverse = back at *
  generalize ha : commonLength (as.drop (left + size)) (bs.drop (right + size)) = ahead
  have hback : IsCommon as bs ⟨left - back, right - back, back⟩ :=
    isCommon_back (by omega) (by omega) hb.ge
  have hahead : IsCommon as bs ⟨left + size, right + size, ahead⟩ :=
    isCommon_ahead hleft hright ha.ge
  have hwhole : IsCommon as bs ⟨left - back, right - back, back + size⟩ := by
    refine hback.append ?_
    rwa [show left - back + back = left by omega, show right - back + back = right by omega]
  refine hwhole.append ?_
  rwa [show left - back + (back + size) = left + size by omega,
    show right - back + (back + size) = right + size by omega]

end

/-! ## Rows -/

/-- How many elements two sequences have in common at their front, all of which may begin a
run. -/
def commonMarked : List α → List (Marked α) → Nat
  | a :: as, b :: bs => if b.2 && b.1 == a then commonMarked as bs + 1 else 0
  | _, _ => 0

/-- The length of the run that ends with the last of the elements `done` and at place `j` on the
right. -/
def endingAt (done : List α) (bs : List (Marked α)) (j : Nat) : Nat :=
  commonMarked done.reverse (bs.take (j + 1)).reverse

/-- The row of lengths when the elements `done` have been read on the left. -/
def rowOf (done : List α) (bs : List (Marked α)) : List Nat :=
  (List.range bs.length).map (endingAt done bs)

theorem rowOf_nil (bs : List (Marked α)) : rowOf [] bs = bs.map fun _ => 0 := by
  have hzero : endingAt ([] : List α) bs = fun _ => 0 := rfl
  rw [rowOf, hzero, List.map_const', List.map_const', List.length_range]

theorem nextRow_rowOf (x : α) (bs : List (Marked α)) (done : List α) :
    nextRow x bs (rowOf done bs) = rowOf (done ++ [x]) bs := by
  apply List.ext_getElem
  · simp [nextRow, rowOf]
  · intro j hj hj'
    have hlt : j < bs.length := by simpa [rowOf] using hj'
    have hlt' : j < (0 :: rowOf done bs).length := by
      simp only [List.length_cons, rowOf, List.length_map, List.length_range]
      omega
    have hbefore : (0 :: rowOf done bs)[j] = commonMarked done.reverse (bs.take j).reverse := by
      cases j with
      | zero => cases done.reverse <;> rfl
      | succ j => simp [rowOf, endingAt]
    have hlast : (bs.take (j + 1)).reverse = bs[j] :: (bs.take j).reverse := by
      rw [List.take_add_one, List.getElem?_eq_getElem hlt]
      simp
    have hrow : (rowOf (done ++ [x]) bs)[j] = endingAt (done ++ [x]) bs j := by simp [rowOf]
    rw [hrow, endingAt, hlast, List.reverse_append, List.reverse_singleton,
      List.singleton_append, commonMarked]
    simp only [nextRow, List.getElem_zipWith, hbefore]

/-- The run that is best after a row is the one before, or one whose length is in the row. -/
theorem bestInRow_cases (i j : Nat) (best : Run) (row : List Nat) :
    bestInRow i j best row = best ∨ ∃ t k, row[t]? = some k ∧
      bestInRow i j best row = ⟨i + 1 - k, j + t + 1 - k, k⟩ := by
  induction row generalizing j best with
  | nil => exact Or.inl rfl
  | cons k row ih =>
      rw [bestInRow]
      rcases ih (j + 1) (if k > best.size then ⟨i + 1 - k, j + 1 - k, k⟩ else best) with
        heq | ⟨t, k', hk', heq⟩
      · rw [heq]
        split
        · exact Or.inr ⟨0, k, rfl, rfl⟩
        · exact Or.inl rfl
      · refine Or.inr ⟨t + 1, k', by simpa using hk', ?_⟩
        rw [heq, show j + 1 + t = j + (t + 1) by omega]

section
variable [LawfulBEq α]

theorem commonMarked_le (as : List α) (bs : List (Marked α)) :
    commonMarked as bs ≤ commonLength as (bs.map Prod.fst) := by
  induction as generalizing bs with
  | nil => simp [commonMarked]
  | cons a as ih =>
      cases bs with
      | nil => simp [commonMarked]
      | cons b bs =>
          rw [commonMarked, List.map_cons, commonLength]
          split
          · next h =>
            obtain rfl := eq_of_beq (Bool.and_eq_true_iff.mp h).2
            rw [if_pos BEq.rfl]
            exact Nat.succ_le_succ (ih bs)
          · exact Nat.zero_le _

/-- A length in a row is that of a common run. -/
theorem isCommon_of_rowOf {done rest : List α} {bs : List (Marked α)} {j k : Nat}
    (h : (rowOf done bs)[j]? = some k) :
    IsCommon (done ++ rest) (bs.map Prod.fst) ⟨done.length - k, j + 1 - k, k⟩ := by
  obtain ⟨hj, hk⟩ := List.getElem?_eq_some_iff.mp h
  have hlt : j < bs.length := by simpa [rowOf] using hj
  have hrow : endingAt done bs j = k := by simpa [rowOf] using hk
  refine isCommon_back (by simp) (by simpa using hlt) ?_
  rw [← hrow, List.take_left, ← List.map_take, ← List.map_reverse]
  exact commonMarked_le _ _

theorem isCommon_bestRun {bs : List (Marked α)} {done rest : List α} {best : Run}
    (hbest : IsCommon (done ++ rest) (bs.map Prod.fst) best) :
    IsCommon (done ++ rest) (bs.map Prod.fst)
      (bestRun bs done.length (rowOf done bs) best rest) := by
  induction rest generalizing done best with
  | nil => exact hbest
  | cons a rest ih =>
      rw [bestRun, nextRow_rowOf]
      rw [List.append_cons] at hbest ⊢
      rw [show done.length + 1 = (done ++ [a]).length by simp]
      apply ih
      rcases bestInRow_cases done.length 0 best (rowOf (done ++ [a]) bs) with
        heq | ⟨t, k, hk, heq⟩
      · rwa [heq]
      · rw [heq, show done.length + 1 = (done ++ [a]).length by simp, Nat.zero_add]
        exact isCommon_of_rowOf hk

theorem isCommon_best (as : List α) (bs : List (Marked α)) :
    IsCommon as (bs.map Prod.fst) (bestRun bs 0 (bs.map fun _ => 0) ⟨0, 0, 0⟩ as) := by
  have hnone : IsCommon ([] ++ as) (bs.map Prod.fst) ⟨0, 0, 0⟩ := ⟨by simp, by simp, by simp⟩
  rw [← rowOf_nil]
  exact isCommon_bestRun hnone

/-- The longest run is a common one. -/
theorem isCommon_longestRun (as : List α) (bs : List (Marked α)) :
    IsCommon as (bs.map Prod.fst) (longestRun as bs) :=
  isCommon_widen (isCommon_best as bs)

end

/-! ## The runs that are found -/

theorem mark_fst (bs : List α) : (mark bs).map Prod.fst = bs := by
  unfold mark
  dsimp only
  split <;> simp [Function.comp_def]

section
variable [LawfulBEq α]

theorem areRuns_runsWithin (fuel : Nat) (as : List α) (bs : List (Marked α)) :
    AreRuns as (bs.map Prod.fst) 0 0 (runsWithin fuel as bs) := by
  induction fuel generalizing as bs with
  | zero => exact ⟨Nat.zero_le _, Nat.zero_le _⟩
  | succ fuel ih =>
      have hcommon := isCommon_longestRun as bs
      rw [runsWithin]
      generalize longestRun as bs = r at hcommon ⊢
      split
      · exact ⟨Nat.zero_le _, Nat.zero_le _⟩
      · have hleft := ih (as.take r.left) (bs.take r.right)
        have hright := ih (as.drop (r.left + r.size)) (bs.drop (r.right + r.size))
        rw [List.map_take] at hleft
        rw [List.map_drop] at hright
        have hrest := hright.shift hcommon.left_le hcommon.right_le
        rw [Nat.zero_add, Nat.zero_add] at hrest
        exact hleft.append ⟨Nat.le_refl _, Nat.le_refl _, hcommon, hrest⟩

/-- **The matching runs are common runs in order.** -/
theorem areRuns_runs (as bs : List α) : AreRuns as bs 0 0 (runs as bs) := by
  have h := areRuns_runsWithin (as.length + 1) as (mark bs)
  rw [mark_fst] at h
  exact h.join

end

/-! ## A sequence and itself -/

/-- Elements with marks that depend on nothing but the element. -/
def marked (ok : α → Bool) (as : List α) : List (Marked α) := as.map fun a => (a, ok a)

theorem mark_eq_marked (as : List α) : ∃ ok, mark as = marked ok as := by
  unfold mark marked
  dsimp only
  split
  · exact ⟨fun _ => true, rfl⟩
  · exact ⟨fun a => decide (as.count a ≤ as.length / 100 + 1), rfl⟩

/-- The length of the run that ends at the same place in a sequence and itself. -/
def onDiagonal (ok : α → Bool) (done : List α) : Nat :=
  commonMarked done.reverse (marked ok done.reverse)

theorem endingAt_marked (ok : α → Bool) (done as : List α) (j : Nat) :
    endingAt done (marked ok as) j =
      commonMarked done.reverse (marked ok (as.take (j + 1)).reverse) := by
  simp only [endingAt, marked, List.map_reverse, List.map_take]

theorem bestInRow_append (i j : Nat) (best : Run) (front back : List Nat) :
    bestInRow i j best (front ++ back) =
      bestInRow i (j + front.length) (bestInRow i j best front) back := by
  induction front generalizing j best with
  | nil => rfl
  | cons k front ih =>
      rw [List.cons_append, bestInRow, ih, bestInRow, List.length_cons]
      rw [show j + 1 + front.length = j + (front.length + 1) by omega]

theorem bestInRow_of_le {i j : Nat} {best : Run} {row : List Nat}
    (h : ∀ k ∈ row, k ≤ best.size) : bestInRow i j best row = best := by
  induction row generalizing j with
  | nil => rfl
  | cons k row ih =>
      obtain ⟨hk, hrow⟩ := List.forall_mem_cons.mp h
      rw [bestInRow, if_neg (by omega), ih hrow]

variable [LawfulBEq α]

/-- Off the diagonal a run is no longer than those on it that end at the same elements. -/
theorem commonMarked_le_diagonal (ok : α → Bool) (xs ys : List α) :
    commonMarked xs (marked ok ys) ≤ commonMarked xs (marked ok xs) ∧
      commonMarked xs (marked ok ys) ≤ commonMarked ys (marked ok ys) := by
  induction xs generalizing ys with
  | nil => simp [commonMarked]
  | cons x xs ih =>
      cases ys with
      | nil => simp [commonMarked, marked]
      | cons y ys =>
          simp only [marked, List.map_cons, commonMarked]
          split
          · next h =>
            obtain rfl := eq_of_beq (Bool.and_eq_true_iff.mp h).2
            rw [if_pos h, if_pos h]
            obtain ⟨hxs, hys⟩ := ih ys
            exact ⟨Nat.succ_le_succ hxs, Nat.succ_le_succ hys⟩
          · exact ⟨Nat.zero_le _, Nat.zero_le _⟩

/-- Of a row for a sequence and itself, only the length on the diagonal can be the best. -/
theorem bestInRow_diagonal {ok : α → Bool} {done rest : List α} {a : α} {best : Run} {d : Nat}
    (hd : onDiagonal ok (done ++ [a]) = d)
    (hbest : ∀ j ≤ done.length, onDiagonal ok (done.take j) ≤ best.size) :
    bestInRow done.length 0 best (rowOf (done ++ [a]) (marked ok (done ++ a :: rest))) =
      if d > best.size then ⟨done.length + 1 - d, done.length + 1 - d, d⟩ else best := by
  have hlength : (marked ok (done ++ a :: rest)).length = done.length + (rest.length + 1) := by
    simp [marked]
  have hhere : endingAt (done ++ [a]) (marked ok (done ++ a :: rest)) done.length = d := by
    rw [endingAt_marked, List.take_length_add_append]
    exact hd
  have hfront : ∀ k ∈ (List.range done.length).map
      (endingAt (done ++ [a]) (marked ok (done ++ a :: rest))), k ≤ best.size := by
    intro k hk
    obtain ⟨j, hj, rfl⟩ := List.mem_map.mp hk
    rw [List.mem_range] at hj
    -- the run that ends at place `j` of both is at least as long
    refine Nat.le_trans ?_ (hbest (j + 1) hj)
    rw [endingAt_marked, List.take_append_of_le_length (by omega)]
    exact (commonMarked_le_diagonal ok _ _).2
  rw [rowOf, hlength, List.range_add, List.map_append, List.range_succ_eq_map, bestInRow_append,
    bestInRow_of_le hfront, List.map_cons, List.map_cons, Nat.add_zero, hhere, bestInRow,
    List.length_map, List.length_range, Nat.zero_add]
  refine bestInRow_of_le fun k hk => ?_
  simp only [List.map_map, List.mem_map, Function.comp_apply] at hk
  obtain ⟨j, -, rfl⟩ := hk
  have hle := (commonMarked_le_diagonal ok (done ++ [a]).reverse
    ((done ++ a :: rest).take (done.length + (j + 1) + 1)).reverse).1
  rw [← endingAt_marked] at hle
  refine Nat.le_trans (Nat.le_trans hle (Nat.le_of_eq hd)) ?_
  split
  · exact Nat.le_refl d
  · omega

theorem bestRun_diagonal {ok : α → Bool} {done rest : List α} {best : Run}
    (hdiagonal : best.left = best.right)
    (hbest : ∀ j ≤ done.length, onDiagonal ok (done.take j) ≤ best.size) :
    (bestRun (marked ok (done ++ rest)) done.length (rowOf done (marked ok (done ++ rest)))
      best rest).left =
    (bestRun (marked ok (done ++ rest)) done.length (rowOf done (marked ok (done ++ rest)))
      best rest).right := by
  induction rest generalizing done best with
  | nil => exact hdiagonal
  | cons a rest ih =>
      rw [bestRun, nextRow_rowOf, bestInRow_diagonal rfl hbest]
      have hlength : done.length + 1 = (done ++ [a]).length := by simp
      rw [List.append_cons, hlength]
      refine ih ?_ fun j hj => ?_
      · split
        · rfl
        · exact hdiagonal
      · rcases Nat.lt_or_ge done.length j with hlt | hle
        · rw [List.take_of_length_le (by simpa using hlt)]
          split
          · exact Nat.le_refl _
          · omega
        · rw [List.take_append_of_le_length hle]
          refine (hbest j hle).trans ?_
          split
          · exact Nat.le_of_lt ‹_›
          · exact Nat.le_refl _

theorem widen_diagonal {as : List α} {r : Run} (hdiagonal : r.left = r.right)
    (hr : r.left + r.size ≤ as.length) : widen as as r = ⟨0, 0, as.length⟩ := by
  unfold widen
  rw [← hdiagonal, commonLength_self, commonLength_self]
  simp only [List.length_reverse, List.length_take, List.length_drop]
  have hmin : min r.left as.length = r.left := by omega
  rw [hmin, Nat.sub_self, show r.left + r.size + (as.length - (r.left + r.size)) = as.length by
    omega]

theorem longestRun_self (ok : α → Bool) (as : List α) :
    longestRun as (marked ok as) = ⟨0, 0, as.length⟩ := by
  have hfst : (marked ok as).map Prod.fst = as := by simp [marked, Function.comp_def]
  have hnone : ∀ j ≤ ([] : List α).length, onDiagonal ok (([] : List α).take j) ≤ 0 := by
    simp [onDiagonal, commonMarked]
  have hdiagonal := @bestRun_diagonal _ _ _ ok [] as ⟨0, 0, 0⟩ rfl hnone
  rw [List.nil_append, rowOf_nil] at hdiagonal
  unfold longestRun
  rw [hfst]
  exact widen_diagonal hdiagonal (isCommon_best as (marked ok as)).left_le

theorem runsWithin_nil (fuel : Nat) (bs : List (Marked α)) : runsWithin fuel [] bs = [] := by
  cases fuel with
  | zero => rfl
  | succ fuel =>
      have hsize := (isCommon_longestRun [] bs).left_le
      rw [List.length_nil] at hsize
      rw [runsWithin, if_pos (by omega)]

/-- **A sequence matches itself in one run.** -/
theorem runs_self {as : List α} (h : as ≠ []) : runs as as = [⟨0, 0, as.length⟩] := by
  obtain ⟨ok, hmark⟩ := mark_eq_marked as
  have hsize : as.length ≠ 0 := fun hzero => h (List.length_eq_zero_iff.mp hzero)
  have hwithin : runsWithin (as.length + 1) as (mark as) = [⟨0, 0, as.length⟩] := by
    rw [runsWithin, hmark, longestRun_self]
    simp only [if_neg hsize, Nat.zero_add, List.take_zero, List.drop_length, runsWithin_nil,
      List.map_nil, List.nil_append]
  rw [runs, hwithin]
  rfl

end Casebook.Sequence

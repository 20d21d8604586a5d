import Casebook.Proofs.Case.Together

/-!
# What cases enter into the store

A case leaves the store, or it accepts lines under its own name that were not there
(`run_entered`). So if a store has something to save after a run, then some case has changed the
entry of its name. Main statement: `someEntered_of_changed`.
-/

namespace Casebook.Case

open Snapshot

variable {compile : Compiler} {w : Disk.Workspace} {b : Bench} {cs : List CaseSpec}

/-! ## One case -/

/-- A store after a case: it is left, or it accepts lines under the name of the case that were not
there. -/
def Entered (c : CaseSpec) (s t : Store) : Prop :=
  t = s ∨ ∃ lines : List Text, t = s.accept c.name lines ∧
    s.get? c.name ≠ some (lines.map Value.text)

theorem judge_entered {c : CaseSpec} {lines : List Text} {s : Store} {m : Option Text}
    {after : Option Store} (h : judge c lines (some s) = .ok (m, after)) :
    ∃ t, after = some t ∧ Entered c s t := by
  unfold judge at h
  cases hexpected : c.expected with
  | some expected =>
      rw [hexpected] at h
      cases h
      exact ⟨s, rfl, Or.inl rfl⟩
  | none =>
      rw [hexpected] at h
      dsimp only at h
      cases hcheck : s.check c.name lines with
      | error fault =>
          rw [hcheck] at h
          cases h
      | ok checked =>
          obtain ⟨m', t⟩ := checked
          rw [hcheck] at h
          cases h
          refine ⟨t, rfl, ?_⟩
          rcases Store.check_cases hcheck with ⟨hsame, -⟩ | ⟨haccept, -, hne, -⟩
          · exact Or.inl hsame
          · exact Or.inr ⟨lines, haccept, hne⟩

/-- **A case enters lines under its own name, or nothing.** -/
theorem run_entered (compile : Compiler) (w : Disk.Workspace) (c : CaseSpec) {b : Bench} {s : Store}
    (hs : b.accepted = some s) :
    ∃ t, (run compile w c b).2.accepted = some t ∧ Entered c s t := by
  have hown : (if c.files.isEmpty then .ok b.provider else b.provider.fork.addAll c.files) =
      ownProvider c b.provider := rfl
  unfold run
  dsimp only
  rw [hown]
  cases ownProvider c b.provider with
  | error fault => exact ⟨s, hs, Or.inl rfl⟩
  | ok own =>
      have haccepted := (accepted_after b c (compile w own c.source)).trans hs
      have hafter : (if c.files.isEmpty then
          { b with provider := (compile w own c.source).provider } else b) =
          b.after c (compile w own c.source) := rfl
      dsimp only
      rw [hafter]
      generalize b.after c (compile w own c.source) = b' at haccepted ⊢
      cases (compile w own c.source).result with
      | error fault => exact ⟨s, haccepted, Or.inl rfl⟩
      | ok result =>
          dsimp only
          rw [haccepted]
          cases hjudge : judge c result.lines (some s) with
          | error fault => exact ⟨s, haccepted, Or.inl rfl⟩
          | ok judgement =>
              obtain ⟨m, after⟩ := judgement
              exact judge_entered hjudge

theorem Entered.updating {c : CaseSpec} {s t : Store} (h : Entered c s t) :
    t.updating = s.updating := by
  rcases h with rfl | ⟨lines, rfl, -⟩
  · rfl
  · rfl

theorem Entered.path {c : CaseSpec} {s t : Store} (h : Entered c s t) : t.path = s.path := by
  rcases h with rfl | ⟨lines, rfl, -⟩
  · rfl
  · rfl

/-- Nothing was entered if the same is accepted for the name as before. -/
theorem Entered.eq_of_get? {c : CaseSpec} {s t : Store} (h : Entered c s t)
    (hget : t.get? c.name = s.get? c.name) : t = s := by
  rcases h with rfl | ⟨lines, rfl, hne⟩
  · rfl
  · rw [Store.get?_accept, if_pos rfl] at hget
    exact absurd hget.symm hne

/-- A case that changes the store changes what is accepted for its name. -/
theorem Entered.stored_ne {c : CaseSpec} {s t : Store} (h : Entered c s t)
    (hs : s.changed = false) (ht : t.changed = true) : t.get? c.name ≠ s.get? c.name := by
  intro hget
  rw [h.eq_of_get? hget, hs] at ht
  cases ht

/-! ## All cases -/

theorem runAll_cons_error {c : CaseSpec} {b b' : Bench} {fault : Casebook.Fault}
    (h : run compile w c b = (.error fault, b')) (cs : List CaseSpec) :
    runAll compile w (c :: cs) b = (.error fault, b') := by
  rw [runAll, h]

theorem runAll_cons_ok {c : CaseSpec} {b b' : Bench} {v : Verdict}
    (h : run compile w c b = (.ok v, b')) (cs : List CaseSpec) :
    runAll compile w (c :: cs) b =
      ((runAll compile w cs b').1.map (v :: ·), (runAll compile w cs b').2) := by
  rw [runAll, h]

/-- A run with a store ends with a store, of the same file. -/
theorem runAll_store (compile : Compiler) (w : Disk.Workspace) (cs : List CaseSpec) {b : Bench}
    {s : Store} (hs : b.accepted = some s) :
    ∃ t, (runAll compile w cs b).2.accepted = some t ∧ t.path = s.path := by
  induction cs generalizing b s with
  | nil => exact ⟨s, hs, rfl⟩
  | cons c cs ih =>
      obtain ⟨t, ht, hentered⟩ := run_entered compile w c hs
      cases hrun : run compile w c b with
      | mk answer after =>
          rw [hrun] at ht
          cases answer with
          | error fault =>
              rw [runAll_cons_error hrun]
              exact ⟨t, ht, hentered.path⟩
          | ok v =>
              obtain ⟨u, hu, hpath⟩ := ih ht
              rw [runAll_cons_ok hrun]
              exact ⟨u, hu, hpath.trans hentered.path⟩

/-- One more case enters lines, or nothing; after a fault it is not run. -/
theorem runAll_snoc_entered (c : CaseSpec) {s : Store}
    (hs : (runAll compile w cs b).2.accepted = some s) :
    ∃ t, (runAll compile w (cs ++ [c]) b).2.accepted = some t ∧ Entered c s t := by
  cases hrun : runAll compile w cs b with
  | mk answer after =>
      rw [hrun] at hs
      cases answer with
      | error fault =>
          rw [runAll_append_error hrun]
          exact ⟨s, hs, Or.inl rfl⟩
      | ok vs =>
          obtain ⟨t, ht, hentered⟩ := run_entered compile w c hs
          rw [runAll_append_ok hrun]
          refine ⟨t, ?_, hentered⟩
          cases hcase : run compile w c after with
          | mk first last =>
              rw [hcase] at ht
              cases first with
              | error fault =>
                  rw [runAll_cons_error hcase]
                  exact ht
              | ok v =>
                  rw [runAll_cons_ok hcase]
                  exact ht

/-- Some case replaced what was accepted for its name, or recorded the first lines for it. -/
def SomeEntered (compile : Compiler) (w : Disk.Workspace) (cs : List CaseSpec) (b : Bench) : Prop :=
  ∃ before c after, cs = before ++ c :: after ∧
    (runAll compile w (before ++ [c]) b).2.stored c.name ≠
      (runAll compile w before b).2.stored c.name

/-- **The store has changed only if a case entered something.** -/
theorem someEntered_of_changed {s t : Store} (hs : b.accepted = some s)
    (hclean : s.changed = false) (ht : (runAll compile w cs b).2.accepted = some t)
    (hchanged : t.changed = true) : SomeEntered compile w cs b := by
  induction cs using List.reverseRecOn generalizing t with
  | nil =>
      obtain rfl : s = t := Option.some.inj (hs.symm.trans ht)
      rw [hclean] at hchanged
      cases hchanged
  | append_singleton cs c ih =>
      obtain ⟨u, hu, -⟩ := runAll_store compile w cs hs
      by_cases hmiddle : u.changed = true
      · obtain ⟨before, d, after, rfl, hentered⟩ := ih hu hmiddle
        exact ⟨before, d, after ++ [c], by simp, hentered⟩
      · obtain ⟨v, hv, hentered⟩ := runAll_snoc_entered c hu
        obtain rfl : v = t := Option.some.inj (hv.symm.trans ht)
        refine ⟨cs, c, [], rfl, ?_⟩
        unfold Bench.stored
        rw [hv, hu]
        exact hentered.stored_ne (Bool.eq_false_iff.mpr hmiddle) hchanged

end Casebook.Case

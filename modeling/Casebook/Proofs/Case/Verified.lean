import Casebook.Proofs.Case.Entered

/-!
# What was accepted is verified

Cases are run with a store that is updating, and then again with a store that is not and accepts
what the first run left. Main statement (`accepted_is_verified`): the second run gives the same
verdicts, a case that is compared with the store does not fail, and the second store stays as it
is, so that saving it does nothing. The names of the cases have to be distinct: of two cases of one
name the second replaces what the first one left.
-/

namespace Casebook.Case

open Checker Stub.Provider Snapshot

variable {compile : Compiler} {w : Disk.Workspace} {p q : Stub.Provider}

/-! ## One case -/

theorem compared_self (updating : Bool) (lines : List Text) :
    Store.compared updating (some (lines.map Value.text)) lines =
      .ok (none, lines.map Value.text) :=
  if_pos ((Store.agree_iff (lines.map Value.text) lines).mpr rfl)

/-- A store that is updating accepts the lines, whatever was accepted before. -/
theorem compared_updating (accepted : Option (List Value)) (lines : List Text) :
    Store.compared true accepted lines = .ok (none, lines.map Value.text) := by
  unfold Store.compared
  cases accepted with
  | none => rfl
  | some vs =>
      dsimp only
      by_cases hagree : Store.agree vs lines = true
      · rw [if_pos hagree, (Store.agree_iff vs lines).mp hagree]
      · rw [if_neg hagree, if_pos rfl]

/-- The lines are judged with a store that is updating, and again with what it shows then. -/
theorem judged_again (c : CaseSpec) (lines : List Text) (known : Option (List Value)) :
    ∃ m after, judged c lines (some (true, known)) = .ok (m, some (true, after)) ∧
      judged c lines (some (false, after)) = .ok (m, some (false, after)) ∧
      (c.expected = none → m = none) := by
  unfold judged
  cases c.expected with
  | some expected => exact ⟨_, known, rfl, rfl, nofun⟩
  | none =>
      refine ⟨none, some (lines.map Value.text), ?_, ?_, fun _ => rfl⟩
      · dsimp only
        rw [compared_updating]
        rfl
      · dsimp only
        rw [compared_self]
        rfl

theorem ofFault_status {c : CaseSpec} {fault : Casebook.Fault} {v : Verdict}
    (h : Verdict.ofFault c fault = .ok v) : v.status = .error := by
  unfold Verdict.ofFault at h
  split at h
  · cases h
    rfl
  · cases h

/-- **A case that is run again comes to the same**, where the store is not updating and shows what
the first run left; and it leaves that as it is. -/
theorem outcome_again (compile : Stub.Provider → Text → Compilation) (c : CaseSpec)
    (p : Stub.Provider) (known : Option (List Value)) :
    ∃ answer after, outcome compile c p (some (true, known)) = (answer, some (true, after)) ∧
      outcome compile c p (some (false, after)) = (answer, some (false, after)) ∧
      ∀ v, answer = .ok v → c.expected = none → v.status = .passed ∨ v.status = .error := by
  unfold outcome
  cases ownProvider c p with
  | error fault => exact ⟨_, known, rfl, rfl, nofun⟩
  | ok own =>
      dsimp only
      cases (compile own c.source).result with
      | error fault =>
          refine ⟨_, known, rfl, rfl, ?_⟩
          intro v hv _
          exact Or.inr (ofFault_status hv)
      | ok result =>
          obtain ⟨m, after, hfirst, hagain, hnone⟩ := judged_again c result.lines known
          dsimp only
          rw [hfirst]
          refine ⟨_, after, rfl, ?_, ?_⟩
          · rw [hagain]
          · intro v hv hexpected
            cases hv
            rw [hnone hexpected]
            exact Or.inl rfl

/-- While the store is updating, only a breakdown keeps a case without a verdict. -/
theorem outcome_updating_ok {compile : Stub.Provider → Text → Compilation} {c : CaseSpec}
    (hfiles : ∀ file ∈ c.files, file.1 ≠ "") (h : ¬ Breaks compile c p)
    (known : Option (List Value)) :
    ∃ v, (outcome compile c p (some (true, known))).1 = .ok v := by
  obtain ⟨own, hown⟩ := ownProvider_ok c hfiles p
  unfold outcome
  rw [hown]
  dsimp only
  cases hresult : (compile own c.source).result with
  | error fault =>
      cases hsetup : fault.setupName? with
      | none => exact absurd ⟨own, fault, hown, hresult, hsetup⟩ h
      | some name => exact ofFault_of_some hsetup c
  | ok result =>
      obtain ⟨m, after, hfirst, -, -⟩ := judged_again c result.lines known
      dsimp only
      rw [hfirst]
      exact ⟨_, rfl⟩

/-! ## All cases -/

/-- A run, also one that ends in a fault, changes neither the answers of the provider nor what the
store shows of names that are none of the cases'. -/
theorem runAll_frame (hcompile : Observes w (compile w)) (cs : List CaseSpec) (b : Bench) :
    Alike w (runAll compile w cs b).2.provider b.provider ∧
      ∀ n, n ∉ cs.map CaseSpec.name →
        shownIn (runAll compile w cs b).2.accepted n = shownIn b.accepted n := by
  induction cs generalizing b with
  | nil => exact ⟨Alike.refl w b.provider, fun _ _ => rfl⟩
  | cons c cs ih =>
      obtain ⟨-, halike, hshown⟩ := run_spec hcompile c b
      have hfirst : ∀ n, n ≠ c.name →
          shownIn (run compile w c b).2.accepted n = shownIn b.accepted n := by
        intro n hn
        rw [hshown, if_neg hn]
      cases hrun : run compile w c b with
      | mk answer after =>
          rw [hrun] at halike hfirst
          cases answer with
          | error fault =>
              rw [runAll_cons_error hrun]
              refine ⟨halike, fun n hn => hfirst n ?_⟩
              rintro rfl
              exact hn List.mem_cons_self
          | ok v =>
              obtain ⟨halike', hshown'⟩ := ih after
              rw [runAll_cons_ok hrun]
              refine ⟨halike'.trans halike, fun n hn => ?_⟩
              obtain ⟨hne, hrest⟩ := not_or.mp fun hmem => hn (List.mem_cons.mpr hmem)
              exact (hshown' n hrest).trans (hfirst n hne)

/-- A case is run again, with a store that is not updating and shows under its name what the first
run left there. -/
theorem run_again (hcompile : Observes w (compile w)) (c : CaseSpec) {b b' : Bench}
    {s s' t : Store} (hs : b.accepted = some s) (hup : s.updating = true)
    (ht : (run compile w c b).2.accepted = some t)
    (hs' : b'.accepted = some s') (hfixed : s'.updating = false)
    (halike : Alike w b'.provider b.provider) (hsame : s'.get? c.name = t.get? c.name) :
    (run compile w c b').1 = (run compile w c b).1 ∧
      (run compile w c b').2.accepted = some s' ∧
      Alike w (run compile w c b').2.provider (run compile w c b).2.provider ∧
      ∀ v, (run compile w c b).1 = .ok v → c.expected = none →
        v.status = .passed ∨ v.status = .error := by
  obtain ⟨hrun, hprovider, hshown⟩ := run_spec hcompile c b
  obtain ⟨hrun', hprovider', hshown'⟩ := run_spec hcompile c b'
  obtain ⟨answer, after, hfirst, hagain, hstatus⟩ :=
    outcome_again (compile w) c b.provider (s.get? c.name)
  have hknown : shownIn b.accepted c.name = some (true, s.get? c.name) := by
    rw [hs, ← hup]
    rfl
  rw [hknown, hfirst] at hrun hshown
  have hafter : t.get? c.name = after := by
    have hown := hshown c.name
    rw [if_pos rfl, ht] at hown
    exact congrArg Prod.snd (Option.some.inj hown)
  have hknown' : shownIn b'.accepted c.name = some (false, after) := by
    rw [hs', ← hfixed, ← hafter, ← hsame]
    rfl
  rw [hknown', outcome_congr hcompile halike, hagain] at hrun' hshown'
  obtain ⟨u, hu, hentered⟩ := run_entered compile w c hs'
  have hkept : u = s' := by
    refine hentered.eq_of_get? ?_
    have hown := hshown' c.name
    rw [if_pos rfl, hu] at hown
    rw [hsame, hafter]
    exact congrArg Prod.snd (Option.some.inj hown)
  rw [hkept] at hu
  refine ⟨hrun'.trans hrun.symm, hu, hprovider'.trans (halike.trans hprovider.symm), ?_⟩
  rwa [hrun]

/-- Later cases have other names, so what a case leaves under its name is what the run leaves. -/
theorem get?_runAll_head (hcompile : Observes w (compile w)) {c : CaseSpec} {cs : List CaseSpec}
    (hname : c.name ∉ cs.map CaseSpec.name) {b : Bench} {t u : Store}
    (ht : (run compile w c b).2.accepted = some t)
    (hu : (runAll compile w (c :: cs) b).2.accepted = some u) :
    u.get? c.name = t.get? c.name := by
  cases hcase : run compile w c b with
  | mk answer after =>
      rw [hcase] at ht
      cases answer with
      | error fault =>
          rw [runAll_cons_error hcase, ht] at hu
          rw [Option.some.inj hu]
      | ok v =>
          rw [runAll_cons_ok hcase] at hu
          have hshown := (runAll_frame hcompile cs after).2 c.name hname
          rw [hu, ht] at hshown
          exact congrArg Prod.snd (Option.some.inj hshown)

/-- **A second run gives what the first one gave**, and leaves its store. -/
theorem runAll_again (hcompile : Observes w (compile w)) {cs : List CaseSpec}
    (hnames : (cs.map CaseSpec.name).Nodup) {b b' : Bench} {s s' t : Store}
    (hs : b.accepted = some s) (hup : s.updating = true)
    (ht : (runAll compile w cs b).2.accepted = some t)
    (hs' : b'.accepted = some s') (hfixed : s'.updating = false)
    (halike : Alike w b'.provider b.provider)
    (hsame : ∀ c ∈ cs, s'.get? c.name = t.get? c.name) :
    (runAll compile w cs b').1 = (runAll compile w cs b).1 ∧
      (runAll compile w cs b').2.accepted = some s' ∧
      ∀ vs, (runAll compile w cs b).1 = .ok vs → List.Forall₂ (fun c v =>
        c.expected = none → v.status = .passed ∨ v.status = .error) cs vs := by
  induction cs generalizing b b' s with
  | nil =>
      refine ⟨rfl, hs', ?_⟩
      rintro vs ⟨⟩
      exact List.Forall₂.nil
  | cons c cs ih =>
      rw [List.map_cons, List.nodup_cons] at hnames
      obtain ⟨hhead, htail⟩ := List.forall_mem_cons.mp hsame
      obtain ⟨u, hu, hentered⟩ := run_entered compile w c hs
      rw [get?_runAll_head hcompile hnames.1 hu ht] at hhead
      obtain ⟨hanswer, hstore, hnext, hstatus⟩ :=
        run_again hcompile c hs hup hu hs' hfixed halike hhead
      cases hcase : run compile w c b with
      | mk answer b₁ =>
          cases hcase' : run compile w c b' with
          | mk answer' b₂ =>
              rw [hcase] at hanswer hnext hstatus hu
              rw [hcase'] at hanswer hnext hstore
              obtain rfl : answer' = answer := hanswer
              cases answer' with
              | error fault =>
                  rw [runAll_cons_error hcase, runAll_cons_error hcase']
                  exact ⟨rfl, hstore, nofun⟩
              | ok v =>
                  rw [runAll_cons_ok hcase] at ht
                  rw [runAll_cons_ok hcase, runAll_cons_ok hcase']
                  obtain ⟨hrest, hlast, hall⟩ := ih hnames.2 hu
                    (hentered.updating.trans hup) ht hstore hnext htail
                  refine ⟨congrArg (Except.map (v :: ·)) hrest, hlast, ?_⟩
                  intro vs hvs
                  cases htail' : (runAll compile w cs b₁).1 with
                  | error fault =>
                      rw [htail'] at hvs
                      cases hvs
                  | ok us =>
                      rw [htail'] at hvs
                      cases hvs
                      exact List.Forall₂.cons (hstatus v rfl) (hall us htail')

/-- While the store is updating, a run ends well unless the checker breaks down in a case. -/
theorem runAll_updating_ok (hcompile : Observes w (compile w)) {cs : List CaseSpec}
    (hfiles : ∀ c ∈ cs, ∀ file ∈ c.files, file.1 ≠ "") {b : Bench} {s : Store}
    (hs : b.accepted = some s) (hup : s.updating = true) (halike : Alike w b.provider p)
    (hwhole : ∀ c ∈ cs, ¬ Breaks (compile w) c p) :
    ∃ vs, (runAll compile w cs b).1 = .ok vs := by
  induction cs generalizing b s with
  | nil => exact ⟨[], rfl⟩
  | cons c cs ih =>
      obtain ⟨hfile, hfiles⟩ := List.forall_mem_cons.mp hfiles
      obtain ⟨hcase, hwhole⟩ := List.forall_mem_cons.mp hwhole
      obtain ⟨hrun, hprovider, -⟩ := run_spec hcompile c b
      obtain ⟨t, ht, hentered⟩ := run_entered compile w c hs
      obtain ⟨v, hv⟩ := outcome_updating_ok hfile hcase (s.get? c.name)
      have hknown : shownIn b.accepted c.name = some (true, s.get? c.name) := by
        rw [hs, ← hup]
        rfl
      rw [hknown, outcome_congr hcompile halike, hv] at hrun
      cases hfirst : run compile w c b with
      | mk answer after =>
          rw [hfirst] at hrun hprovider ht
          obtain rfl : answer = .ok v := hrun
          obtain ⟨vs, hvs⟩ := ih hfiles ht (hentered.updating.trans hup)
            (hprovider.trans halike) hwhole
          rw [runAll_cons_ok hfirst, hvs]
          exact ⟨_, rfl⟩

/-- **What a run has accepted is verified by the next.** Cases of distinct names are run with a
store that is updating, and again, with the provider that they started with or the one that they
left, with a store that is not and accepts what the first run left. The second run gives the
verdicts of the first, where no case that is compared with the store has failed, and its store
stays, so that saving it writes nothing. The first run ends well unless the checker breaks down. -/
theorem accepted_is_verified (hcompile : Observes w (compile w)) {cs : List CaseSpec}
    (hnames : (cs.map CaseSpec.name).Nodup)
    (hfiles : ∀ c ∈ cs, ∀ file ∈ c.files, file.1 ≠ "") (p : Stub.Provider) {s : Store}
    (hup : s.updating = true) :
    let first := runAll compile w cs ⟨p, some s⟩
    ((∀ c ∈ cs, ¬ Breaks (compile w) c p) → ∃ vs, first.1 = .ok vs) ∧
    (∀ vs, first.1 = .ok vs → List.Forall₂ (fun c v =>
      c.expected = none → v.status = .passed ∨ v.status = .error) cs vs) ∧
    ∃ t, first.2.accepted = some t ∧ ∀ q, q = p ∨ q = first.2.provider → ∀ s' : Store,
      s'.accepted = t.accepted → s'.updating = false →
        (runAll compile w cs ⟨q, some s'⟩).1 = first.1 ∧
        (runAll compile w cs ⟨q, some s'⟩).2.accepted = some s' ∧
        (s'.changed = false → ∀ steps, s'.save w steps = (.ok false, s', w)) := by
  intro first
  have hs : (Bench.mk p (some s)).accepted = some s := rfl
  obtain ⟨t, ht, -⟩ := runAll_store compile w cs hs
  refine ⟨runAll_updating_ok hcompile hfiles hs hup (Alike.refl w p), ?_, t, ht, ?_⟩
  · have hfixed : (Bench.mk p (some { t with updating := false })).accepted =
        some { t with updating := false } := rfl
    exact (runAll_again hcompile hnames hs hup ht hfixed rfl (Alike.refl w p) fun c _ => rfl).2.2
  · intro q hq s' haccepted hfixed
    have hs' : (Bench.mk q (some s')).accepted = some s' := rfl
    have halike : Alike w q p := by
      rcases hq with rfl | rfl
      · exact Alike.refl w q
      · exact (runAll_frame hcompile cs ⟨p, some s⟩).1
    have hsame : ∀ c ∈ cs, s'.get? c.name = t.get? c.name := by
      intro c _
      rw [Store.get?, Store.get?, haccepted]
    obtain ⟨hverdicts, hstore, -⟩ :=
      runAll_again hcompile hnames hs hup ht hs' hfixed halike hsame
    refine ⟨hverdicts, hstore, ?_⟩
    intro hclean steps
    unfold Store.save
    rw [hclean]
    rfl

/-- A case that expects other lines than it reports. -/
def mistaken : CaseSpec := ⟨"wrong", "#emit main:1: error: X", [], some ["main:1: error: Y"]⟩

/-- A store that is updating and has other lines for the first of the cases. -/
def outdated : Store := ⟨⟨.relative, ["s.yml"]⟩, true, [("fine", [.text "old"])], false⟩

theorem accepted_is_verified_outdated :
    ∃ vs t, (runAll scripted ⟨.folder [], []⟩ [speaking, mistaken]
        ⟨oneFile, some outdated⟩).1 = .ok vs ∧
      vs.map Verdict.status = [.passed, .failed] ∧ t.updating = false ∧
      t.get? "fine" = some [.text "main:1: error: X"] ∧
      (runAll scripted ⟨.folder [], []⟩ [speaking, mistaken] ⟨oneFile, some t⟩).1 = .ok vs ∧
      (runAll scripted ⟨.folder [], []⟩ [speaking, mistaken]
        ⟨oneFile, some t⟩).2.accepted = some t := by
  have hcompile : Observes ⟨.folder [], []⟩ (scripted ⟨.folder [], []⟩) := observes_compile _ _ _
  have hnames : ([speaking, mistaken].map CaseSpec.name).Nodup := by decide
  obtain ⟨-, -, t, ht, hagain⟩ :=
    accepted_is_verified hcompile hnames (by decide) oneFile (s := outdated) rfl
  have hstatus : (runAll scripted ⟨.folder [], []⟩ [speaking, mistaken]
      ⟨oneFile, some outdated⟩).1.map (List.map Verdict.status) = .ok [.passed, .failed] := by cbv
  have hkept : (runAll scripted ⟨.folder [], []⟩ [speaking, mistaken]
      ⟨oneFile, some outdated⟩).2.accepted.bind (·.get? "fine") =
      some [.text "main:1: error: X"] := by cbv
  rw [ht] at hkept
  obtain ⟨hsame, hstore, -⟩ := hagain oneFile (Or.inl rfl) { t with updating := false } rfl rfl
  cases hfirst : (runAll scripted ⟨.folder [], []⟩ [speaking, mistaken]
      ⟨oneFile, some outdated⟩).1 with
  | error fault =>
      rw [hfirst] at hstatus
      cases hstatus
  | ok vs =>
      rw [hfirst] at hstatus hsame
      exact ⟨vs, { t with updating := false }, rfl, Except.ok.inj hstatus, rfl, hkept, hsame,
        hstore⟩

end Casebook.Case

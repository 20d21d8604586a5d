import Casebook.Proofs.Case.Verified

/-!
# What one case does

A case that ends with a verdict was compiled, or the setup was found broken (`run_cases`). All that
is known of it is read off its compilation and off what is accepted under its name: the status, the
message, and what it leaves in the store. Main statement (`run_effect`): the store is changed under
the name of the case alone, to the lines that were reported, and only if these take the place of
other lines or of none; and the provider answers as before unless the checker puts files into it.
-/

namespace Casebook.Case

open Checker Stub.Provider Snapshot

/-- Lines are what a case expects. If it expects none in particular, that is so if nothing is kept,
nothing was accepted for its name, the same lines were, or the store is updating. -/
def Accords (c : CaseSpec) (lines : List Text) (accepted : Option Store) : Prop :=
  c.expected = some lines ∨
    c.expected = none ∧ ∀ s, accepted = some s → s.get? c.name = none ∨
      s.get? c.name = some (lines.map Value.text) ∨ s.updating = true

/-- A store takes in the lines of a case: none were accepted for its name, or other ones were and
the store is updating. -/
def TakesIn (c : CaseSpec) (lines : List Text) (s : Store) : Prop :=
  c.expected = none ∧ (s.get? c.name = none ∨
    s.updating = true ∧ s.get? c.name ≠ some (lines.map Value.text))

/-- A compilation found the setup broken. -/
def BrokenSetup (done : Compilation) : Prop :=
  ∃ report, done.result = .error (.setup report) ∨ done.result = .error (.unresolved report)

/-- What a case comes to with its compilation, and what it leaves on the bench. -/
structure Effect (c : CaseSpec) (done : Compilation) (b : Bench) (v : Verdict) (after : Bench) :
    Prop where
  error_iff : v.status = .error ↔ BrokenSetup done
  passed_iff : v.status = .passed ↔ ∃ r, done.result = .ok r ∧ Accords c r.lines b.accepted
  passed_message : v.status = .passed → v.message = none
  failed_message : v.status = .failed → ∃ m, v.message = some m
  /-- Lines that the store takes in come to stand under the name of the case. -/
  taken : ∀ s r, b.accepted = some s → done.result = .ok r → TakesIn c r.lines s →
    after.accepted = some (s.accept c.name r.lines) ∧
      after.stored c.name = some (r.lines.map Value.text)
  /-- Otherwise the store stays as it is. -/
  kept : (∀ s r, b.accepted = some s → done.result = .ok r → ¬ TakesIn c r.lines s) →
    after.accepted = b.accepted
  others : ∀ name, name ≠ c.name → after.stored name = b.stored name

/-- The checker puts no file into the provider that it is given: whatever it calls on it, and
however the disk changes meanwhile. -/
def PutsNothing (compile : Compiler) : Prop :=
  ∀ w p source, ∃ history : List (Disk.Workspace × Stub.Provider.Call),
    (∀ e ∈ history, e.2.added? = none) ∧ (compile w p source).provider = p.run history

variable {compile : Compiler} {w : Disk.Workspace} {c : CaseSpec} {b : Bench} {v : Verdict}
  {after : Bench}

/-! ## Comparing -/

/-- **A judgement.** There is no mismatch exactly if the lines accord with what is expected, and the
store takes them in or stays. -/
theorem judge_effect {lines : List Text} {accepted left : Option Store} {m : Option Text}
    (h : judge c lines accepted = .ok (m, left)) :
    (m = none ↔ Accords c lines accepted) ∧
      (∀ s, accepted = some s → TakesIn c lines s → left = some (s.accept c.name lines)) ∧
      ((∀ s, accepted = some s → ¬ TakesIn c lines s) → left = accepted) := by
  unfold judge at h
  cases hexpected : c.expected with
  | some expected =>
      rw [hexpected] at h
      cases h
      have hno : ¬ (∃ s, accepted = some s ∧ TakesIn c lines s) := by
        rintro ⟨s, -, htakes, -⟩
        cases hexpected.symm.trans htakes
      refine ⟨?_, fun s hs htakes => absurd ⟨s, hs, htakes⟩ hno, fun _ => rfl⟩
      unfold Accords
      by_cases hlines : lines = expected
      · simp [hexpected, hlines]
      · simp [hexpected, hlines, Ne.symm hlines]
  | none =>
      rw [hexpected] at h
      cases accepted with
      | none =>
          cases h
          exact ⟨iff_of_true rfl (.inr ⟨hexpected, nofun⟩), nofun, fun _ => rfl⟩
      | some s =>
          dsimp only at h
          cases hcheck : s.check c.name lines with
          | error fault =>
              rw [hcheck] at h
              cases h
          | ok checked =>
              obtain ⟨m', t⟩ := checked
              rw [hcheck] at h
              cases h
              have haccords : Accords c lines (some s) ↔ s.get? c.name = none ∨
                  s.get? c.name = some (lines.map Value.text) ∨ s.updating = true := by
                simp [Accords, hexpected]
              rw [haccords]
              simp only [Option.some.injEq, forall_eq', TakesIn, hexpected, true_and]
              rcases Store.check_cases hcheck with
                ⟨rfl, vs, hknown, hm, hsettled⟩ | ⟨rfl, rfl, hother, htaken⟩
              · -- the store stays: the lines are those that were accepted, or it is not updating
                have hsame : t.updating = true → vs = lines.map Value.text := fun hupdating =>
                  hm.mp (hsettled.resolve_right (by simp [hupdating]))
                simp only [hknown, Option.some.injEq, reduceCtorEq, false_or, implies_true,
                  and_true]
                refine ⟨⟨fun hnone => .inl (hm.mp hnone), fun hagrees => ?_⟩, ?_⟩
                · exact hm.mpr (hagrees.elim id hsame)
                · rintro ⟨hupdating, hne⟩
                  exact absurd (congrArg some (hsame hupdating)) hne
              · refine ⟨iff_of_true rfl (htaken.imp_right .inr), fun _ => rfl, fun hno => ?_⟩
                exact absurd (htaken.imp_right fun hupdating => ⟨hupdating, hother⟩) hno

/-! ## Running -/

/-- **A case that ends with a verdict** was compiled and judged, or the setup was found broken. -/
theorem run_cases (h : run compile w c b = (.ok v, after)) :
    ∃ own, ownProvider c b.provider = .ok own ∧
      ((∃ fault, (compile w own c.source).result = .error fault ∧ Verdict.ofFault c fault = .ok v ∧
          after = b.after c (compile w own c.source)) ∨
        ∃ r m left, (compile w own c.source).result = .ok r ∧
          judge c r.lines b.accepted = .ok (m, left) ∧ v = .ofResult c r m ∧
          after = { b.after c (compile w own c.source) with accepted := left }) := by
  have hown : (if c.files.isEmpty then .ok b.provider else b.provider.fork.addAll c.files) =
      ownProvider c b.provider := rfl
  unfold run at h
  dsimp only at h
  rw [hown] at h
  cases hprovider : ownProvider c b.provider with
  | error fault =>
      rw [hprovider] at h
      cases h
  | ok own =>
      rw [hprovider] at h
      have haccepted := accepted_after b c (compile w own c.source)
      have hafter : (if c.files.isEmpty then
          { b with provider := (compile w own c.source).provider } else b) =
          b.after c (compile w own c.source) := rfl
      dsimp only at h
      rw [hafter] at h
      refine ⟨own, rfl, ?_⟩
      cases hresult : (compile w own c.source).result with
      | error fault =>
          rw [hresult] at h
          obtain ⟨hv, rfl⟩ := Prod.mk.inj h
          exact .inl ⟨fault, rfl, hv, rfl⟩
      | ok r =>
          rw [hresult] at h
          dsimp only at h
          rw [haccepted] at h
          cases hjudge : judge c r.lines b.accepted with
          | error fault =>
              rw [hjudge] at h
              cases h
          | ok judgement =>
              obtain ⟨m, left⟩ := judgement
              rw [hjudge] at h
              obtain ⟨hv, rfl⟩ := Prod.mk.inj h
              exact .inr ⟨r, m, left, rfl, hjudge, (Except.ok.inj hv).symm, rfl⟩

theorem ofFault_ok {fault : Casebook.Fault} (h : Verdict.ofFault c fault = .ok v) :
    v.status = .error ∧ ∃ report, fault = .setup report ∨ fault = .unresolved report := by
  unfold Verdict.ofFault at h
  cases fault with
  | setup report =>
      cases h
      exact ⟨rfl, report, .inl rfl⟩
  | unresolved report =>
      cases h
      exact ⟨rfl, report, .inr rfl⟩
  | _ => cases h

section
variable {done : Compilation}

/-- Where the setup was found broken the store is not asked. -/
theorem effect_of_broken (hstatus : v.status = .error) (hbroken : BrokenSetup done)
    (haccepted : after.accepted = b.accepted) : Effect c done b v after := by
  have hno : ∀ r, done.result ≠ .ok r := by
    obtain ⟨report, hresult | hresult⟩ := hbroken <;> simp [hresult]
  refine ⟨iff_of_true hstatus hbroken, iff_of_false ?_ ?_, ?_, ?_, ?_, fun _ => haccepted, ?_⟩
  · simp [hstatus]
  · rintro ⟨r, hr, -⟩
    exact hno r hr
  · simp [hstatus]
  · simp [hstatus]
  · intro s r _ hr
    exact absurd hr (hno r)
  · intro name _
    rw [Bench.stored, Bench.stored, haccepted]

theorem effect_of_judged {r : CompileResult} {m : Option Text} (hresult : done.result = .ok r)
    (hjudge : judge c r.lines b.accepted = .ok (m, after.accepted)) :
    Effect c done b (.ofResult c r m) after := by
  obtain ⟨haccords, htaken, hkept⟩ := judge_effect hjudge
  have hstatus : (Verdict.ofResult c r m).status = if m.isNone then .passed else .failed := rfl
  have hmessage : (Verdict.ofResult c r m).message = m := rfl
  have haccept : ∀ s, b.accepted = some s → TakesIn c r.lines s →
      after.accepted = some (s.accept c.name r.lines) := htaken
  have hsame : ∀ r', done.result = .ok r' ↔ r' = r := fun r' => by
    rw [hresult, Except.ok.injEq, eq_comm]
  refine ⟨iff_of_false ?_ ?_, ?_, ?_, ?_, ?_, ?_, ?_⟩
  · rw [hstatus]
    split <;> simp
  · rintro ⟨report, hbroken | hbroken⟩ <;> simp [hresult] at hbroken
  · simp only [hsame, exists_eq_left, ← haccords, hstatus]
    cases m <;> simp
  · rw [hstatus, hmessage]
    cases m <;> simp
  · rw [hstatus, hmessage]
    cases m <;> simp
  · intro s r' hs hr' htakes
    obtain rfl := (hsame r').mp hr'
    have hafter := haccept s hs htakes
    refine ⟨hafter, ?_⟩
    rw [Bench.stored, hafter, Option.bind_some, Store.get?_accept, if_pos rfl]
  · intro hno
    exact hkept fun s hs => hno s r hs hresult
  · intro name hname
    by_cases htakes : ∃ s, b.accepted = some s ∧ TakesIn c r.lines s
    · obtain ⟨s, hs, htakes⟩ := htakes
      rw [Bench.stored, Bench.stored, haccept s hs htakes, hs, Option.bind_some, Option.bind_some,
        Store.get?_accept, if_neg hname]
    · rw [Bench.stored, Bench.stored, hkept fun s hs h => htakes ⟨s, hs, h⟩]

end

/-- **A case leaves its effect.** -/
theorem effect_of_run (h : run compile w c b = (.ok v, after)) :
    ∃ own, ownProvider c b.provider = .ok own ∧ Effect c (compile w own c.source) b v after := by
  obtain ⟨own, hown, hcases⟩ := run_cases h
  refine ⟨own, hown, ?_⟩
  rcases hcases with ⟨fault, hresult, hv, rfl⟩ | ⟨r, m, left, hresult, hjudge, rfl, rfl⟩
  · obtain ⟨hstatus, report, hreport⟩ := ofFault_ok hv
    refine effect_of_broken hstatus ⟨report, ?_⟩ (accepted_after b c _)
    rw [hresult]
    exact hreport.imp (congrArg _) (congrArg _)
  · exact effect_of_judged hresult hjudge

/-! ## The provider -/

/-- Calls that put nothing in leave the index. -/
theorem index_run_of_quiet {p : Stub.Provider}
    {history : List (Disk.Workspace × Stub.Provider.Call)}
    (hquiet : ∀ e ∈ history, e.2.added? = none) : (p.run history).index = p.index := by
  induction history generalizing p with
  | nil => rfl
  | cons e history ih =>
      obtain ⟨hfirst, hrest⟩ := List.forall_mem_cons.mp hquiet
      have hstep : (p.step e.1 e.2).2.index = p.index := by
        obtain ⟨disk, call⟩ := e
        cases call with
        | add name contents =>
            rcases addValue_cases p name contents with ⟨n, t, hadded, -⟩ | ⟨-, fault, hrefused⟩
            · cases hfirst.symm.trans hadded
            · rw [step, hrefused]
        | _ => rfl
      exact (ih hrest).trans hstep

theorem index_after (hputs : PutsNothing compile) (h : run compile w c b = (.ok v, after)) :
    after.provider.index = b.provider.index := by
  rcases provider_run compile w c b with hsame | ⟨own, hown, hafter⟩
  · rw [h] at hsame
    exact congrArg _ hsame
  · rw [h] at hafter
    unfold ownProvider at hown
    unfold Bench.after at hafter
    split at hown
    · next hfiles =>
      cases hown
      rw [if_pos hfiles] at hafter
      obtain ⟨history, hquiet, hleft⟩ := hputs w b.provider c.source
      rw [hafter, hleft]
      exact index_run_of_quiet hquiet
    · next hfiles =>
      rw [if_neg hfiles] at hafter
      exact congrArg _ hafter

/-- Whatever checker is behind a frontend, it only loads files. -/
theorem putsNothing_compile (build : Build) (f : Frontend) : PutsNothing (f.compile build) := by
  intro w p source
  obtain ⟨names, hnames⟩ := (observes_compile build f w).loads p source
  refine ⟨names.map fun name => (w, .load name), by simp [Stub.Provider.Call.added?], ?_⟩
  rw [hnames]
  unfold loadAll Stub.Provider.run
  rw [List.foldl_map]
  rfl

/-- **What one case does.** A case that ends with a verdict has its effect: an error exactly if the
setup was found broken, else passed exactly if the lines that were compiled accord with what is
expected; and nothing else is changed than what is accepted for its name, where the store takes
the lines in. Unless the checker puts files into it, the provider has the names that it had. -/
theorem run_effect (h : run compile w c b = (.ok v, after)) :
    (∃ own, ownProvider c b.provider = .ok own ∧ Effect c (compile w own c.source) b v after) ∧
    (PutsNothing compile →
      (∀ name, after.provider.isLoadable name = b.provider.isLoadable name) ∧
        after.provider.names = b.provider.names) := by
  refine ⟨effect_of_run h, fun hputs => ?_⟩
  have hindex := index_after hputs h
  refine ⟨fun name => ?_, ?_⟩
  · rw [isLoadable, isLoadable, hindex]
  · rw [names, names, hindex]

/-- A store that is updating takes the line in the place of another one. -/
theorem run_effect_outdated : ∃ v after,
    run scripted ⟨.folder [], []⟩ speaking ⟨oneFile, some outdated⟩ = (.ok v, after) ∧
      v.status = .passed ∧ v.message = none ∧
      after.stored "fine" = some [.text "main:1: error: X"] ∧
      after.provider.names = [Text.ofString "a"] := by
  have hstatus : (run scripted ⟨.folder [], []⟩ speaking ⟨oneFile, some outdated⟩).1.map
      Verdict.status = .ok .passed := by cbv
  have hlines : (scripted ⟨.folder [], []⟩ oneFile speaking.source).result.map
      CompileResult.lines = .ok ["main:1: error: X"] := by cbv
  cases hrun : run scripted ⟨.folder [], []⟩ speaking ⟨oneFile, some outdated⟩ with
  | mk answer after =>
      rw [hrun] at hstatus
      cases answer with
      | error fault => cases hstatus
      | ok v =>
          replace hstatus : v.status = .passed := Except.ok.inj hstatus
          obtain ⟨⟨own, hown, heffect⟩, hquiet⟩ := run_effect hrun
          obtain rfl : oneFile = own := Except.ok.inj hown
          obtain ⟨r, hr, -⟩ := heffect.passed_iff.mp hstatus
          rw [hr] at hlines
          have htakes : TakesIn speaking r.lines outdated := by
            rw [Except.ok.inj hlines]
            refine ⟨rfl, .inr ⟨rfl, fun hold => ?_⟩⟩
            exact absurd (congrArg (Option.map (List.map Value.display)) hold) (by decide)
          obtain ⟨-, hstored⟩ := heffect.taken outdated r rfl hr htakes
          rw [Except.ok.inj hlines] at hstored
          exact ⟨v, after, rfl, hstatus, heffect.passed_message hstatus, hstored,
            (hquiet (putsNothing_compile _ _)).2.trans (by cbv)⟩

end Casebook.Case

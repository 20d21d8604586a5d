import Casebook.Case.Run
import Casebook.Checker.Script
import Casebook.Proofs.Checker.Observing
import Casebook.Proofs.Snapshot.Check
import Casebook.Proofs.Stub.History

/-!
# The order of cases

Cases share a provider, whose known texts grow, and a store, which each of them reads and writes
under its own name. What a case comes to is `outcome`, a function of the answers of the provider
and of what is accepted for the name alone (`run_spec`); so a case comes to the same whichever
cases ran before it. Main statement (`order_independent`): a run in any order gives the same
verdicts and accepts the same lines, unless the checker breaks down in some case. A breakdown
ends the run, and cases behind it are not run (`order_matters_at_breakdown`).
-/

namespace Casebook.Case

open Checker Stub.Provider Snapshot

/-! ## One case -/

/-- What a store shows of a name: whether it is updating, and what is accepted for the name. -/
abbrev Shown := Option (Bool × Option (List Value))

/-- What the store at hand shows of a name. -/
def shownIn (accepted : Option Store) (name : Text) : Shown :=
  accepted.map fun s => (s.updating, s.get? name)

theorem shownIn_keep (accepted : Option Store) (name n : Text) :
    shownIn accepted n = if n = name then shownIn accepted name else shownIn accepted n := by
  split
  · next hn => rw [hn]
  · rfl

/-- The comparison of a case's lines, and what the store shows of the case's name after it. -/
def judged (c : CaseSpec) (lines : List Text) (shown : Shown) : Outcome (Option Text × Shown) :=
  match c.expected, shown with
  | some expected, shown =>
    .ok (if lines = expected then none else some (mismatch expected lines), shown)
  | none, some (updating, accepted) =>
    (Store.compared updating accepted lines).map fun r => (r.1, some (updating, some r.2))
  | none, none => .ok (none, none)

/-- A case is judged by what the store shows of its name, and changes no other name. -/
theorem judge_spec (c : CaseSpec) (lines : List Text) (accepted : Option Store) :
    (∃ m after shown, judge c lines accepted = .ok (m, after) ∧
      judged c lines (shownIn accepted c.name) = .ok (m, shown) ∧
      ∀ n, shownIn after n = if n = c.name then shown else shownIn accepted n) ∨
    ∃ fault, judge c lines accepted = .error fault ∧
      judged c lines (shownIn accepted c.name) = .error fault := by
  have hkeep := shownIn_keep accepted c.name
  unfold judge judged
  cases c.expected with
  | some expected => exact Or.inl ⟨_, accepted, _, rfl, rfl, hkeep⟩
  | none =>
      cases accepted with
      | none => exact Or.inl ⟨none, none, none, rfl, rfl, hkeep⟩
      | some s =>
          rcases s.check_spec c.name lines with ⟨m, vs, t, hcheck, hcompared, hupdating, hget⟩ |
            ⟨fault, hcheck, hcompared⟩
          · refine Or.inl ⟨m, some t, some (s.updating, some vs), ?_, ?_, fun n => ?_⟩
            · dsimp only
              rw [hcheck]
              rfl
            · show (Store.compared s.updating (s.get? c.name) lines).map _ = _
              rw [hcompared]
              rfl
            · show some (t.updating, t.get? n) = _
              rw [hupdating, hget]
              split <;> rfl
          · refine Or.inr ⟨fault, ?_, ?_⟩
            · dsimp only
              rw [hcheck]
              rfl
            · show (Store.compared s.updating (s.get? c.name) lines).map _ = _
              rw [hcompared]
              rfl

/-- The provider that a case is compiled with. -/
def ownProvider (c : CaseSpec) (p : Stub.Provider) : Outcome Stub.Provider :=
  if c.files.isEmpty then .ok p else p.fork.addAll c.files

/-- What a case comes to, and what the store shows of its name after it. -/
def outcome (compile : Stub.Provider → Text → Compilation) (c : CaseSpec) (p : Stub.Provider)
    (shown : Shown) : Outcome Verdict × Shown :=
  match ownProvider c p with
  | .error fault => (.error fault, shown)
  | .ok own =>
    match (compile own c.source).result with
    | .error fault => (Verdict.ofFault c fault, shown)
    | .ok result =>
      match judged c result.lines shown with
      | .error fault => (.error fault, shown)
      | .ok (m, shown) => (.ok (.ofResult c result m), shown)

variable {compile : Compiler} {w : Disk.Workspace} {p q : Stub.Provider}

theorem ownProvider_alike (c : CaseSpec) (h : Alike w p q) :
    (∃ p' q', ownProvider c p = .ok p' ∧ ownProvider c q = .ok q' ∧ Alike w p' q') ∨
      ∃ fault, ownProvider c p = .error fault ∧ ownProvider c q = .error fault := by
  unfold ownProvider
  split
  · exact Or.inl ⟨p, q, rfl, rfl, h⟩
  · exact Alike.addAll ((alike_fork w p).trans (h.trans (alike_fork w q).symm)) c.files

/-- **A case comes to the same with alike providers.** -/
theorem outcome_congr (hcompile : Observes w (compile w)) (h : Alike w p q) (c : CaseSpec)
    (shown : Shown) : outcome (compile w) c p shown = outcome (compile w) c q shown := by
  unfold outcome
  rcases ownProvider_alike c h with ⟨p', q', hp, hq, hown⟩ | ⟨fault, hp, hq⟩
  · rw [hp, hq]
    dsimp only
    rw [hcompile.result p' q' c.source hown.sameAnswers]
  · rw [hp, hq]

/-- The bench after a compilation that a case made with its own provider. -/
def Bench.after (b : Bench) (c : CaseSpec) (done : Compilation) : Bench :=
  if c.files.isEmpty then { b with provider := done.provider } else b

theorem accepted_after (b : Bench) (c : CaseSpec) (done : Compilation) :
    (b.after c done).accepted = b.accepted := by
  unfold Bench.after
  split <;> rfl

/-- A compilation leaves a provider that answers as before: it was loaded from, or it was not
touched. -/
theorem alike_after (hcompile : Observes w (compile w)) {c : CaseSpec} {b : Bench}
    {own : Stub.Provider} (hown : ownProvider c b.provider = .ok own) :
    Alike w (b.after c (compile w own c.source)).provider b.provider := by
  unfold ownProvider at hown
  unfold Bench.after
  split at hown
  · next hfiles =>
    cases hown
    rw [if_pos hfiles]
    obtain ⟨names, hnames⟩ := hcompile.loads b.provider c.source
    show Alike w (compile w b.provider c.source).provider b.provider
    rw [hnames]
    exact alike_loadAll w b.provider names
  · next hfiles =>
    rw [if_neg hfiles]
    exact Alike.refl w b.provider

/-- Running a case gives what it comes to, and changes what the store shows of its name only. -/
theorem run_outcome (compile : Compiler) (w : Disk.Workspace) (c : CaseSpec) (b : Bench) :
    (run compile w c b).1 = (outcome (compile w) c b.provider (shownIn b.accepted c.name)).1 ∧
      ∀ n, shownIn (run compile w c b).2.accepted n =
        if n = c.name then (outcome (compile w) c b.provider (shownIn b.accepted c.name)).2
        else shownIn b.accepted n := by
  have hkeep := shownIn_keep b.accepted c.name
  have hown : (if c.files.isEmpty then .ok b.provider else b.provider.fork.addAll c.files) =
      ownProvider c b.provider := rfl
  unfold run outcome
  dsimp only
  rw [hown]
  cases ownProvider c b.provider with
  | error fault => exact ⟨rfl, hkeep⟩
  | ok own =>
      have haccepted := accepted_after b c (compile w own c.source)
      have hafter : (if c.files.isEmpty then
          { b with provider := (compile w own c.source).provider } else b) =
          b.after c (compile w own c.source) := rfl
      dsimp only
      rw [hafter]
      generalize b.after c (compile w own c.source) = b' at haccepted ⊢
      cases (compile w own c.source).result with
      | error fault =>
          refine ⟨rfl, ?_⟩
          dsimp only
          rw [haccepted]
          exact hkeep
      | ok result =>
          dsimp only
          rw [haccepted]
          rcases judge_spec c result.lines b.accepted with
            ⟨m, after, shown, hjudge, hjudged, hshown⟩ | ⟨fault, hjudge, hjudged⟩
          · rw [hjudge, hjudged]
            exact ⟨rfl, hshown⟩
          · rw [hjudge, hjudged]
            refine ⟨rfl, ?_⟩
            dsimp only
            rw [haccepted]
            exact hkeep

/-- A case leaves the provider as it was, or as its compilation left it. -/
theorem provider_run (compile : Compiler) (w : Disk.Workspace) (c : CaseSpec) (b : Bench) :
    (run compile w c b).2.provider = b.provider ∨
      ∃ own, ownProvider c b.provider = .ok own ∧
        (run compile w c b).2.provider = (b.after c (compile w own c.source)).provider := by
  have hown' : (if c.files.isEmpty then .ok b.provider else b.provider.fork.addAll c.files) =
      ownProvider c b.provider := rfl
  unfold run
  dsimp only
  rw [hown']
  cases hown : ownProvider c b.provider with
  | error fault => exact Or.inl rfl
  | ok own =>
      refine Or.inr ⟨own, rfl, ?_⟩
      have hafter : (if c.files.isEmpty then
          { b with provider := (compile w own c.source).provider } else b) =
          b.after c (compile w own c.source) := rfl
      dsimp only
      rw [hafter]
      generalize b.after c (compile w own c.source) = b'
      cases (compile w own c.source).result with
      | error fault => rfl
      | ok result =>
          dsimp only
          cases judge c result.lines b'.accepted <;> rfl

/-- **What a case comes to hangs on the provider's answers and on its own name in the store.**
It changes neither the answers nor what is accepted for other names. -/
theorem run_spec (hcompile : Observes w (compile w)) (c : CaseSpec) (b : Bench) :
    (run compile w c b).1 = (outcome (compile w) c b.provider (shownIn b.accepted c.name)).1 ∧
      Alike w (run compile w c b).2.provider b.provider ∧
      ∀ n, shownIn (run compile w c b).2.accepted n =
        if n = c.name then (outcome (compile w) c b.provider (shownIn b.accepted c.name)).2
        else shownIn b.accepted n := by
  obtain ⟨hresult, hshown⟩ := run_outcome compile w c b
  refine ⟨hresult, ?_, hshown⟩
  rcases provider_run compile w c b with hsame | ⟨own, hown, hafter⟩
  · rw [hsame]
    exact Alike.refl w b.provider
  · rw [hafter]
    exact alike_after hcompile hown

/-! ## When a case has a verdict -/

/-- The checker breaks down in a case: compiling it ends in a fault that is none of the setup. -/
def Breaks (compile : Stub.Provider → Text → Compilation) (c : CaseSpec) (p : Stub.Provider) :
    Prop :=
  ∃ own fault, ownProvider c p = .ok own ∧ (compile own c.source).result = .error fault ∧
    fault.setupName? = none

theorem not_breaks_of_isOk {compile : Stub.Provider → Text → Compilation} {c : CaseSpec}
    {own : Stub.Provider} (hown : ownProvider c p = .ok own)
    (hok : (compile own c.source).result.isOk = true) : ¬ Breaks compile c p := by
  rintro ⟨own', fault, hown', hresult, -⟩
  obtain rfl : own = own' := Except.ok.inj (hown.symm.trans hown')
  rw [hresult] at hok
  cases hok

theorem ofFault_of_none {fault : Casebook.Fault} (h : fault.setupName? = none) (c : CaseSpec) :
    Verdict.ofFault c fault = .error fault := by
  unfold Verdict.ofFault
  rw [h]

theorem ofFault_of_some {fault : Casebook.Fault} {name : String} (h : fault.setupName? = some name)
    (c : CaseSpec) : ∃ v, Verdict.ofFault c fault = .ok v := by
  unfold Verdict.ofFault
  rw [h]
  exact ⟨_, rfl⟩

theorem outcome_of_breaks {c : CaseSpec} (h : Breaks (compile w) c p) (shown : Shown) :
    ∃ fault, (outcome (compile w) c p shown).1 = .error fault := by
  obtain ⟨own, fault, hown, hresult, hsetup⟩ := h
  unfold outcome
  rw [hown]
  dsimp only
  rw [hresult]
  exact ⟨fault, ofFault_of_none hsetup c⟩

theorem ownProvider_ok (c : CaseSpec) (hfiles : ∀ file ∈ c.files, file.1 ≠ "") (p : Stub.Provider) :
    ∃ own, ownProvider c p = .ok own := by
  unfold ownProvider
  split
  · exact ⟨p, rfl⟩
  · exact addAll_ok p.fork hfiles

/-- The store shows lines of text, if anything. -/
def Shown.HoldsLines (shown : Shown) : Prop :=
  ∀ updating vs, shown = some (updating, some vs) → ∀ v ∈ vs, Store.isText v = true

theorem judged_ok (c : CaseSpec) (lines : List Text) {shown : Shown} (h : shown.HoldsLines) :
    ∃ result, judged c lines shown = .ok result := by
  unfold judged
  cases c.expected with
  | some expected => exact ⟨_, rfl⟩
  | none =>
      cases shown with
      | none => exact ⟨_, rfl⟩
      | some known =>
          obtain ⟨updating, accepted⟩ := known
          have haccepted : ∀ vs, accepted = some vs → ∀ v ∈ vs, Store.isText v = true := by
            rintro vs rfl
            exact h updating vs rfl
          obtain ⟨result, hresult⟩ := Store.compared_ok updating haccepted lines
          dsimp only
          rw [hresult]
          exact ⟨_, rfl⟩

/-- Only a breakdown keeps a case without a verdict. -/
theorem outcome_ok {c : CaseSpec} (hfiles : ∀ file ∈ c.files, file.1 ≠ "") {shown : Shown}
    (hlines : shown.HoldsLines) (h : ¬ Breaks (compile w) c p) :
    ∃ v, (outcome (compile w) c p shown).1 = .ok v := by
  obtain ⟨own, hown⟩ := ownProvider_ok c hfiles p
  unfold outcome
  rw [hown]
  dsimp only
  cases hresult : (compile w own c.source).result with
  | error fault =>
      cases hsetup : fault.setupName? with
      | none => exact absurd ⟨own, fault, hown, hresult, hsetup⟩ h
      | some name => exact ofFault_of_some hsetup c
  | ok result =>
      obtain ⟨judgement, hjudged⟩ := judged_ok c result.lines hlines
      obtain ⟨m, after⟩ := judgement
      dsimp only
      rw [hjudged]
      exact ⟨_, rfl⟩

/-! ## All cases -/

theorem runAll_cons (c : CaseSpec) (cs : List CaseSpec) (b : Bench) :
    (∃ v, (run compile w c b).1 = .ok v ∧
      (runAll compile w (c :: cs) b).1 =
        ((runAll compile w cs (run compile w c b).2).1).map (v :: ·) ∧
      (runAll compile w (c :: cs) b).2 = (runAll compile w cs (run compile w c b).2).2) ∨
    ∃ fault, (run compile w c b).1 = .error fault ∧
      (runAll compile w (c :: cs) b).1 = .error fault := by
  rw [runAll]
  cases hrun : run compile w c b with
  | mk answer after =>
      cases answer with
      | ok v => exact Or.inl ⟨v, rfl, rfl, rfl⟩
      | error fault => exact Or.inr ⟨fault, rfl, rfl⟩

/-- **After any other cases a case comes to what it comes to alone.** -/
theorem outcome_after (hcompile : Observes w (compile w)) {b : Bench} {c d : CaseSpec}
    (hne : d.name ≠ c.name) :
    outcome (compile w) d (run compile w c b).2.provider
        (shownIn (run compile w c b).2.accepted d.name) =
      outcome (compile w) d b.provider (shownIn b.accepted d.name) := by
  obtain ⟨-, halike, hshown⟩ := run_spec hcompile c b
  rw [hshown, if_neg hne, outcome_congr hcompile halike]

theorem runAll_error (hcompile : Observes w (compile w)) {cs : List CaseSpec}
    (hnames : (cs.map CaseSpec.name).Nodup) {b : Bench} {c : CaseSpec} (hc : c ∈ cs)
    {fault : Casebook.Fault}
    (h : (outcome (compile w) c b.provider (shownIn b.accepted c.name)).1 = .error fault) :
    ∃ fault, (runAll compile w cs b).1 = .error fault := by
  induction cs generalizing b with
  | nil => cases hc
  | cons d cs ih =>
      rw [List.map_cons, List.nodup_cons] at hnames
      obtain ⟨hrun, -, -⟩ := run_spec hcompile d b
      rcases runAll_cons d cs b with ⟨v, hv, hall, -⟩ | ⟨fault', -, hall⟩
      · rcases List.mem_cons.mp hc with rfl | hc
        · rw [hrun, h] at hv
          cases hv
        · -- the first case changes nothing for a case of another name
          have hne : c.name ≠ d.name := fun heq => hnames.1 (heq ▸ List.mem_map_of_mem hc)
          rw [← outcome_after hcompile hne] at h
          obtain ⟨fault', hfault⟩ := ih hnames.2 hc h
          rw [hall, hfault]
          exact ⟨fault', rfl⟩
      · exact ⟨fault', hall⟩

/-- A run whose cases all have verdicts gives these, and what the store shows of a name after
it is what the case of that name leaves, or else what it showed before. -/
theorem runAll_ok (hcompile : Observes w (compile w)) {cs : List CaseSpec}
    (hnames : (cs.map CaseSpec.name).Nodup) {b : Bench} {verdict : CaseSpec → Verdict}
    (h : ∀ c ∈ cs,
      (outcome (compile w) c b.provider (shownIn b.accepted c.name)).1 = .ok (verdict c)) :
    (runAll compile w cs b).1 = .ok (cs.map verdict) ∧
      (∀ c ∈ cs, shownIn (runAll compile w cs b).2.accepted c.name =
        (outcome (compile w) c b.provider (shownIn b.accepted c.name)).2) ∧
      ∀ n, n ∉ cs.map CaseSpec.name →
        shownIn (runAll compile w cs b).2.accepted n = shownIn b.accepted n := by
  induction cs generalizing b with
  | nil => exact ⟨rfl, by simp, fun n _ => rfl⟩
  | cons d cs ih =>
      rw [List.map_cons, List.nodup_cons] at hnames
      obtain ⟨hd, hcs⟩ := List.forall_mem_cons.mp h
      obtain ⟨hrun, -, hshown⟩ := run_spec hcompile d b
      have hne : ∀ c ∈ cs, c.name ≠ d.name := fun c hc heq =>
        hnames.1 (heq ▸ List.mem_map_of_mem hc)
      obtain ⟨hall, hcase, hother⟩ := ih hnames.2 (b := (run compile w d b).2) fun c hc => by
        rw [outcome_after hcompile (hne c hc)]
        exact hcs c hc
      rcases runAll_cons d cs b with ⟨v, hv, hverdicts, hafter⟩ | ⟨fault, hv, -⟩
      · rw [hrun, hd] at hv
        cases hv
        refine ⟨?_, ?_, ?_⟩
        · rw [hverdicts, hall]
          rfl
        · rw [hafter]
          refine List.forall_mem_cons.mpr ⟨?_, fun c hc => ?_⟩
          · -- no later case has the name of the first one
            rw [hother d.name hnames.1, hshown, if_pos rfl]
          · rw [hcase c hc, outcome_after hcompile (hne c hc)]
        · intro n hn
          rw [List.map_cons, List.mem_cons, not_or] at hn
          rw [hafter, hother n hn.2, hshown, if_neg hn.1]
      · rw [hrun, hd] at hv
        cases hv

/-! ## Any order -/

/-- What is accepted for a name. -/
def Bench.stored (b : Bench) (name : Text) : Option (List Value) :=
  b.accepted.bind (·.get? name)

theorem stored_of_shownIn {b b' : Bench} {name : Text}
    (h : shownIn b.accepted name = shownIn b'.accepted name) : b.stored name = b'.stored name := by
  have hstored : ∀ b : Bench, b.stored name = (shownIn b.accepted name).bind Prod.snd := by
    intro b
    unfold Bench.stored shownIn
    cases b.accepted <;> rfl
  rw [hstored, hstored, h]

theorem holdsLines_shownIn {accepted : Option Store} (h : ∀ s, accepted = some s → s.HoldsLines)
    (name : Text) : (shownIn accepted name).HoldsLines := by
  intro updating vs hshown
  cases accepted with
  | none => cases hshown
  | some s =>
      obtain ⟨-, hget⟩ := Prod.mk.inj (Option.some.inj hshown)
      exact h s rfl name vs hget

/-- **The order of cases does not matter, unless the checker breaks down in one of them.** Then the
run fails in any order; else every case has the verdict that it has alone, and the same is
accepted for every name. -/
theorem order_independent (hcompile : Observes w (compile w)) {cs cs' : List CaseSpec}
    (hperm : cs.Perm cs') (hnames : (cs.map CaseSpec.name).Nodup)
    (hfiles : ∀ c ∈ cs, ∀ file ∈ c.files, file.1 ≠ "") {b : Bench}
    (hlines : ∀ s, b.accepted = some s → s.HoldsLines) :
    ((∃ c ∈ cs, Breaks (compile w) c b.provider) →
      (∃ fault, (runAll compile w cs b).1 = .error fault) ∧
        ∃ fault, (runAll compile w cs' b).1 = .error fault) ∧
    ((∀ c ∈ cs, ¬ Breaks (compile w) c b.provider) → ∃ verdict : CaseSpec → Verdict,
      (∀ c ∈ cs, (run compile w c b).1 = .ok (verdict c)) ∧
      (runAll compile w cs b).1 = .ok (cs.map verdict) ∧
      (runAll compile w cs' b).1 = .ok (cs'.map verdict) ∧
      ∀ name, (runAll compile w cs b).2.stored name = (runAll compile w cs' b).2.stored name) := by
  have hnames' : (cs'.map CaseSpec.name).Nodup := (hperm.map CaseSpec.name).nodup_iff.mp hnames
  constructor
  · rintro ⟨c, hc, hbreaks⟩
    obtain ⟨fault, hfault⟩ := outcome_of_breaks hbreaks (shownIn b.accepted c.name)
    exact ⟨runAll_error hcompile hnames hc hfault,
      runAll_error hcompile hnames' (hperm.mem_iff.mp hc) hfault⟩
  · intro hwhole
    have hok : ∀ c, c ∈ cs → ∃ v,
        (outcome (compile w) c b.provider (shownIn b.accepted c.name)).1 = .ok v := fun c hc =>
      outcome_ok (hfiles c hc) (holdsLines_shownIn hlines c.name) (hwhole c hc)
    have hverdict : Nonempty Verdict := ⟨⟨"", .passed, none, [], none, none⟩⟩
    choose! verdict hverdict using hok
    obtain ⟨hall, hcase, hother⟩ := runAll_ok hcompile hnames hverdict
    obtain ⟨hall', hcase', hother'⟩ := runAll_ok hcompile hnames' fun c hc =>
      hverdict c (hperm.mem_iff.mpr hc)
    refine ⟨verdict, fun c hc => ?_, hall, hall', fun name => stored_of_shownIn ?_⟩
    · rw [(run_spec hcompile c b).1]
      exact hverdict c hc
    · by_cases hname : name ∈ cs.map CaseSpec.name
      · obtain ⟨c, hc, rfl⟩ := List.mem_map.mp hname
        rw [hcase c hc, hcase' c (hperm.mem_iff.mp hc)]
      · have hname' : name ∉ cs'.map CaseSpec.name := fun hmem =>
          hname ((hperm.map CaseSpec.name).mem_iff.mpr hmem)
        rw [hother name hname, hother' name hname']

/-- A checker that reports what is in one file. -/
def reporting : Compiler :=
  Frontend.compile (fun p => .ask (.read (p.root ++ "/a")) fun answer =>
    match answer.bind decodeBytes with
    | .error fault => .failed fault
    | .ok text => .report [text] .finished) ⟨.usual, "/m"⟩

/-- A provider of that file. -/
def oneFile : Stub.Provider := ⟨"", ⟨[("a", .synthetic)]⟩, ⟨[("a", "x")], 0⟩⟩

/-- A case that shares the file. -/
def sharing : CaseSpec := ⟨"shared", "", [], none⟩

/-- A case that puts a file of its own in its place. -/
def replacing : CaseSpec := ⟨"own", "", [("a", "y")], none⟩

theorem not_breaks_sharing : ¬ Breaks (reporting ⟨.folder [], []⟩) sharing oneFile := by
  have hown : ownProvider sharing oneFile = .ok oneFile := rfl
  exact not_breaks_of_isOk hown (by cbv)

theorem not_breaks_replacing : ¬ Breaks (reporting ⟨.folder [], []⟩) replacing oneFile := by
  have hown : ownProvider replacing oneFile = .ok (oneFile.put "a" "y") := rfl
  exact not_breaks_of_isOk hown (by cbv)

/-- A store without any lines. -/
def emptyStore : Store := ⟨⟨.relative, []⟩, false, [], false⟩

theorem holdsLines_emptyStore : emptyStore.HoldsLines := by
  intro name vs hvs
  cases hvs

/-- The case that shares the file has its text in either order, although the other case replaces
it. -/
theorem order_independent_replaced : ∃ verdict : CaseSpec → Verdict,
    (runAll reporting ⟨.folder [], []⟩ [sharing, replacing] ⟨oneFile, some emptyStore⟩).1 =
        .ok [verdict sharing, verdict replacing] ∧
      (runAll reporting ⟨.folder [], []⟩ [replacing, sharing] ⟨oneFile, some emptyStore⟩).1 =
        .ok [verdict replacing, verdict sharing] ∧
      (verdict sharing).lines = ["error: x"] ∧
      ∀ name, (runAll reporting ⟨.folder [], []⟩ [sharing, replacing]
          ⟨oneFile, some emptyStore⟩).2.stored name =
        (runAll reporting ⟨.folder [], []⟩ [replacing, sharing]
          ⟨oneFile, some emptyStore⟩).2.stored name := by
  have hcompile : Observes ⟨.folder [], []⟩ (reporting ⟨.folder [], []⟩) := observes_compile _ _ _
  have hperm : List.Perm [sharing, replacing] [replacing, sharing] := List.Perm.swap _ _ _
  have hlines : ∀ s, (Bench.mk oneFile (some emptyStore)).accepted = some s → s.HoldsLines := by
    rintro s hs
    cases hs
    exact holdsLines_emptyStore
  have hwhole : ∀ c ∈ [sharing, replacing], ¬ Breaks (reporting ⟨.folder [], []⟩) c oneFile :=
    List.forall_mem_cons.mpr
      ⟨not_breaks_sharing, List.forall_mem_singleton.mpr not_breaks_replacing⟩
  obtain ⟨verdict, halone, hall, hall', hstored⟩ :=
    (order_independent hcompile hperm (by decide) (by decide) hlines).2 hwhole
  refine ⟨verdict, hall, hall', ?_, hstored⟩
  have hshared : (run reporting ⟨.folder [], []⟩ sharing ⟨oneFile, some emptyStore⟩).1.map
      Verdict.lines = .ok ["error: x"] := by cbv
  rw [halone sharing List.mem_cons_self] at hshared
  exact Except.ok.inj hshared

/-- A checker that does what its sources tell it to. -/
def scripted : Compiler := Frontend.compile Script.build ⟨.usual, "/m"⟩

/-- A case in which it breaks down. -/
def breaking : CaseSpec := ⟨"breaks", "#crash boom", [], none⟩

/-- A case in which it reports one line. -/
def speaking : CaseSpec := ⟨"fine", "#emit main:1: error: X", [], none⟩

/-- A breakdown ends a run, so what is accepted hangs on which cases came before it. -/
theorem order_matters_at_breakdown : ∃ (compile : Compiler) (w : Disk.Workspace)
    (cs cs' : List CaseSpec) (b : Bench), Observes w (compile w) ∧ cs.Perm cs' ∧
      (cs.map CaseSpec.name).Nodup ∧ (∀ c ∈ cs, ∀ file ∈ c.files, file.1 ≠ "") ∧
      b.provider.Reachable [("a", "x")] ∧ (∀ s, b.accepted = some s → s.HoldsLines) ∧
      ∃ name, (runAll compile w cs b).2.stored name ≠ (runAll compile w cs' b).2.stored name := by
  have hfiles : ofFiles ⟨.folder [], []⟩ "" [] [("a", "x")] = .ok oneFile := by cbv
  have hreach : oneFile.Reachable _ := ⟨_, _, _, _, _, [], hfiles, rfl, rfl⟩
  have hlost : (runAll scripted ⟨.folder [], []⟩ [breaking, speaking]
      ⟨oneFile, some emptyStore⟩).2.stored "fine" = none := by cbv
  have hkept : (runAll scripted ⟨.folder [], []⟩ [speaking, breaking]
      ⟨oneFile, some emptyStore⟩).2.stored "fine" = some [.text "main:1: error: X"] := by cbv
  refine ⟨scripted, ⟨.folder [], []⟩, [breaking, speaking], [speaking, breaking],
    ⟨oneFile, some emptyStore⟩, observes_compile _ _ _, List.Perm.swap _ _ _, by decide,
    by decide, hreach, ?_, "fine", ?_⟩
  · rintro s hs
    cases hs
    exact holdsLines_emptyStore
  · rw [hlost, hkept]
    simp

end Casebook.Case

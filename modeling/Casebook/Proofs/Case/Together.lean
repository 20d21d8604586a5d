import Casebook.Proofs.Case.Order

/-!
# Documents run together

The command `run` runs documents one after the other, with one store for all of them, and the store
knows cases by their names alone. Main statement (`documents_pass_together`): documents that pass
one by one, each with a store of its own, pass together exactly if no two cases that are compared
with the store have the same name and report different lines, in whichever documents they stand.
Two documents that use a name for different cases do not pass together
(`documents_share_names`).
-/

namespace Casebook.Case

open Checker Stub.Provider Snapshot

/-- Runs documents in order, one after the other. A fault that nobody handles ends the run. -/
def runDocuments (compile : Compiler) (w : Disk.Workspace) :
    List CaseDocument → Bench → Outcome (List Verdict) × Bench
  | [], b => (.ok [], b)
  | d :: ds, b =>
    match runAll compile w d.cases b with
    | (.error fault, b) => (.error fault, b)
    | (.ok vs, b) =>
      let (us, b) := runDocuments compile w ds b
      (us.map (vs ++ ·), b)

/-- All cases have a verdict, and have passed. -/
def AllPassed (verdicts : Outcome (List Verdict)) : Prop :=
  ∃ vs, verdicts = .ok vs ∧ ∀ v ∈ vs, v.status = .passed

/-- A store that is not updating and has accepted nothing yet. -/
def freshStore (path : Disk.Path) : Store := ⟨path, false, [], false⟩

/-- The lines that a case reports, compiled with the stub files of a provider. -/
def reported (compile : Stub.Provider → Text → Compilation) (p : Stub.Provider) (c : CaseSpec) :
    Outcome (List Text) := do
  let own ← ownProvider c p
  return (← (compile own c.source).result).lines

variable {compile : Compiler} {w : Disk.Workspace} {b : Bench} {c : CaseSpec} {cs : List CaseSpec}

/-! ## Runs of all cases -/

theorem runAll_append_error {b b' : Bench} {fault : Casebook.Fault}
    (h : runAll compile w cs b = (.error fault, b')) (ds : List CaseSpec) :
    runAll compile w (cs ++ ds) b = (.error fault, b') := by
  induction cs generalizing b with
  | nil => cases h
  | cons c cs ih =>
      rw [runAll] at h
      rw [List.cons_append, runAll]
      cases hrun : run compile w c b with
      | mk answer after =>
          rw [hrun] at h
          cases answer with
          | error fault => exact h
          | ok v =>
              dsimp only at h ⊢
              cases hrest : runAll compile w cs after with
              | mk rest last =>
                  rw [hrest] at h
                  dsimp only at h
                  obtain ⟨hfault, rfl⟩ := Prod.mk.inj h
                  cases rest with
                  | ok vs => cases hfault
                  | error fault =>
                      obtain rfl := Except.error.inj hfault
                      rw [ih hrest]
                      rfl

theorem runAll_append_ok {b b' : Bench} {vs : List Verdict}
    (h : runAll compile w cs b = (.ok vs, b')) (ds : List CaseSpec) :
    runAll compile w (cs ++ ds) b =
      ((runAll compile w ds b').1.map (vs ++ ·), (runAll compile w ds b').2) := by
  induction cs generalizing b vs with
  | nil =>
      obtain ⟨hvs, rfl⟩ := Prod.mk.inj h
      obtain rfl := Except.ok.inj hvs
      rw [List.nil_append]
      cases hds : runAll compile w ds b with
      | mk answer after => cases answer <;> rfl
  | cons c cs ih =>
      rw [runAll] at h
      rw [List.cons_append, runAll]
      cases hrun : run compile w c b with
      | mk answer after =>
          rw [hrun] at h
          cases answer with
          | error fault => cases h
          | ok v =>
              dsimp only at h ⊢
              cases hrest : runAll compile w cs after with
              | mk rest last =>
                  rw [hrest] at h
                  dsimp only at h
                  obtain ⟨hvs, rfl⟩ := Prod.mk.inj h
                  cases rest with
                  | error fault => cases hvs
                  | ok us =>
                      obtain rfl := Except.ok.inj hvs
                      rw [ih hrest]
                      dsimp only
                      cases (runAll compile w ds last).1 <;> rfl

/-- Running documents is running all their cases. -/
theorem runDocuments_eq (ds : List CaseDocument) (b : Bench) :
    runDocuments compile w ds b = runAll compile w (ds.flatMap CaseDocument.cases) b := by
  induction ds generalizing b with
  | nil => rfl
  | cons d ds ih =>
      rw [List.flatMap_cons, runDocuments]
      cases hd : runAll compile w d.cases b with
      | mk answer after =>
          cases answer with
          | error fault => rw [runAll_append_error hd]
          | ok vs =>
              dsimp only
              rw [ih, runAll_append_ok hd]

theorem allPassed_nil : AllPassed (.ok []) := ⟨[], rfl, by simp⟩

theorem allPassed_cons {v : Verdict} {verdicts : Outcome (List Verdict)} :
    AllPassed (verdicts.map (v :: ·)) ↔ v.status = .passed ∧ AllPassed verdicts := by
  constructor
  · rintro ⟨vs, heq, hvs⟩
    cases verdicts with
    | error fault => cases heq
    | ok us =>
        cases heq
        obtain ⟨hv, hus⟩ := List.forall_mem_cons.mp hvs
        exact ⟨hv, us, rfl, hus⟩
  · rintro ⟨hv, vs, rfl, hvs⟩
    exact ⟨v :: vs, rfl, List.forall_mem_cons.mpr ⟨hv, hvs⟩⟩

theorem allPassed_runAll_cons (c : CaseSpec) (cs : List CaseSpec) (b : Bench) :
    AllPassed (runAll compile w (c :: cs) b).1 ↔
      (∃ v, (run compile w c b).1 = .ok v ∧ v.status = .passed) ∧
        AllPassed (runAll compile w cs (run compile w c b).2).1 := by
  rcases @runAll_cons compile w c cs b with ⟨v, hv, hall, -⟩ | ⟨fault, hv, hall⟩
  · rw [hall, hv, allPassed_cons]
    simp
  · rw [hall, hv]
    constructor
    · rintro ⟨vs, heq, -⟩
      cases heq
    · rintro ⟨⟨v, heq, -⟩, -⟩
      cases heq

/-! ## One case -/

theorem agree_texts (ks ls : List Text) : Store.agree (ks.map Value.text) ls = true ↔ ks = ls := by
  induction ks generalizing ls with
  | nil => cases ls <;> simp [Store.agree]
  | cons k ks ih =>
      cases ls with
      | nil => simp [Store.agree]
      | cons l ls => simp [Store.agree, ih]

theorem compared_same (ks : List Text) :
    Store.compared false (some (ks.map Value.text)) ks = .ok (none, ks.map Value.text) :=
  if_pos ((agree_texts ks ks).mpr rfl)

theorem compared_other {ks lines : List Text} (h : ks ≠ lines) :
    ∃ m, Store.compared false (some (ks.map Value.text)) lines = .ok (some m, ks.map Value.text) := by
  have htexts : ∀ v ∈ ks.map Value.text, Store.isText v = true := by simp [Store.isText]
  unfold Store.compared Store.mismatch
  dsimp only
  rw [if_neg (fun hagree => h ((agree_texts ks lines).mp hagree)), if_neg Bool.false_ne_true,
    Store.texts_ok htexts]
  exact ⟨_, rfl⟩

/-- Lines are what a case expects, or else what is known, if anything is. -/
def Suits (c : CaseSpec) (lines : List Text) (known : Option (List Text)) : Prop :=
  match c.expected with
  | some expected => lines = expected
  | none => ∀ ks, known = some ks → ks = lines

/-- What is known after a case that has passed. -/
def knownAfter (c : CaseSpec) (lines : List Text) (known : Option (List Text)) :
    Option (List Text) :=
  if c.expected.isNone then some lines else known

/-- What a store shows that is not updating and where these lines are known. -/
def shownLines (known : Option (List Text)) : Shown := some (false, known.map (List.map Value.text))

theorem judged_shownLines (c : CaseSpec) (lines : List Text) (known : Option (List Text)) :
    ∃ m shown, judged c lines (shownLines known) = .ok (m, shown) ∧
      (m = none ↔ Suits c lines known) ∧
      (Suits c lines known → shown = shownLines (knownAfter c lines known)) := by
  unfold judged Suits knownAfter shownLines
  cases c.expected with
  | some expected =>
      refine ⟨_, _, rfl, ?_, fun _ => rfl⟩
      dsimp only
      split <;> simp [*]
  | none =>
      cases known with
      | none => exact ⟨none, _, rfl, by simp, fun _ => rfl⟩
      | some ks =>
          by_cases heq : ks = lines
          · subst heq
            refine ⟨none, some (false, some (ks.map Value.text)), ?_, by simp, fun _ => rfl⟩
            dsimp only [Option.map_some]
            rw [compared_same]
            rfl
          · obtain ⟨m, hm⟩ := compared_other heq
            refine ⟨some m, some (false, some (ks.map Value.text)), ?_, by simp [heq],
              fun hall => absurd (hall ks rfl) heq⟩
            dsimp only [Option.map_some]
            rw [hm]
            rfl

/-- **A case passes if its lines are what it expects, or else what is known for its name.** -/
theorem outcome_passed_iff (compile : Stub.Provider → Text → Compilation) (c : CaseSpec)
    (p : Stub.Provider) (known : Option (List Text)) :
    (∃ v, (outcome compile c p (shownLines known)).1 = .ok v ∧ v.status = .passed) ↔
      ∃ lines, reported compile p c = .ok lines ∧ Suits c lines known := by
  unfold outcome reported
  cases ownProvider c p with
  | error fault => simp [bind, Except.bind]
  | ok own =>
      simp only [bind, Except.bind]
      cases (compile own c.source).result with
      | error fault =>
          -- a case that is not compiled has the status of an error, if the fault is handled at all
          have hfault : ∀ v, Verdict.ofFault c fault = .ok v → v.status = .error := by
            intro v hv
            unfold Verdict.ofFault at hv
            split at hv
            · cases hv
              rfl
            · cases hv
          constructor
          · rintro ⟨v, hv, hpassed⟩
            rw [hfault v hv] at hpassed
            cases hpassed
          · rintro ⟨lines, heq, -⟩
            cases heq
      | ok result =>
          obtain ⟨m, shown, hjudged, hnone, -⟩ := judged_shownLines c result.lines known
          dsimp only
          rw [hjudged]
          simp only [pure, Except.pure, Except.ok.injEq, exists_eq_left', Verdict.ofResult]
          rw [← hnone]
          cases m <;> simp

/-- What the store shows after a case that has passed. -/
theorem outcome_shown {compile : Stub.Provider → Text → Compilation} {p : Stub.Provider}
    {lines : List Text} {known : Option (List Text)} (hreported : reported compile p c = .ok lines)
    (hsuits : Suits c lines known) :
    (outcome compile c p (shownLines known)).2 = shownLines (knownAfter c lines known) := by
  unfold reported at hreported
  unfold outcome
  cases hown : ownProvider c p with
  | error fault =>
      rw [hown] at hreported
      cases hreported
  | ok own =>
      rw [hown] at hreported
      simp only [bind, Except.bind] at hreported
      dsimp only
      cases hresult : (compile own c.source).result with
      | error fault =>
          rw [hresult] at hreported
          cases hreported
      | ok result =>
          rw [hresult] at hreported
          obtain rfl := Except.ok.inj hreported
          obtain ⟨m, shown, hjudged, -, hafter⟩ := judged_shownLines c result.lines known
          dsimp only
          rw [hjudged]
          exact hafter hsuits

theorem reported_congr (hcompile : Observes w (compile w)) {p q : Stub.Provider} (h : Alike w p q)
    (c : CaseSpec) : reported (compile w) p c = reported (compile w) q c := by
  unfold reported
  rcases ownProvider_alike c h with ⟨p', q', hp, hq, hown⟩ | ⟨fault, hp, hq⟩
  · rw [hp, hq]
    simp only [bind, Except.bind, hcompile.result p' q' c.source hown.sameAnswers]
  · rw [hp, hq]

/-! ## All cases -/

/-- The cases that are compared with the store report the same lines under the same name. -/
def AgreeByName (compile : Stub.Provider → Text → Compilation) (p : Stub.Provider)
    (cs : List CaseSpec) : Prop :=
  ∀ c ∈ cs, ∀ d ∈ cs, c.expected = none → d.expected = none → c.name = d.name →
    reported compile p c = reported compile p d

/-- The first of the cases agrees with the others, and these with each other. -/
theorem agreeByName_cons {compile : Stub.Provider → Text → Compilation} {p : Stub.Provider}
    {d : CaseSpec} :
    AgreeByName compile p (d :: cs) ↔
      (∀ c ∈ cs, c.expected = none → d.expected = none → c.name = d.name →
        reported compile p d = reported compile p c) ∧ AgreeByName compile p cs := by
  constructor
  · intro h
    refine ⟨fun c hc hnone hnone' hname => ?_, fun c hc e he => ?_⟩
    · exact h d List.mem_cons_self c (List.mem_cons_of_mem d hc) hnone' hnone hname.symm
    · exact h c (List.mem_cons_of_mem d hc) e (List.mem_cons_of_mem d he)
  · -- each of the two cases is the first one or one of the others
    rintro ⟨hfirst, hrest⟩ c hc e he hnone hnone' hname
    rcases List.mem_cons.mp hc with hcd | hc'
    · rcases List.mem_cons.mp he with hed | he'
      · rw [hcd, hed]
      · rw [hcd] at hnone hname ⊢
        exact hfirst e he' hnone' hnone hname.symm
    · rcases List.mem_cons.mp he with hed | he'
      · rw [hed] at hnone' hname ⊢
        exact (hfirst c hc' hnone hnone' hname).symm
      · exact hrest c hc' e he' hnone hnone' hname

/-- After a case that has passed, another suits what is known if it did before and, where both are
compared with the store under one name, reports the same lines. -/
theorem suits_after_iff {d : CaseSpec} {lines ls : List Text} {known : Text → Option (List Text)}
    (hsuits : Suits d lines (known d.name)) :
    Suits c ls (if c.name = d.name then knownAfter d lines (known d.name) else known c.name) ↔
      Suits c ls (known c.name) ∧
        (c.expected = none → d.expected = none → c.name = d.name → lines = ls) := by
  unfold Suits knownAfter at *
  by_cases hname : c.name = d.name
  · rw [if_pos hname, hname]
    cases hc : c.expected with
    | some expected => simp
    | none =>
        cases hd : d.expected with
        | some expected => simp
        | none =>
            rw [hd] at hsuits
            dsimp only at hsuits ⊢
            -- what was known before is what the first case reports
            constructor
            · intro h
              have heq : lines = ls := h lines rfl
              exact ⟨fun ks hks => (hsuits ks hks).trans heq, fun _ _ _ => heq⟩
            · rintro ⟨-, heq⟩ ks hks
              cases hks
              exact heq rfl rfl rfl
  · rw [if_neg hname]
    exact ⟨fun h => ⟨h, fun _ _ heq => absurd heq hname⟩, And.left⟩

/-- **All cases pass** exactly if each of them suits what is known at first, and those that are
compared with the store agree by name. -/
theorem allPassed_iff (hcompile : Observes w (compile w)) {known : Text → Option (List Text)}
    (hshown : ∀ name, shownIn b.accepted name = shownLines (known name)) :
    AllPassed (runAll compile w cs b).1 ↔
      (∀ c ∈ cs, ∃ lines, reported (compile w) b.provider c = .ok lines ∧
        Suits c lines (known c.name)) ∧ AgreeByName (compile w) b.provider cs := by
  induction cs generalizing b known with
  | nil => exact ⟨fun _ => ⟨by simp, fun c hc => by cases hc⟩, fun _ => allPassed_nil⟩
  | cons d cs ih =>
      obtain ⟨hrun, halike, hafter⟩ := run_spec hcompile d b
      rw [hshown] at hrun hafter
      have hfirst := outcome_passed_iff (compile w) d b.provider (known d.name)
      rw [← hrun] at hfirst
      -- where the first case passes, its lines are known from then on
      have hrest : ∀ {lines}, reported (compile w) b.provider d = .ok lines →
          Suits d lines (known d.name) → (AllPassed (runAll compile w cs (run compile w d b).2).1 ↔
            (∀ c ∈ cs, ∃ ls, reported (compile w) b.provider c = .ok ls ∧
              Suits c ls (known c.name) ∧
              (c.expected = none → d.expected = none → c.name = d.name → lines = ls)) ∧
            AgreeByName (compile w) b.provider cs) := by
        intro lines hlines hsuits
        have hknown : ∀ name, shownIn (run compile w d b).2.accepted name = shownLines
            (if name = d.name then knownAfter d lines (known d.name) else known name) := by
          intro name
          rw [hafter]
          split
          · exact outcome_shown hlines hsuits
          · exact hshown name
        rw [ih hknown]
        simp only [AgreeByName, reported_congr hcompile halike, suits_after_iff hsuits]
      rw [allPassed_runAll_cons, hfirst, List.forall_mem_cons, agreeByName_cons]
      constructor
      · rintro ⟨⟨lines, hlines, hsuits⟩, hpassed⟩
        obtain ⟨hcs, hagree⟩ := (hrest hlines hsuits).mp hpassed
        refine ⟨⟨⟨lines, hlines, hsuits⟩, fun c hc => ?_⟩, fun c hc hnone hnone' hname => ?_, hagree⟩
        · obtain ⟨ls, hls, hsuit, -⟩ := hcs c hc
          exact ⟨ls, hls, hsuit⟩
        · obtain ⟨ls, hls, -, heq⟩ := hcs c hc
          rw [hlines, hls, heq hnone hnone' hname]
      · rintro ⟨⟨⟨lines, hlines, hsuits⟩, hcs⟩, hsame, hagree⟩
        refine ⟨⟨lines, hlines, hsuits⟩, (hrest hlines hsuits).mpr ⟨fun c hc => ?_, hagree⟩⟩
        obtain ⟨ls, hls, hsuit⟩ := hcs c hc
        refine ⟨ls, hls, hsuit, fun hnone hnone' hname => ?_⟩
        have heq := hsame c hc hnone hnone' hname
        rw [hlines, hls] at heq
        exact Except.ok.inj heq

theorem shownIn_freshStore (path : Disk.Path) (name : Text) :
    shownIn (some (freshStore path)) name = shownLines none := rfl

/-- **Documents pass together** if each of them passes alone, with a store of its own, exactly where
the cases that are compared with the store agree by name, also across documents. -/
theorem documents_pass_together (hcompile : Observes w (compile w)) {p : Stub.Provider}
    {ds : List CaseDocument}
    (halone : ∀ d ∈ ds, ∃ path, AllPassed (runAll compile w d.cases ⟨p, some (freshStore path)⟩).1)
    (path : Disk.Path) :
    AllPassed (runDocuments compile w ds ⟨p, some (freshStore path)⟩).1 ↔
      AgreeByName (compile w) p (ds.flatMap CaseDocument.cases) := by
  rw [runDocuments_eq, allPassed_iff hcompile (shownIn_freshStore path)]
  refine ⟨And.right, fun hagree => ⟨fun c hc => ?_, hagree⟩⟩
  obtain ⟨d, hd, hc⟩ := List.mem_flatMap.mp hc
  obtain ⟨own, halone⟩ := halone d hd
  exact ((allPassed_iff hcompile (shownIn_freshStore own)).mp halone).1 c hc

/-- A document with one case, which reports a line and is compared with the store. -/
def saying (name line : Text) : CaseDocument :=
  ⟨CaseDocument.defaultVersion, [⟨name, "#emit " ++ line ++ "\n", [], none⟩]⟩

theorem reported_saying_x (name : Text) :
    ∀ c ∈ (saying name "X").cases, reported (scripted ⟨.folder [], []⟩) oneFile c =
      .ok ["error: X"] := by
  refine List.forall_mem_singleton.mpr ?_
  cbv

theorem reported_saying_y (name : Text) :
    ∀ c ∈ (saying name "Y").cases, reported (scripted ⟨.folder [], []⟩) oneFile c =
      .ok ["error: Y"] := by
  refine List.forall_mem_singleton.mpr ?_
  cbv

/-- Alone, such a document passes. -/
theorem allPassed_saying {name line reports : Text}
    (h : ∀ c ∈ (saying name line).cases, reported (scripted ⟨.folder [], []⟩) oneFile c =
      .ok [reports]) (path : Disk.Path) :
    AllPassed (runAll scripted ⟨.folder [], []⟩ (saying name line).cases
      ⟨oneFile, some (freshStore path)⟩).1 := by
  refine (allPassed_iff (observes_compile _ _ _) (shownIn_freshStore path)).mpr
    ⟨fun c hc => ⟨_, h c hc, ?_⟩, fun c hc d hd _ _ _ => (h c hc).trans (h d hd).symm⟩
  obtain rfl := List.mem_singleton.mp hc
  rintro ks ⟨⟩

/-- A name that is used twice for the same line does no harm. -/
theorem documents_pass_together_same : AllPassed (runDocuments scripted ⟨.folder [], []⟩
    [saying "a" "X", saying "b" "Y", saying "a" "X"] ⟨oneFile, some (freshStore ⟨.relative, []⟩)⟩).1 := by
  have halone : ∀ d ∈ [saying "a" "X", saying "b" "Y", saying "a" "X"], ∃ path,
      AllPassed (runAll scripted ⟨.folder [], []⟩ d.cases ⟨oneFile, some (freshStore path)⟩).1 := by
    have hx := allPassed_saying (reported_saying_x "a") ⟨.relative, []⟩
    have hy := allPassed_saying (reported_saying_y "b") ⟨.relative, []⟩
    simp only [List.forall_mem_cons]
    exact ⟨⟨_, hx⟩, ⟨_, hy⟩, ⟨_, hx⟩, by simp⟩
  refine (documents_pass_together (observes_compile _ _ _) halone ⟨.relative, []⟩).mpr ?_
  rintro c hc d hd - - hname
  have hcases : ∀ e ∈ [saying "a" "X", saying "b" "Y", saying "a" "X"].flatMap CaseDocument.cases,
      e = ⟨"a", "#emit X\n", [], none⟩ ∨ e = ⟨"b", "#emit Y\n", [], none⟩ := by decide
  rcases hcases c hc with rfl | rfl <;> rcases hcases d hd with rfl | rfl
  · rfl
  · exact absurd hname (by decide)
  · exact absurd hname (by decide)
  · rfl

/-- **Two documents can use one name for different cases.** Each of them passes alone, but the second
is compared with what the first has left in the store. -/
theorem documents_share_names : ∃ (compile : Compiler) (w : Disk.Workspace) (p : Stub.Provider)
    (ds : List CaseDocument) (path : Disk.Path), Observes w (compile w) ∧
      (∀ d ∈ ds, ∃ text, parse text = .ok d) ∧
      (∀ d ∈ ds, AllPassed (runAll compile w d.cases ⟨p, some (freshStore path)⟩).1) ∧
      ¬ AllPassed (runDocuments compile w ds ⟨p, some (freshStore path)⟩).1 := by
  have hx : parse "[case a]\n#emit X\n".toList = .ok (saying "a" "X") := by cbv
  have hy : parse "[case a]\n#emit Y\n".toList = .ok (saying "a" "Y") := by cbv
  have hobserves : Observes ⟨.folder [], []⟩ (scripted ⟨.folder [], []⟩) := observes_compile _ _ _
  refine ⟨scripted, ⟨.folder [], []⟩, oneFile, [saying "a" "X", saying "a" "Y"], ⟨.relative, []⟩,
    hobserves, ?_, ?_, ?_⟩
  · simp only [List.forall_mem_cons]
    exact ⟨⟨_, hx⟩, ⟨_, hy⟩, by simp⟩
  · simp only [List.forall_mem_cons]
    exact ⟨allPassed_saying (reported_saying_x "a") _, allPassed_saying (reported_saying_y "a") _,
      by simp⟩
  · rw [runDocuments_eq, allPassed_iff hobserves (shownIn_freshStore _)]
    rintro ⟨-, hagree⟩
    have hsame := hagree ⟨"a", "#emit X\n", [], none⟩ (by decide) ⟨"a", "#emit Y\n", [], none⟩
      (by decide) rfl rfl rfl
    have hreportsx := reported_saying_x "a" ⟨"a", "#emit X\n", [], none⟩ (by decide)
    have hreportsy := reported_saying_y "a" ⟨"a", "#emit Y\n", [], none⟩ (by decide)
    rw [hreportsx, hreportsy] at hsame
    exact absurd (Except.ok.inj hsame) (by decide)

end Casebook.Case

import Casebook.Proofs.Case.Order

/-!
# One verdict for each case

A run of cases goes on after a setup that is broken for one of them. Main statement
(`one_verdict_each`): if every case is usable, that is, if its own files have names and what is
accepted for it can be compared, the run ends with one verdict for each case, in order, and each
of them is what the case comes to after the cases before it. A case that is not usable ends the
run, and the cases behind it are not run (`unusable_case_ends_run`).
-/

namespace Casebook.Case

open Checker Stub.Provider Snapshot

/-! ## What can be compared -/

/-- Other lines can be compared with what a store shows: the store replaces it, or it consists of
lines of text. -/
def Shown.IsComparable (shown : Shown) : Prop :=
  ∀ vs, shown = some (false, some vs) → ∀ v ∈ vs, Store.isText v = true

theorem isComparable_none : Shown.IsComparable none := by
  rintro vs hshown
  cases hshown

/-- Lines are compared with what a store shows exactly if that can be compared. -/
theorem compared_isOk_iff (updating : Bool) (accepted : Option (List Value)) (lines : List Text) :
    (∃ result, Store.compared updating accepted lines = .ok result) ↔
      Shown.IsComparable (some (updating, accepted)) := by
  constructor
  · rintro ⟨result, hresult⟩ vs hshown v hv
    obtain ⟨rfl, rfl⟩ := Prod.mk.inj (Option.some.inj hshown)
    by_contra hno
    have htext : Store.isText v = false := Bool.eq_false_iff.mpr hno
    obtain ⟨fault, hfault⟩ := Store.texts_error hv htext
    unfold Store.compared Store.mismatch at hresult
    dsimp only at hresult
    rw [Store.agree_eq_false hv htext lines, hfault] at hresult
    cases hresult
  · intro h
    cases updating with
    | true =>
        unfold Store.compared
        cases accepted with
        | none => exact ⟨_, rfl⟩
        | some vs =>
            dsimp only
            split <;> exact ⟨_, rfl⟩
    | false =>
        refine Store.compared_ok false ?_ lines
        rintro vs rfl
        exact h vs rfl

/-- A comparison leaves something that can be compared. -/
theorem isComparable_compared {updating : Bool} {accepted : Option (List Value)}
    {lines : List Text} {m : Option Text} {after : List Value}
    (h : Store.compared updating accepted lines = .ok (m, after)) :
    Shown.IsComparable (some (updating, some after)) := by
  have hbefore := (compared_isOk_iff updating accepted lines).mp ⟨_, h⟩
  intro vs hshown v hv
  obtain ⟨rfl, hafter⟩ := Prod.mk.inj (Option.some.inj hshown)
  obtain rfl := Option.some.inj hafter
  unfold Store.compared at h
  cases accepted with
  | none =>
      obtain ⟨-, rfl⟩ := Prod.mk.inj (Except.ok.inj h)
      obtain ⟨line, -, rfl⟩ := List.mem_map.mp hv
      rfl
  | some before =>
      -- what is accepted stays unless the store is updating
      have hkept : after = before := by
        dsimp only at h
        split at h
        · exact (Prod.mk.inj (Except.ok.inj h)).2.symm
        · rw [if_neg Bool.false_ne_true] at h
          cases hm : Store.mismatch before lines with
          | ok text =>
              rw [hm] at h
              exact (Prod.mk.inj (Except.ok.inj h)).2.symm
          | error fault =>
              rw [hm] at h
              cases h
      exact hbefore before rfl v (hkept ▸ hv)

/-! ## One case -/

theorem judged_isOk_iff (c : CaseSpec) (lines : List Text) (shown : Shown) :
    (∃ result, judged c lines shown = .ok result) ↔ (c.expected = none → shown.IsComparable) := by
  unfold judged
  cases c.expected with
  | some expected => exact iff_of_true ⟨_, rfl⟩ fun hnone => nomatch hnone
  | none =>
      cases shown with
      | none => exact iff_of_true ⟨_, rfl⟩ fun _ => isComparable_none
      | some known =>
          obtain ⟨updating, accepted⟩ := known
          rw [forall_prop_of_true rfl, ← compared_isOk_iff updating accepted lines]
          dsimp only
          cases Store.compared updating accepted lines with
          | ok r => exact iff_of_true ⟨_, rfl⟩ ⟨_, rfl⟩
          | error fault => exact iff_of_false (fun h => nomatch h) (fun h => nomatch h)

theorem isComparable_judged {c : CaseSpec} {lines : List Text} {shown after : Shown}
    {m : Option Text} (h : judged c lines shown = .ok (m, after)) :
    after.IsComparable ↔ shown.IsComparable := by
  have hok := (judged_isOk_iff c lines shown).mp ⟨_, h⟩
  unfold judged at h
  cases hexpected : c.expected with
  | some expected =>
      rw [hexpected] at h
      obtain ⟨-, rfl⟩ := Prod.mk.inj (Except.ok.inj h)
      exact Iff.rfl
  | none =>
      rw [hexpected] at h
      refine iff_of_true ?_ (hok hexpected)
      cases shown with
      | none =>
          obtain ⟨-, rfl⟩ := Prod.mk.inj (Except.ok.inj h)
          exact isComparable_none
      | some known =>
          obtain ⟨updating, accepted⟩ := known
          dsimp only at h
          cases hcompared : Store.compared updating accepted lines with
          | error fault =>
              rw [hcompared] at h
              cases h
          | ok r =>
              rw [hcompared] at h
              obtain ⟨-, rfl⟩ := Prod.mk.inj (Except.ok.inj h)
              exact isComparable_compared hcompared

/-- The case can be run against a store: its own files have names, and if it is compared with
what is accepted for it, that can be compared. -/
structure IsUsable (c : CaseSpec) (accepted : Option Store) : Prop where
  named : ∀ file ∈ c.files, file.1 ≠ ""
  comparable : c.expected = none → (shownIn accepted c.name).IsComparable

variable {compile : Compiler} {w : Disk.Workspace}

/-- **Running a case makes no other case usable or unusable.** -/
theorem isUsable_run (c d : CaseSpec) (b : Bench) :
    IsUsable d (run compile w c b).2.accepted ↔ IsUsable d b.accepted := by
  have hshown : (shownIn (run compile w c b).2.accepted d.name).IsComparable ↔
      (shownIn b.accepted d.name).IsComparable := by
    rw [(run_outcome compile w c b).2 d.name]
    split
    · next hname =>
      rw [hname]
      unfold outcome
      cases ownProvider c b.provider with
      | error fault => exact Iff.rfl
      | ok own =>
          dsimp only
          cases (compile w own c.source).result with
          | error fault => exact Iff.rfl
          | ok result =>
              dsimp only
              cases hjudged : judged c result.lines (shownIn b.accepted c.name) with
              | error fault => exact Iff.rfl
              | ok judgement => exact isComparable_judged hjudged
    · exact Iff.rfl
  constructor
  · rintro ⟨hnamed, hcomparable⟩
    exact ⟨hnamed, fun hnone => hshown.mp (hcomparable hnone)⟩
  · rintro ⟨hnamed, hcomparable⟩
    exact ⟨hnamed, fun hnone => hshown.mpr (hcomparable hnone)⟩

/-- A verdict on a case: an error says why the case could not be compiled, and a case that did
not pass says what went wrong. -/
structure Verdict.IsOf (c : CaseSpec) (v : Verdict) : Prop where
  name : v.name = c.name
  error_iff : v.status = .error ↔ v.fault.isSome = true
  passed_iff : v.status = .passed ↔ v.message = none

theorem isOf_ofResult (c : CaseSpec) (r : CompileResult) (m : Option Text) :
    (Verdict.ofResult c r m).IsOf c := by
  cases m with
  | none => exact ⟨rfl, iff_of_false nofun nofun, iff_of_true rfl rfl⟩
  | some m => exact ⟨rfl, iff_of_false nofun nofun, iff_of_false nofun nofun⟩

theorem isOf_ofFault {c : CaseSpec} {fault : Casebook.Fault} {v : Verdict}
    (h : Verdict.ofFault c fault = .ok v) : v.IsOf c := by
  unfold Verdict.ofFault at h
  cases hname : fault.setupName? with
  | none =>
      rw [hname] at h
      cases h
  | some name =>
      rw [hname] at h
      cases h
      exact ⟨rfl, iff_of_true rfl rfl, iff_of_false nofun nofun⟩

/-- A verdict is one on the case that was run. -/
theorem isOf_of_run {c : CaseSpec} {b : Bench} {v : Verdict}
    (h : (run compile w c b).1 = .ok v) : v.IsOf c := by
  rw [(run_outcome compile w c b).1] at h
  unfold outcome at h
  cases hown : ownProvider c b.provider with
  | error fault =>
      rw [hown] at h
      cases h
  | ok own =>
      rw [hown] at h
      dsimp only at h
      cases hresult : (compile w own c.source).result with
      | error fault =>
          rw [hresult] at h
          exact isOf_ofFault h
      | ok result =>
          rw [hresult] at h
          dsimp only at h
          cases hjudged : judged c result.lines (shownIn b.accepted c.name) with
          | error fault =>
              rw [hjudged] at h
              cases h
          | ok judgement =>
              rw [hjudged] at h
              cases h
              exact isOf_ofResult c result judgement.1

/-- Compiling comes to a result or finds the setup broken, and never breaks down. -/
def IsSteady (compile : Compiler) (w : Disk.Workspace) : Prop :=
  ∀ p source fault, (compile w p source).result = .error fault → fault.setupName?.isSome = true

/-- A usable case has a verdict. -/
theorem run_ok (hcompile : IsSteady compile w) {c : CaseSpec} {b : Bench}
    (h : IsUsable c b.accepted) : ∃ v, (run compile w c b).1 = .ok v ∧ v.IsOf c := by
  rw [(run_outcome compile w c b).1]
  obtain ⟨own, hown⟩ := ownProvider_ok c h.named b.provider
  unfold outcome
  rw [hown]
  dsimp only
  cases hresult : (compile w own c.source).result with
  | error fault =>
      obtain ⟨name, hname⟩ := Option.isSome_iff_exists.mp (hcompile own c.source fault hresult)
      obtain ⟨v, hv⟩ := ofFault_of_some hname c
      exact ⟨v, hv, isOf_ofFault hv⟩
  | ok result =>
      obtain ⟨judgement, hjudged⟩ := (judged_isOk_iff c result.lines _).mpr h.comparable
      dsimp only
      rw [hjudged]
      exact ⟨_, rfl, isOf_ofResult c result judgement.1⟩

/-- A case with a file without a name has none. -/
theorem run_error_of_unnamed {c : CaseSpec} {file : Text × Text} (hfile : file ∈ c.files)
    (hname : file.1 = "") (b : Bench) : ∃ fault, (run compile w c b).1 = .error fault := by
  have hfiles : ¬ c.files.isEmpty = true := by
    intro hempty
    rw [List.isEmpty_iff.mp hempty] at hfile
    cases hfile
  obtain ⟨fault, hfault⟩ := addAll_error b.provider.fork hfile hname
  refine ⟨fault, ?_⟩
  rw [(run_outcome compile w c b).1]
  unfold outcome ownProvider
  rw [if_neg hfiles, hfault]

/-- Nor has a case that compiles and is compared with what cannot be compared. -/
theorem run_error_of_not_isUsable (hcompile : ∀ p source, (compile w p source).result.isOk = true)
    {c : CaseSpec} {b : Bench} (h : ¬ IsUsable c b.accepted) :
    ∃ fault, (run compile w c b).1 = .error fault := by
  by_cases hnamed : ∀ file ∈ c.files, file.1 ≠ ""
  · have hcomparable : ¬ (c.expected = none → (shownIn b.accepted c.name).IsComparable) :=
      fun hcomparable => h ⟨hnamed, hcomparable⟩
    obtain ⟨own, hown⟩ := ownProvider_ok c hnamed b.provider
    rw [(run_outcome compile w c b).1]
    unfold outcome
    rw [hown]
    dsimp only
    have hok := hcompile own c.source
    cases hresult : (compile w own c.source).result with
    | error fault =>
        rw [hresult] at hok
        cases hok
    | ok result =>
        rw [← judged_isOk_iff c result.lines] at hcomparable
        dsimp only
        cases hjudged : judged c result.lines (shownIn b.accepted c.name) with
        | error fault => exact ⟨fault, rfl⟩
        | ok judgement => exact absurd ⟨judgement, hjudged⟩ hcomparable
  · push Not at hnamed
    obtain ⟨file, hfile, hname⟩ := hnamed
    exact run_error_of_unnamed hfile hname b

/-! ## All cases -/

/-- What a case comes to after others. -/
def runAfter (compile : Compiler) (w : Disk.Workspace) (before : List CaseSpec) (c : CaseSpec)
    (b : Bench) : Outcome Verdict :=
  (run compile w c (runAll compile w before b).2).1

/-- A run that ends well has one verdict for each case, in order. -/
theorem forall₂_isOf_runAll {cs : List CaseSpec} {b : Bench} {vs : List Verdict}
    (h : (runAll compile w cs b).1 = .ok vs) : List.Forall₂ Verdict.IsOf cs vs := by
  induction cs generalizing b vs with
  | nil =>
      cases h
      exact .nil
  | cons c cs ih =>
      rcases runAll_cons c cs b with ⟨v, hv, hall, -⟩ | ⟨fault, -, hall⟩
      · rw [hall] at h
        cases hrest : (runAll compile w cs (run compile w c b).2).1 with
        | error fault =>
            rw [hrest] at h
            cases h
        | ok us =>
            rw [hrest] at h
            cases h
            exact .cons (isOf_of_run hv) (ih hrest)
      · rw [hall] at h
        cases h

theorem runAll_verdicts (hcompile : IsSteady compile w) {cs : List CaseSpec} {b : Bench}
    (h : ∀ c ∈ cs, IsUsable c b.accepted) :
    ∃ vs, (runAll compile w cs b).1 = .ok vs ∧ List.Forall₂ Verdict.IsOf cs vs ∧
      ∀ before c after, cs = before ++ c :: after → ∃ v, vs[before.length]? = some v ∧
        runAfter compile w before c b = .ok v := by
  induction cs generalizing b with
  | nil => exact ⟨[], rfl, .nil, fun before c after heq => by simp at heq⟩
  | cons d cs ih =>
      obtain ⟨hd, hcs⟩ := List.forall_mem_cons.mp h
      obtain ⟨v, hv, hof⟩ := run_ok hcompile hd
      obtain ⟨vs, hvs, hall, hplace⟩ := ih (b := (run compile w d b).2) fun c hc =>
        (isUsable_run d c b).mpr (hcs c hc)
      rcases runAll_cons d cs b with ⟨v', hv', hverdicts, -⟩ | ⟨fault, hfault, -⟩
      · obtain rfl : v = v' := Except.ok.inj (hv.symm.trans hv')
        refine ⟨v :: vs, by rw [hverdicts, hvs]; rfl, .cons hof hall, ?_⟩
        intro before c after heq
        cases before with
        | nil =>
            obtain ⟨rfl, rfl⟩ := List.cons.inj heq
            exact ⟨v, rfl, hv⟩
        | cons first before =>
            obtain ⟨rfl, hrest⟩ := List.cons.inj heq
            obtain ⟨u, hu, hrun⟩ := hplace before c after hrest
            refine ⟨u, hu, ?_⟩
            rcases runAll_cons d before b with ⟨-, -, -, hafter⟩ | ⟨fault, hfault, -⟩
            · unfold runAfter at hrun ⊢
              rw [hafter]
              exact hrun
            · rw [hv] at hfault
              cases hfault
      · rw [hv] at hfault
        cases hfault

/-- A case that would fail wherever it stands ends the run. -/
theorem runAll_error_of_mem {cs : List CaseSpec} {c : CaseSpec} (hc : c ∈ cs)
    {P : Bench → Prop} (hrun : ∀ b, P b → ∃ fault, (run compile w c b).1 = .error fault)
    (hkeep : ∀ d b, P b → P (run compile w d b).2) {b : Bench} (h : P b) :
    ∃ fault, (runAll compile w cs b).1 = .error fault := by
  induction cs generalizing b with
  | nil => cases hc
  | cons d cs ih =>
      rcases runAll_cons d cs b with ⟨v, hv, hall, -⟩ | ⟨fault, -, hall⟩
      · rcases List.mem_cons.mp hc with rfl | hc
        · obtain ⟨fault, hfault⟩ := hrun b h
          rw [hv] at hfault
          cases hfault
        · obtain ⟨fault, hfault⟩ := ih hc (hkeep d b h)
          exact ⟨fault, by rw [hall, hfault]; rfl⟩
      · exact ⟨fault, hall⟩

/-- **Usable cases have one verdict each, in order**: what the case comes to after the cases
before it. A file without a name ends the run, whatever the checker does; and if all cases can be
compiled, so does any case that is not usable. -/
theorem one_verdict_each (hcompile : IsSteady compile w) (cs : List CaseSpec) (b : Bench) :
    ((∀ c ∈ cs, IsUsable c b.accepted) →
      ∃ vs, (runAll compile w cs b).1 = .ok vs ∧ List.Forall₂ Verdict.IsOf cs vs ∧
        ∀ before c after, cs = before ++ c :: after → ∃ v, vs[before.length]? = some v ∧
          runAfter compile w before c b = .ok v) ∧
    ((∃ vs, (runAll compile w cs b).1 = .ok vs) → ∀ c ∈ cs, ∀ file ∈ c.files, file.1 ≠ "") ∧
    ((∀ p source, (compile w p source).result.isOk = true) →
      ((∃ vs, (runAll compile w cs b).1 = .ok vs) ↔ ∀ c ∈ cs, IsUsable c b.accepted)) := by
  refine ⟨runAll_verdicts hcompile, ?_, fun hok => ⟨?_, ?_⟩⟩
  · rintro ⟨vs, hvs⟩ c hc file hfile hname
    obtain ⟨fault, hfault⟩ := runAll_error_of_mem (P := fun _ => True) hc
      (fun b _ => run_error_of_unnamed hfile hname b) (fun _ _ _ => trivial) (b := b) trivial
    rw [hvs] at hfault
    cases hfault
  · rintro ⟨vs, hvs⟩ c hc
    by_contra hno
    obtain ⟨fault, hfault⟩ := runAll_error_of_mem (P := fun b => ¬ IsUsable c b.accepted) hc
      (fun b => run_error_of_not_isUsable hok)
      (fun d b hb => fun h => hb ((isUsable_run d c b).mp h)) hno
    rw [hvs] at hfault
    cases hfault
  · intro h
    obtain ⟨vs, hvs, -⟩ := runAll_verdicts hcompile h
    exact ⟨vs, hvs⟩

/-- A checker that finds the setup broken where there is no source, and else has nothing to
report. -/
def picky : Compiler := fun _ p source =>
  if source.isEmpty then ⟨.error (.setup ⟨"Cannot read a", [], []⟩), p, []⟩ else ⟨.ok ⟨[]⟩, p, []⟩

theorem isSteady_picky (w : Disk.Workspace) : IsSteady picky w := by
  intro p source fault hfault
  unfold picky at hfault
  split at hfault
  · cases hfault
    rfl
  · cases hfault

/-- A case without a source. -/
def sourceless : CaseSpec := ⟨"broken", "", [], none⟩

/-- A case that passes. -/
def passing : CaseSpec := ⟨"fine", "x", [("a", "y")], none⟩

/-- The first of two cases cannot be compiled; the second one is run and passes. -/
theorem one_verdict_each_after_error : ∃ vs,
    (runAll picky ⟨.folder [], []⟩ [sourceless, passing] ⟨oneFile, some emptyStore⟩).1 = .ok vs ∧
      vs.map Verdict.name = ["broken", "fine"] ∧ vs.map Verdict.status = [.error, .passed] := by
  have hcomparable : ∀ name, (shownIn (some emptyStore) name).IsComparable := by
    rintro name vs hshown
    cases hshown
  have husable : ∀ c ∈ [sourceless, passing], IsUsable c (some emptyStore) :=
    List.forall_mem_cons.mpr ⟨⟨by decide, fun _ => hcomparable _⟩,
      List.forall_mem_singleton.mpr ⟨by decide, fun _ => hcomparable _⟩⟩
  obtain ⟨vs, hvs, hof, -⟩ := (one_verdict_each (isSteady_picky ⟨.folder [], []⟩) _
    ⟨oneFile, some emptyStore⟩).1 husable
  have hstatuses : (runAll picky ⟨.folder [], []⟩ [sourceless, passing]
      ⟨oneFile, some emptyStore⟩).1.map (fun vs => vs.map Verdict.status) =
      .ok [.error, .passed] := by cbv
  rw [hvs] at hstatuses
  refine ⟨vs, hvs, ?_, Except.ok.inj hstatuses⟩
  cases hof with
  | cons hfirst hof =>
      cases hof with
      | cons hsecond hof =>
          cases hof
          rw [List.map_cons, List.map_cons, hfirst.name, hsecond.name]
          rfl

/-- A case that brings a file without a name, and one that could be run. -/
def unnamedFile : List Char := "[case a]\n[file  ]\n[case b]\n".toList

/-- A store that accepts nothing at all instead of a line. -/
def hollowStore : Store := ⟨⟨.relative, []⟩, false, [("b", [.null])], false⟩

/-- **A case that is not usable ends the run**: a file without a name, which a case file can give
to a case, is refused before it is compiled, and what a file of accepted results holds instead of lines
cannot be compared with lines. -/
theorem unusable_case_ends_run : IsSteady picky ⟨.folder [], []⟩ ∧
    (∃ d, parse unnamedFile = .ok d ∧ d.cases.length = 2 ∧
      ∃ fault, (runAll picky ⟨.folder [], []⟩ d.cases ⟨oneFile, none⟩).1 = .error fault) ∧
    ofDocument (.map [(.text "b", .list [.null])]) = .ok hollowStore.accepted ∧
    ∃ fault, (runAll picky ⟨.folder [], []⟩ [⟨"b", "x", [], none⟩]
      ⟨oneFile, some hollowStore⟩).1 = .error fault := by
  have hparse : parse unnamedFile =
      .ok ⟨"0.1", [⟨"a", "", [("", "")], none⟩, ⟨"b", "", [], none⟩]⟩ := by cbv
  refine ⟨isSteady_picky _, ⟨_, hparse, rfl, ?_⟩, by cbv, ?_⟩
  · exact ⟨.badFileName (.text ""), by cbv⟩
  · exact ⟨.noLine .null, by cbv⟩

end Casebook.Case

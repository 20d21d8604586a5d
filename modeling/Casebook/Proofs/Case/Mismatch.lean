import Casebook.Case.Run
import Casebook.Proofs.Sequence.PatchText
import Casebook.Proofs.Snapshot.Check

/-!
# Mismatches

What is reported for a case that failed, and for lines other than the accepted ones, ends in the
patch from the lines that should have been there to those that were. Main statement
(`mismatch_reports_patch`): the patch is correct for any two lists of lines, and no mismatch is
reported with an empty one.
-/

namespace Casebook.Snapshot.Store

theorem texts_eq_ok {vs : List Value} {lines : List Text} (h : texts vs = .ok lines) :
    vs = lines.map Value.text := by
  have htext : ∀ v ∈ vs, isText v = true := by
    intro v hv
    by_contra hno
    obtain ⟨fault, hfault⟩ := texts_error hv (Bool.eq_false_iff.mpr hno)
    rw [h] at hfault
    cases hfault
  obtain rfl := Except.ok.inj ((texts_ok htext).symm.trans h)
  have hshown : ∀ v ∈ vs, Value.text v.display = v := by
    intro v hv
    cases v with
    | text t => rfl
    | _ => cases htext _ hv
  rw [List.map_map]
  exact ((List.map_congr_left hshown).trans (List.map_id vs)).symm

/-- A mismatch is reported for lines other than those that were accepted, with the patch. -/
theorem check_eq_mismatch {s t : Store} {name : Text} {lines : List Text} {m : Text}
    (h : s.check name lines = .ok (some m, t)) :
    ∃ expected, s.get? name = some (expected.map Value.text) ∧ expected ≠ lines ∧
      m = Text.ofString "Snapshot mismatch:\n" ++ Sequence.patchText expected lines := by
  unfold check at h
  cases hknown : s.get? name with
  | none =>
      rw [hknown] at h
      cases h
  | some vs =>
      rw [hknown] at h
      dsimp only at h
      by_cases hagree : agree vs lines = true
      · rw [if_pos hagree] at h
        cases h
      · rw [if_neg hagree] at h
        split at h
        · cases h
        · unfold mismatch at h
          cases htexts : texts vs with
          | error fault =>
              rw [htexts] at h
              cases h
          | ok expected =>
              rw [htexts] at h
              cases h
              obtain rfl := texts_eq_ok htexts
              refine ⟨expected, rfl, ?_, rfl⟩
              rintro rfl
              exact hagree ((agree_iff _ _).mpr rfl)

end Casebook.Snapshot.Store

namespace Casebook.Case

open Sequence

/-- A case that failed was judged to have other lines. -/
theorem judge_of_failed {compile : Compiler} {w : Disk.Workspace} {c : CaseSpec} {b b' : Bench}
    {v : Verdict} (h : run compile w c b = (.ok v, b')) (hfailed : v.status = .failed) :
    ∃ m accepted, judge c v.lines b.accepted = .ok (some m, accepted) ∧ v.message = some m := by
  unfold run at h
  dsimp only at h
  split at h
  · cases h
  · next provider _ =>
    generalize compile w provider c.source = done at h
    cases hresult : done.result with
    | error fault =>
        rw [hresult] at h
        have hv := (Prod.mk.inj h).1
        unfold Verdict.ofFault at hv
        split at hv
        · cases hv
          cases hfailed
        · cases hv
    | ok result =>
        rw [hresult] at h
        have haccepted : (if c.files.isEmpty = true then { b with provider := done.provider }
            else b).accepted = b.accepted := by split <;> rfl
        dsimp only at h
        rw [haccepted] at h
        cases hjudge : judge c result.lines b.accepted with
        | error fault =>
            rw [hjudge] at h
            cases h
        | ok judgement =>
            obtain ⟨m, accepted⟩ := judgement
            rw [hjudge] at h
            cases (Prod.mk.inj h).1
            cases m with
            | none => cases hfailed
            | some m => exact ⟨m, accepted, hjudge, rfl⟩

/-- The lines that were there before are what the case expects, or else what was accepted. -/
inductive Compared (c : CaseSpec) (accepted : Option Snapshot.Store) : Text → List Text → Prop
  | output {expected : List Text} (h : c.expected = some expected) :
      Compared c accepted "Output mismatch:\n" expected
  | snapshot {store : Snapshot.Store} {expected : List Text} (none : c.expected = none)
      (store_eq : accepted = some store) (h : store.get? c.name = some (expected.map Value.text)) :
      Compared c accepted "Snapshot mismatch:\n" expected

theorem judge_eq_mismatch {c : CaseSpec} {lines : List Text}
    {accepted after : Option Snapshot.Store} {m : Text}
    (h : judge c lines accepted = .ok (some m, after)) :
    ∃ title expected, Compared c accepted title expected ∧ expected ≠ lines ∧
      m = title ++ patchText expected lines := by
  unfold judge at h
  cases hexpected : c.expected with
  | some expected =>
      rw [hexpected] at h
      have hm := (Prod.mk.inj (Except.ok.inj h)).1
      split at hm
      · cases hm
      · next hne =>
        cases hm
        exact ⟨_, expected, .output hexpected, fun heq => hne heq.symm, rfl⟩
  | none =>
      rw [hexpected] at h
      cases accepted with
      | none => cases h
      | some store =>
          dsimp only at h
          cases hcheck : store.check c.name lines with
          | error fault =>
              rw [hcheck] at h
              cases h
          | ok result =>
              obtain ⟨m', store'⟩ := result
              rw [hcheck] at h
              cases h
              obtain ⟨expected, hget, hne, rfl⟩ := Snapshot.Store.check_eq_mismatch hcheck
              exact ⟨_, expected, .snapshot hexpected rfl hget, hne, rfl⟩

/-- **Mismatches.** The patch between two lists of lines is empty exactly if they are equal. If
they are not, and there is no line feed in any line, it reads as hunks that stand in order and
apart, name and have the parts of both lists that they cover, and leave out nothing that
differs; applied to the first list they give the second. Every case that failed and every check
that fails reports a patch that is not empty. -/
theorem mismatch_reports_patch :
    (∀ expected actual : List Text,
      (patchText expected actual = Text.ofString "" ↔ expected = actual) ∧
      ((∀ line ∈ expected ++ actual, Point.char '\n' ∉ line.points) → expected ≠ actual →
        ∃ hs, hs ≠ [] ∧ readPatch (patchText expected actual) = some hs ∧
          IsPatch expected actual 0 0 hs ∧ applyFrom expected 0 hs = some actual)) ∧
    (∀ (compile : Compiler) (w : Disk.Workspace) (c : CaseSpec) (b b' : Bench) (v : Verdict),
      run compile w c b = (.ok v, b') → v.status = .failed →
        ∃ title expected, Compared c b.accepted title expected ∧
          v.message = some (title ++ patchText expected v.lines) ∧
          patchText expected v.lines ≠ Text.ofString "") ∧
    ∀ (s t : Snapshot.Store) (name : Text) (lines : List Text) (m : Text),
      s.check name lines = .ok (some m, t) →
        ∃ expected, s.get? name = some (expected.map Value.text) ∧
          m = Text.ofString "Snapshot mismatch:\n" ++ patchText expected lines ∧
          patchText expected lines ≠ Text.ofString "" := by
  have hempty := fun expected actual => (patchText_exact expected actual).1
  refine ⟨fun expected actual => ⟨hempty expected actual, fun hfree hne => ?_⟩, ?_, ?_⟩
  · obtain ⟨hs, hsome, hread, hpatch⟩ := (patchText_exact expected actual).2 hfree hne
    exact ⟨hs, hsome, hread, hpatch, applyFrom_eq hpatch⟩
  · intro compile w c b b' v hrun hfailed
    obtain ⟨m, accepted, hjudge, hmessage⟩ := judge_of_failed hrun hfailed
    obtain ⟨title, expected, hcompared, hne, rfl⟩ := judge_eq_mismatch hjudge
    exact ⟨title, expected, hcompared, hmessage, mt (hempty _ _).mp hne⟩
  · intro s t name lines m hcheck
    obtain ⟨expected, hget, hne, rfl⟩ := Snapshot.Store.check_eq_mismatch hcheck
    exact ⟨expected, hget, rfl, mt (hempty _ _).mp hne⟩

/-- A checker that reports nothing. -/
def silent : Compiler := fun _ p _ => ⟨.ok ⟨[]⟩, p, []⟩

/-- A case that expects a line. -/
def expecting : CaseSpec := ⟨"a", "", [], some ["x"]⟩

/-- A store that accepted a line for the case. -/
def oneLine : Snapshot.Store := ⟨⟨.relative, []⟩, false, [("a", [.text "x"])], false⟩

/-- Of two lines one is another; the case that expects a line has none, and neither has the check
of what was accepted. -/
theorem mismatch_reports_patch_silent :
    (∃ hs, readPatch (patchText ["x", "y"] ["x", "z"]) = some hs ∧
      applyFrom ["x", "y"] 0 hs = some (["x", "z"] : List Text)) ∧
    (∃ v b diff, run silent ⟨.folder [], []⟩ expecting ⟨⟨"", ⟨[]⟩, ⟨[], 0⟩⟩, none⟩ = (.ok v, b) ∧
      v.status = .failed ∧ diff ≠ Text.ofString "" ∧
      v.message = some (Text.ofString "Output mismatch:\n" ++ diff)) ∧
    ∃ m t diff, oneLine.check "a" [] = .ok (some m, t) ∧ diff ≠ Text.ofString "" ∧
      m = Text.ofString "Snapshot mismatch:\n" ++ diff := by
  obtain ⟨hpatch, hrun, hcheck⟩ := mismatch_reports_patch
  refine ⟨?_, ?_, ?_⟩
  · obtain ⟨hs, -, hread, -, happly⟩ := (hpatch ["x", "y"] ["x", "z"]).2 (by decide) (by decide)
    exact ⟨hs, hread, happly⟩
  · have hfailed := hrun silent ⟨.folder [], []⟩ expecting ⟨⟨"", ⟨[]⟩, ⟨[], 0⟩⟩, none⟩ _ _ rfl rfl
    obtain ⟨title, expected, hcompared, hmessage, hne⟩ := hfailed
    cases hcompared with
    | output h => exact ⟨_, _, _, rfl, rfl, hne, hmessage⟩
    | snapshot h => cases h
  · have hfails : oneLine.check "a" [] =
        .ok (some (Text.ofString "Snapshot mismatch:\n" ++ patchText ["x"] []), oneLine) := by cbv
    obtain ⟨expected, -, hm, hne⟩ := hcheck _ _ _ _ _ hfails
    exact ⟨_, _, _, hfails, hne, hm⟩

end Casebook.Case

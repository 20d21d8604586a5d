import Casebook.Command.Run
import Casebook.Proofs.Case.Together
import Casebook.Proofs.Command.Compile

/-!
# The run of the command

The command `run` loads one file after the other and runs its cases. Main statement
(`runFiles_eq_ok`): what it goes on with after the last file is what running the loaded documents
comes to, on the disk as it was at first.
-/

namespace Casebook.Command

open Disk

variable {α β : Type} {s s' : Shell}

/-- A step that ends well is two steps that do. -/
theorem run_bind_ok {x : Act α} {f : α → Act β} {r : β} (h : (x >>= f).run s = (.ok r, s')) :
    ∃ a t, x.run s = (.ok a, t) ∧ (f a).run t = (.ok r, s') := by
  have hcont : (ExceptT.bindCont f (x.run s).1 : StateM Shell (Except Stop β)) (x.run s).2 =
      (.ok r, s') := h
  cases hx : x.run s with
  | mk answer t =>
      rw [hx] at hcont
      cases answer with
      | error stop => cases hcont
      | ok a => exact ⟨a, t, rfl, hcont⟩

theorem orStop_eq_ok {o : Outcome α} {a : α} (h : (Act.orStop o).run s = (.ok a, s')) :
    o = .ok a ∧ s' = s := by
  cases o with
  | error fault => cases h
  | ok b =>
      cases h
      exact ⟨rfl, rfl⟩

theorem loadFile_eq_ok {file : Path} {d : CaseDocument}
    (h : (loadFile file).run s = (.ok d, s')) :
    CaseDocument.load s.disk Depth.command file = .ok d ∧ s' = s := by
  unfold loadFile at h
  obtain ⟨t, t', hget, h⟩ := run_bind_ok h
  cases hget
  cases hload : CaseDocument.load s.disk Depth.command file with
  | ok found =>
      rw [hload] at h
      cases h
      exact ⟨rfl, rfl⟩
  | error fault =>
      rw [hload] at h
      obtain ⟨u, t, -, hexit⟩ := run_bind_ok h
      cases hexit

/-- **The command runs the documents of its files**, and leaves the disk as it is while it does. -/
theorem runFiles_eq_ok {compile : Case.Compiler} {files : List Path} {b b' : Case.Bench}
    {vs : List Case.Verdict} (h : (runFiles compile files b).run s = (.ok (vs, b'), s')) :
    s'.disk = s.disk ∧ ∃ ds,
      List.Forall₂ (fun file d => CaseDocument.load s.disk Depth.command file = .ok d) files ds ∧
      Case.runDocuments compile s.disk ds b = (.ok vs, b') := by
  induction files generalizing s b vs with
  | nil =>
      cases h
      exact ⟨rfl, [], .nil, rfl⟩
  | cons file files ih =>
      rw [runFiles] at h
      obtain ⟨d, t, hload, hbehind⟩ := run_bind_ok h
      obtain ⟨hd, ht⟩ := loadFile_eq_ok hload
      rw [ht] at hbehind
      obtain ⟨⟨⟩, u, hsay, hsaid⟩ := run_bind_ok hbehind
      have hdisk : u.disk = s.disk := by
        have hshown := disk_say (s!"[dim]Running {d.cases.length} case(s) from " ++ file.text ++
          "[/dim]") s
        rw [hsay] at hshown
        exact hshown
      obtain ⟨now, v, hnow, hruns⟩ := run_bind_ok hsaid
      cases hnow
      rw [hdisk] at hruns
      cases hrun : Case.runAll compile s.disk d.cases b with
      | mk verdicts after =>
          rw [hrun] at hruns
          obtain ⟨us, v, hus, hrest⟩ := run_bind_ok hruns
          obtain ⟨rfl, rfl⟩ := orStop_eq_ok hus
          obtain ⟨last, v', hlast, hend⟩ := run_bind_ok hrest
          cases hend
          obtain ⟨hv, ds, hds, hdocuments⟩ := ih hlast
          rw [hdisk] at hv hds hdocuments
          refine ⟨hv, d :: ds, .cons hd hds, ?_⟩
          rw [Case.runDocuments, hrun]
          dsimp only
          rw [hdocuments]
          rfl

end Casebook.Command

import Casebook.Proofs.Case.Entered
import Casebook.Proofs.Case.Verdicts
import Casebook.Proofs.Command.Run
import Casebook.Proofs.Snapshot.Saving

/-!
# What the command promises

The command `run` has many ways to end. Main statement (`run_is_gate`): it succeeds only if it got
to the last case and all cases passed; the disk is changed only by saving the accepted results after
the last case, and only if a case has entered something into them; and if a file cannot be loaded or
a case ends the run, the disk is as it was.

Every step before the results are saved is quiet: it leaves the disk, and does not end the command
with success. So the statement comes down to the few steps that are left.
-/

namespace Casebook.Case

/-! ## Counts -/

/-- The three counts make up the whole. -/
theorem count_add_count (vs : List Verdict) :
    count .passed vs + count .failed vs + count .error vs = vs.length := by
  induction vs with
  | nil => rfl
  | cons v vs ih =>
      unfold count at ih ⊢
      cases hstatus : v.status <;> simp [hstatus] <;> omega

theorem count_passed {vs : List Verdict} (h : ∀ v ∈ vs, v.status = .passed) :
    count .passed vs = vs.length :=
  List.countP_eq_length.mpr fun v hv => by rw [h v hv]; rfl

end Casebook.Case

namespace Casebook.Command

open Disk Snapshot

variable {α β : Type} {s : Shell}

/-! ## Quiet steps -/

/-- The step leaves the disk, and does not end the command with success. -/
def Quiet (x : Act α) : Prop :=
  ∀ s, (x.run s).2.disk = s.disk ∧ (x.run s).1 ≠ .error (.exit 0)

theorem run_bind (x : Act α) (f : α → Act β) (s : Shell) :
    (x >>= f).run s =
      match x.run s with
      | (.ok a, t) => (f a).run t
      | (.error stop, t) => (.error stop, t) := by
  show (ExceptT.bindCont f (x.run s).1 : StateM Shell (Except Stop β)) (x.run s).2 = _
  cases x.run s with
  | mk answer t => cases answer <;> rfl

theorem Quiet.bind {x : Act α} {f : α → Act β} (hx : Quiet x) (hf : ∀ a, Quiet (f a)) :
    Quiet (x >>= f) := by
  intro s
  obtain ⟨hdisk, hexit⟩ := hx s
  rw [run_bind]
  cases hrun : x.run s with
  | mk answer t =>
      rw [hrun] at hdisk hexit
      cases answer with
      | error stop =>
          refine ⟨hdisk, fun hzero => hexit ?_⟩
          rw [Except.error.inj hzero]
      | ok a =>
          obtain ⟨hdisk', hexit'⟩ := hf a t
          exact ⟨hdisk'.trans hdisk, hexit'⟩

theorem quiet_pure (a : α) : Quiet (pure a) := fun _ => ⟨rfl, nofun⟩

theorem quiet_get : Quiet (get : Act Shell) := fun _ => ⟨rfl, nofun⟩

theorem quiet_orStop (o : Outcome α) : Quiet (Act.orStop o) := by
  intro s
  cases o with
  | ok a => exact ⟨rfl, nofun⟩
  | error fault => exact ⟨rfl, nofun⟩

theorem quiet_writeOr (refuse : Text.HalfRun → Fault) (text : Text) :
    Quiet (Act.writeOr refuse text) := by
  intro s
  unfold Act.writeOr
  cases text.characters with
  | ok cs => exact ⟨rfl, nofun⟩
  | error run => exact ⟨rfl, nofun⟩

theorem quiet_display (text : Outcome Text) : Quiet (Act.display text) :=
  (quiet_orStop text).bind fun t => quiet_writeOr _ t

theorem quiet_say (markup : Text) : Quiet (Act.say markup) := quiet_display _

theorem quiet_exit {code : Nat} (h : code ≠ 0) : Quiet (Act.exit code : Act α) := by
  intro s
  refine ⟨rfl, fun hzero => h ?_⟩
  cases hzero
  rfl

theorem quiet_orReport (o : Outcome α) : Quiet (orReport o) := by
  unfold orReport
  split
  · exact (quiet_say _).bind fun _ => quiet_exit Nat.one_ne_zero
  · exact quiet_orStop o

theorem quiet_loadFile (file : Path) : Quiet (loadFile file) := by
  refine quiet_get.bind fun t => ?_
  split
  · exact quiet_pure _
  · exact (quiet_say _).bind fun _ => quiet_exit Nat.one_ne_zero

theorem quiet_runFiles (compile : Case.Compiler) (files : List Path) (b : Case.Bench) :
    Quiet (runFiles compile files b) := by
  induction files generalizing b with
  | nil => exact quiet_pure _
  | cons file files ih =>
      rw [runFiles]
      refine (quiet_loadFile file).bind fun d => (quiet_say _).bind fun _ => quiet_get.bind fun t => ?_
      exact (quiet_orStop _).bind fun vs => (ih _).bind fun _ => quiet_pure _

theorem quiet_showSummary (verbose : Bool) (vs : List Case.Verdict) :
    Quiet (showSummary verbose vs) := by
  refine (quiet_display _).bind fun _ => ?_
  split
  · exact quiet_exit Nat.one_ne_zero
  · exact quiet_pure _

/-! ## The end of the command -/

/-- What saving does to a disk: the folders around the file are made, all of them or those before
one that cannot be made; then the file is written, once or not at all. -/
def IsFiledOnce (w : Workspace) (path : Path) (w' : Workspace) : Prop :=
  ((∃ fault, w.ensureFolders path.parent = .error fault) ∧ w' = w.leftByFolders path.parent) ∨
  ∃ v, w.ensureFolders path.parent = .ok v ∧
    (w' = v ∨ ∃ bytes, v.write path.text bytes = .ok w')

theorem save_isFiledOnce (store : Store) (w : Workspace) (steps : Nat) :
    (store.save w steps).2.2 = w ∨
      store.changed = true ∧ IsFiledOnce w store.path (store.save w steps).2.2 := by
  unfold Store.save
  cases hchanged : store.changed with
  | false => exact Or.inl rfl
  | true =>
      refine Or.inr ⟨rfl, ?_⟩
      rw [Bool.not_true, if_neg Bool.false_ne_true]
      cases hfolders : w.ensureFolders store.path.parent with
      | error fault => exact Or.inl ⟨⟨fault, hfolders⟩, rfl⟩
      | ok v =>
          refine Or.inr ⟨v, hfolders, ?_⟩
          dsimp only
          split
          · exact Or.inl rfl
          · next hwrite _ => exact Or.inr ⟨_, hwrite⟩
          · next hwrite _ => exact Or.inr ⟨_, hwrite⟩

/-- Whatever saving comes to, the disk is as the store leaves it. -/
theorem run_saveAccepted (store : Store) (s : Shell) :
    ((saveAccepted (some store)).run s).2.disk = (store.save s.disk Depth.command).2.2 ∧
      ((saveAccepted (some store)).run s).1 ≠ .error (.exit 0) := by
  have hsay : ∀ written : Bool, Quiet (if written = true then
      Act.say ("[dim]Snapshots written to " ++ store.path.text ++ "[/dim]") else pure ()) := by
    intro written
    split
    · exact quiet_say _
    · exact quiet_pure ()
  exact ((quiet_orStop (store.save s.disk Depth.command).1).bind hsay)
    ⟨(store.save s.disk Depth.command).2.2, s.output⟩

/-- A summary ends well if all cases passed, and it is the last that is shown. -/
theorem showSummary_eq_ok {verbose : Bool} {vs : List Case.Verdict} {s t : Shell}
    (h : (showSummary verbose vs).run s = (.ok (), t)) :
    (∀ v ∈ vs, v.status = .passed) ∧ ∃ panel shown,
      Console.panel "Cases Passed" (Case.summary verbose vs) = .ok panel ∧
      panel.characters = .ok shown ∧ t.output = s.output ++ String.ofList shown := by
  unfold showSummary at h
  cases hclean : vs.all (·.status == .passed) with
  | false =>
      rw [hclean] at h
      obtain ⟨u, t', -, hexit⟩ := run_bind_ok h
      cases hexit
  | true =>
      rw [hclean] at h
      obtain ⟨u, t', hdisplay, hend⟩ := run_bind_ok h
      cases hend
      obtain ⟨panel, t', hlaid, hwrite⟩ := run_bind_ok hdisplay
      obtain ⟨hpanel, rfl⟩ := orStop_eq_ok hlaid
      refine ⟨?_, panel, ?_⟩
      · intro v hv
        exact beq_iff_eq.mp (List.all_eq_true.mp hclean v hv)
      · unfold Act.writeOr at hwrite
        cases hshown : panel.characters with
        | error run =>
            rw [hshown] at hwrite
            cases hwrite
        | ok shown =>
            rw [hshown] at hwrite
            cases hwrite
            exact ⟨shown, hpanel, rfl, rfl⟩

/-! ## The whole command -/

/-- The paths that case files are looked for at. -/
def places (p : Project) (g : Given) : List Text :=
  let words := g.words.map fun word => (Path.ofText word).text
  if words.isEmpty then p.config.casePaths else words

/-- The command gets to the last case: the project is set up, case files are found, the accepted
results are opened, every file is loaded, and every case has a verdict. -/
structure Reaches (build : Checker.Build) (w : Workspace) (g : Given) (p : Project)
    (files : List Path) (store : Store) (ds : List CaseDocument) (vs : List Case.Verdict)
    (b : Case.Bench) : Prop where
  project : Project.load w g = .ok p
  found : Case.discover w (places p g) = .ok files
  nonempty : files ≠ []
  opened : Store.load w Depth.command (Path.ofText p.config.snapshotPath) (g.has updateFlag.long) =
    .ok store
  loaded : List.Forall₂ (fun file d => CaseDocument.load w Depth.command file = .ok d) files ds
  ran : Case.runDocuments (p.frontend.compile build) w ds ⟨p.provider, some store⟩ = (.ok vs, b)

/-- The command ends early: the disk is as it was, and it is no success. -/
def EndsEarly (w : Workspace) (e : Except Stop Unit × Shell) : Prop :=
  e.2.disk = w ∧ e.1 ≠ .ok () ∧ e.1 ≠ .error (.exit 0)

/-- The command ends early, or with saving and showing what the cases came to. -/
def IsEnding (build : Checker.Build) (w : Workspace) (g : Given) (e : Except Stop Unit × Shell) :
    Prop :=
  EndsEarly w e ∨ ∃ p files store ds vs b t, Reaches build w g p files store ds vs b ∧ t.disk = w ∧
    e = (do saveAccepted b.accepted; showSummary (g.has verboseFlag.long) vs : Act Unit).run t

/-- A quiet step may be the last one; else it leaves the ending to those that follow. -/
theorem isEnding_bind {build : Checker.Build} {w : Workspace} {g : Given} {x : Act α}
    (hx : Quiet x) {f : α → Act Unit} {s : Shell} (hs : s.disk = w)
    (hf : ∀ a t, x.run s = (.ok a, t) → t.disk = w → IsEnding build w g ((f a).run t)) :
    IsEnding build w g ((x >>= f).run s) := by
  obtain ⟨hdisk, hexit⟩ := hx s
  rw [run_bind]
  cases hrun : x.run s with
  | mk answer t =>
      rw [hrun] at hdisk hexit
      cases answer with
      | ok a => exact hf a t hrun (hdisk.trans hs)
      | error stop =>
          refine Or.inl ⟨hdisk.trans hs, nofun, fun hzero => hexit ?_⟩
          rw [Except.error.inj hzero]

theorem orReport_eq_ok {o : Outcome α} {a : α} {s t : Shell}
    (h : (orReport o).run s = (.ok a, t)) : o = .ok a := by
  unfold orReport at h
  split at h
  · obtain ⟨u, t', -, hexit⟩ := run_bind_ok h
    cases hexit
  · exact (orStop_eq_ok h).1

/-- **The command ends in one of two ways.** -/
theorem isEnding_run (build : Checker.Build) (g : Given) (s : Shell) :
    IsEnding build s.disk g ((run build g).run s) := by
  unfold run
  rw [run_get_bind]
  refine isEnding_bind (quiet_orReport _) rfl fun p t hp ht => ?_
  have hproject := orReport_eq_ok hp
  rw [run_get_bind, ht]
  refine isEnding_bind (quiet_orStop _) ht fun files t hfiles ht => ?_
  have hfound : Case.discover s.disk (places p g) = .ok files := (orStop_eq_ok hfiles).1
  dsimp only
  split
  · refine isEnding_bind (quiet_say _) ht fun _ t _ ht => ?_
    refine isEnding_bind (quiet_exit Nat.one_ne_zero) ht fun _ t hexit _ => ?_
    cases hexit
  · next hsome =>
    rw [run_get_bind, ht]
    refine isEnding_bind (quiet_orStop _) ht fun store t hstore ht => ?_
    have hopened := (orStop_eq_ok hstore).1
    refine isEnding_bind (quiet_runFiles _ _ _) ht fun done t' hdone ht' => ?_
    obtain ⟨vs, b⟩ := done
    obtain ⟨-, ds, hloaded, hran⟩ := runFiles_eq_ok hdone
    rw [ht] at hloaded hran
    have hnonempty : files ≠ [] := by simpa using hsome
    exact Or.inr ⟨p, files, store, ds, vs, b, t',
      ⟨hproject, hfound, hnonempty, hopened, hloaded, hran⟩, ht', rfl⟩

theorem exit_carryOut {act : Act Unit} {w : Workspace} (h : (act.carryOut w).exit = 0) :
    (act.run ⟨w, ""⟩).1 = .ok () ∨ (act.run ⟨w, ""⟩).1 = .error (.exit 0) := by
  unfold Act.carryOut at h
  cases hrun : act.run ⟨w, ""⟩ with
  | mk answer s =>
      rw [hrun] at h
      cases answer with
      | ok done => exact Or.inl rfl
      | error stop =>
          cases stop with
          | exit code =>
              obtain rfl : code = 0 := h
              exact Or.inr rfl
          | fault fault => cases h

theorem output_carryOut (act : Act Unit) (w : Workspace) :
    (act.carryOut w).output = (act.run ⟨w, ""⟩).2.output := by
  unfold Act.carryOut
  split <;> next heq => rw [heq]

/-- Saving and showing: the disk is as the store leaves it, and it is a success only if all cases
passed and the summary was shown. -/
theorem run_last_steps (u : Store) (verbose : Bool) (vs : List Case.Verdict) (s : Shell) :
    let e := (do saveAccepted (some u); showSummary verbose vs : Act Unit).run s
    e.2.disk = (u.save s.disk Depth.command).2.2 ∧ e.1 ≠ .error (.exit 0) ∧
      (e.1 = .ok () → (∀ v ∈ vs, v.status = .passed) ∧ ∃ before panel shown,
        Console.panel "Cases Passed" (Case.summary verbose vs) = .ok panel ∧
        panel.characters = .ok shown ∧ e.2.output = before ++ String.ofList shown) := by
  intro e
  have he : e = _ := run_bind (saveAccepted (some u)) (fun _ => showSummary verbose vs) s
  obtain ⟨hdisk, hexit⟩ := run_saveAccepted u s
  cases hsave : (saveAccepted (some u)).run s with
  | mk answer t =>
      rw [hsave] at he hdisk hexit
      cases answer with
      | error stop =>
          rw [he]
          exact ⟨hdisk, fun hzero => hexit (by rw [Except.error.inj hzero]), nofun⟩
      | ok done =>
          obtain ⟨hkept, hexit'⟩ := quiet_showSummary verbose vs t
          rw [he]
          refine ⟨hkept.trans hdisk, hexit', fun hok => ?_⟩
          have hrun : (showSummary verbose vs).run t = (.ok (), ((showSummary verbose vs).run t).2) :=
            Prod.ext hok rfl
          obtain ⟨hpassed, panel, shown, hpanel, hshown, houtput⟩ := showSummary_eq_ok hrun
          exact ⟨hpassed, t.output, panel, shown, hpanel, hshown, houtput⟩

variable {build : Checker.Build} {w : Workspace} {g : Given} {p : Project} {files : List Path}
  {store : Store} {ds : List CaseDocument} {vs : List Case.Verdict} {b : Case.Bench}

/-- The store at the end is that of the project, and saving it changes the disk only if a case
entered something. -/
theorem Reaches.saved (h : Reaches build w g p files store ds vs b) :
    ∃ u, b.accepted = some u ∧ ((u.save w Depth.command).2.2 = w ∨
      Case.SomeEntered (p.frontend.compile build) w (ds.flatMap CaseDocument.cases)
        ⟨p.provider, some store⟩ ∧
      IsFiledOnce w (Path.ofText p.config.snapshotPath) (u.save w Depth.command).2.2) := by
  obtain ⟨hpath, -, hclean, -⟩ := Store.load_updating h.opened (g.has updateFlag.long)
  have hran := h.ran
  rw [Case.runDocuments_eq] at hran
  obtain ⟨u, hu, hkept⟩ := Case.runAll_store (p.frontend.compile build) w
    (ds.flatMap CaseDocument.cases) (b := ⟨p.provider, some store⟩) rfl
  refine ⟨u, by rw [← hu, hran], ?_⟩
  rcases save_isFiledOnce u w Depth.command with hsame | ⟨hchanged, hfiled⟩
  · exact Or.inl hsame
  · rw [hkept, hpath] at hfiled
    exact Or.inr ⟨Case.someEntered_of_changed rfl hclean hu hchanged, hfiled⟩

theorem Reaches.verdicts (h : Reaches build w g p files store ds vs b) :
    List.Forall₂ Case.Verdict.IsOf (ds.flatMap CaseDocument.cases) vs := by
  have hran := h.ran
  rw [Case.runDocuments_eq] at hran
  exact Case.forall₂_isOf_runAll (congrArg Prod.fst hran)

theorem Reaches.load_ok (h : Reaches build w g p files store ds vs b) {file : Path}
    (hfile : file ∈ files) : ∃ d, CaseDocument.load w Depth.command file = .ok d := by
  have hboth := h.loaded.imp fun file d hd =>
    (⟨⟨d, hd⟩, hd⟩ : (∃ d, CaseDocument.load w Depth.command file = .ok d) ∧
      CaseDocument.load w Depth.command file = .ok d)
  exact ((List.forall₂_and_left files ds).mp hboth).1 file hfile

theorem Reaches.eq_of_loaded (h : Reaches build w g p files store ds vs b) {ds' : List CaseDocument}
    (hds : List.Forall₂ (fun file d => CaseDocument.load w Depth.command file = .ok d) files ds') :
    ds' = ds :=
  List.right_unique_forall₂' (fun _ _ _ hd hd' => Except.ok.inj (hd.symm.trans hd')) hds h.loaded

/-- A project with a folder of stub files and two case files, of which the second one cannot be
read. -/
def halfReadable : Workspace :=
  ⟨.folder [("stubs", .folder []), ("a.typecase", .file (Text.utf8 "[case a]\n")),
    ("b.typecase", .file (Text.utf8 "[case]\n"))], []⟩

/-- Both files are run, and results are to be replaced. -/
def bothFiles : Given := ⟨[(updateFlag, none)], ["a.typecase", "b.typecase"]⟩

end Casebook.Command

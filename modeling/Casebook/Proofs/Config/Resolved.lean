import Casebook.Config.Load
import Casebook.Proofs.Mount.Hermetic
import Casebook.Proofs.Outcome

/-!
# Resolved configurations

The relative paths of a configuration are below the folder of the project, and only the disk says
where they lead. Once they are resolved, neither that folder nor the disk has a say any more.

Main statement (`resolve_stable`): a configuration that was resolved has the same paths in the same
places, each of them absolute, and those that were absolute before as they were written. All else in
it is as it was, and resolving it again, for whatever project and on whatever disk, changes nothing.
-/

namespace Casebook.Config

open Disk

variable {w : Workspace} {project : Path}

/-! ## One path -/

/-- What a path is resolved to is absolute. It is the path itself if that is absolute, and else the
real location of the path below the project. -/
structure IsResolved (w : Workspace) (project : Path) (path resolved : Text) : Prop where
  absolute : Text.begins "/" resolved = true
  kept : Text.begins "/" path = true → resolved = path
  located : Text.begins "/" path = false →
    ∃ p, w.real (project.below path) = .ok p ∧ resolved = p.text

theorem resolvePath_of_begins {path : Text} (h : Text.begins "/" path = true) (w : Workspace)
    (project : Path) : resolvePath w project path = .ok path :=
  if_pos (Mount.begins_slash_iff.mp h)

/-- A real location is written with a slash in front. -/
theorem begins_text_of_real {p q : Path} (h : w.real p = .ok q) :
    Text.begins "/" q.text = true := by
  unfold Workspace.real at h
  dsimp only at h
  split at h
  · cases h
  · cases h
  · obtain rfl := Except.ok.inj h
    exact Text.begins_iff.mpr ⟨_, rfl⟩

/-- **One path.** -/
theorem isResolved_of_resolvePath {path resolved : Text}
    (h : resolvePath w project path = .ok resolved) : IsResolved w project path resolved := by
  cases habs : Text.begins "/" path with
  | true =>
      obtain rfl := Except.ok.inj ((resolvePath_of_begins habs w project).symm.trans h)
      exact ⟨habs, fun _ => rfl, fun hrel => absurd (habs.symm.trans hrel) (by decide)⟩
  | false =>
      have hrel : ¬ (Path.ofText path).isAbsolute = true := by
        rw [← Mount.begins_slash_iff, habs]
        exact Bool.false_ne_true
      unfold resolvePath at h
      rw [if_neg hrel] at h
      obtain ⟨p, hreal, hp⟩ := bind_eq_ok h
      obtain rfl := Except.ok.inj hp
      cases hw : w.real (project.below path) with
      | error fault =>
          rw [hw] at hreal
          cases hreal
      | ok q =>
          rw [hw] at hreal
          obtain rfl := Except.ok.inj hreal
          exact ⟨begins_text_of_real hw, fun hyes => absurd (habs.symm.trans hyes) (by decide),
            fun _ => ⟨q, hw, rfl⟩⟩

/-! ## Whole configurations -/

/-- The name of a configured file stays, and the path of its source is resolved. -/
def IsResolvedFile (w : Workspace) (project : Path) (file resolved : Text × Text) : Prop :=
  resolved.1 = file.1 ∧ IsResolved w project file.2 resolved.2

/-- Every path of a configuration is absolute. -/
structure IsSettled (c : Config) : Prop where
  searchPaths : ∀ path ∈ c.provider.searchPaths, Text.begins "/" path = true
  files : ∀ file ∈ c.provider.files, Text.begins "/" file.2 = true
  casePaths : ∀ path ∈ c.casePaths, Text.begins "/" path = true
  snapshotPath : Text.begins "/" c.snapshotPath = true

/-- What has no relative paths is as it is, whatever the project and the disk. -/
theorem IsSettled.resolve_eq {c : Config} (h : c.IsSettled) (w : Workspace) (project : Path) :
    resolve w project c = .ok c := by
  have hpaths : ∀ paths : List Text, (∀ path ∈ paths, Text.begins "/" path = true) →
      paths.mapM (resolvePath w project) = .ok paths :=
    fun paths hall => mapM_of_fixed fun path hpath =>
      resolvePath_of_begins (hall path hpath) w project
  have hfiles : (c.provider.files.mapM fun f => do
      return (f.1, ← resolvePath w project f.2)) = Except.ok (ε := Fault) c.provider.files := by
    refine mapM_of_fixed fun file hfile => ?_
    rw [resolvePath_of_begins (h.files file hfile)]
    rfl
  unfold resolve
  dsimp only
  rw [hpaths _ h.searchPaths, hfiles, hpaths _ h.casePaths, resolvePath_of_begins h.snapshotPath]
  rfl

/-- **What resolving does.** The paths of a configuration are resolved one by one and keep their
order, configured files keep their names, and nothing else is touched. Resolving the result gives it
back, for any project, from any folder and on any disk. -/
theorem resolve_stable {c r : Config} (h : resolve w project c = .ok r) :
    List.Forall₂ (IsResolved w project) c.provider.searchPaths r.provider.searchPaths ∧
      List.Forall₂ (IsResolvedFile w project) c.provider.files r.provider.files ∧
      List.Forall₂ (IsResolved w project) c.casePaths r.casePaths ∧
      IsResolved w project c.snapshotPath r.snapshotPath ∧
      r = { c with
        provider := { c.provider with
          searchPaths := r.provider.searchPaths, files := r.provider.files }
        casePaths := r.casePaths, snapshotPath := r.snapshotPath } ∧
      ∀ (w' : Workspace) (project' : Path), resolve w' project' r = .ok r := by
  unfold resolve at h
  dsimp only at h
  obtain ⟨searchPaths, hsearch, h⟩ := bind_eq_ok h
  obtain ⟨files, hfiles, h⟩ := bind_eq_ok h
  obtain ⟨casePaths, hcases, h⟩ := bind_eq_ok h
  obtain ⟨snapshotPath, hsnapshot, h⟩ := bind_eq_ok h
  obtain rfl := Except.ok.inj h
  have hsearch : List.Forall₂ (IsResolved w project) c.provider.searchPaths searchPaths :=
    (mapM_eq_ok_iff.mp hsearch).imp fun _ _ => isResolved_of_resolvePath
  have hcases : List.Forall₂ (IsResolved w project) c.casePaths casePaths :=
    (mapM_eq_ok_iff.mp hcases).imp fun _ _ => isResolved_of_resolvePath
  have hfiles : List.Forall₂ (IsResolvedFile w project) c.provider.files files := by
    refine (mapM_eq_ok_iff.mp hfiles).imp fun file resolved hfile => ?_
    obtain ⟨path, hpath, hresolved⟩ := bind_eq_ok hfile
    obtain rfl := Except.ok.inj hresolved
    exact ⟨rfl, isResolved_of_resolvePath hpath⟩
  have hsnapshot := isResolved_of_resolvePath hsnapshot
  refine ⟨hsearch, hfiles, hcases, hsnapshot, rfl, IsSettled.resolve_eq ⟨?_, ?_, ?_, ?_⟩⟩
  · intro path hpath
    obtain ⟨_, -, hresolved⟩ := exists_left_of_forall₂ hsearch hpath
    exact hresolved.absolute
  · intro file hfile
    obtain ⟨_, -, -, hresolved⟩ := exists_left_of_forall₂ hfiles hfile
    exact hresolved.absolute
  · intro path hpath
    obtain ⟨_, -, hresolved⟩ := exists_left_of_forall₂ hcases hpath
    exact hresolved.absolute
  · exact hsnapshot.absolute

/-- A folder of stub files that is a link out of the project. -/
def linkedStubs : Workspace :=
  ⟨.folder [("lib", .folder [("pyi", .folder [])]),
    ("app", .folder [("stubs", .link "../lib/pyi"), ("a.txt", .file [])])], ["app"]⟩

/-- Two search paths, of which one is absolute, and one file behind the link. -/
def linkedConfig : Config :=
  { Config.usual with
    provider := ⟨["stubs/..", "/lib/./pyi/"], [("a.pyi", "stubs/../a.txt")], ".pyi"⟩ }

/-- Two dots lead back from where the link leads, and nothing of it is left behind. -/
theorem resolve_stable_linked : ∃ r, resolve linkedStubs (Path.ofText "") linkedConfig = .ok r ∧
    r.provider = ⟨["/lib", "/lib/./pyi/"], [("a.pyi", "/lib/a.txt")], ".pyi"⟩ ∧
    ∀ (w' : Workspace) (project' : Path), resolve w' project' r = .ok r := by
  have hresolved : resolve linkedStubs (Path.ofText "") linkedConfig = .ok { linkedConfig with
      provider := ⟨["/lib", "/lib/./pyi/"], [("a.pyi", "/lib/a.txt")], ".pyi"⟩
      casePaths := ["/app/typecases"]
      snapshotPath := "/app/typecases/__snapshots__/snapshots.yaml" } := by cbv
  obtain ⟨-, -, -, -, -, hstable⟩ := resolve_stable hresolved
  exact ⟨_, hresolved, rfl, hstable⟩

end Casebook.Config

import Casebook.Proofs.Disk.Following
import Casebook.Proofs.Stub.Answers
import Casebook.Proofs.Stub.Names

/-!
# What a provider of folders holds

Folders are searched in order, and a file takes the place of one of the same name that was found
before. Nothing is read until a file is loaded, so where each name was placed shows only then.

Main statement (`ofFiles_exact`): a provider is made exactly if every folder can be searched, and
otherwise a setup fault is reported. It then has the files put in by hand and the files of the
folders, and a name that was not put in by hand is loaded from the last folder that holds such a
file. A folder with a path that no disk can have is no setup fault (`null_path_escapes`).
-/

namespace Casebook.Stub

open Disk

namespace Index

variable {w : Workspace} {suffix : Text}

/-! ## One folder -/

/-- The folder cannot be listed, or one of its entries with the suffix cannot be examined. An entry
that is missing, below a file or in a loop of links was examined: it is no file. -/
def IsUnsearchable (w : Workspace) (suffix : Text) (folder : Path) : Prop :=
  (∃ fault, w.names folder.text = .error fault) ∨
    ∃ names, w.names folder.text = .ok names ∧ ∃ name ∈ names, Text.ends suffix name = true ∧
      ∃ trouble path, w.stat (folder.below name).text = .error (.refused trouble path) ∧
        trouble.isAbsence = false

/-- One of the entries of the folder has this name with the suffix, and links followed it is a file
of these bytes. -/
def HoldsFile (w : Workspace) (suffix : Text) (folder : Path) (name : Text) (bytes : List UInt8) :
    Prop :=
  (∃ names, w.names folder.text = .ok names ∧ name ∈ names) ∧ Text.ends suffix name = true ∧
    w.stat (folder.below name).text = .ok (.file bytes)

/-- The folder is the last one that holds a file of the name. -/
def IsLastHolder (w : Workspace) (suffix : Text) (folders : List Path) (name : Text)
    (folder : Path) (bytes : List UInt8) : Prop :=
  ∃ before after, folders = before ++ folder :: after ∧ HoldsFile w suffix folder name bytes ∧
    ∀ f ∈ after, ∀ other, ¬ HoldsFile w suffix f name other

/-- A folder with a path that a disk can have is refused with a trouble, if it is not listed. -/
theorem names_refused {folder : Path} {fault : Disk.Fault}
    (hpath : PathFlaw.ofText? folder.text = none) (h : w.names folder.text = .error fault) :
    ∃ trouble path, fault = .refused trouble path := by
  rcases w.names_cases folder.text with
    ⟨flaw, hflaw, -⟩ | ⟨-, ⟨names, hnames⟩ | ⟨trouble, hrefused⟩⟩
  · cases hpath.symm.trans hflaw
  · cases h.symm.trans hnames
  · exact ⟨trouble, _, Except.error.inj (h.symm.trans hrefused)⟩

/-- **One folder** is searched and its files are found, or it cannot be searched. -/
theorem filesIn_cases (w : Workspace) (suffix : Text) (folder : Path) :
    (∃ names, filesIn w suffix folder = .ok names ∧ ¬ IsUnsearchable w suffix folder ∧
        ∀ name, name ∈ names ↔ ∃ bytes, HoldsFile w suffix folder name bytes) ∨
      ∃ fault, filesIn w suffix folder = .error fault ∧ IsUnsearchable w suffix folder ∧
        (PathFlaw.ofText? folder.text = none → ∃ trouble path, fault = .refused trouble path) := by
  cases hlisted : w.names folder.text with
  | error fault =>
      refine Or.inr ⟨fault, ?_, Or.inl ⟨fault, hlisted⟩, fun hpath => names_refused hpath hlisted⟩
      unfold filesIn
      rw [hlisted]
      rfl
  | ok listed =>
      have hfiles : filesIn w suffix folder = do
          let out ← List.filterAuxM (fun name => w.isFile (folder.below name).text)
            (listed.filter (Text.ends suffix ·)) []
          return out.reverse := by
        unfold filesIn
        rw [hlisted]
        rfl
      rcases filterAuxM_cases (fun name => w.isFile (folder.below name).text)
        (listed.filter (Text.ends suffix ·)) [] with
        ⟨out, hout, hok, hmem⟩ | ⟨name, hname, e, he, hout⟩
      · refine Or.inl ⟨out.reverse, by rw [hfiles, hout]; rfl, ?_, fun name => ?_⟩
        · rintro (⟨fault, hfault⟩ | ⟨names, hnames, name, hname, hends, trouble, path, hstat, habs⟩)
          · cases hlisted.symm.trans hfault
          · cases hlisted.symm.trans hnames
            obtain ⟨b, hb⟩ := hok name (List.mem_filter.mpr ⟨hname, hends⟩)
            cases hb.symm.trans (Workspace.isFile_eq_error_iff.mpr ⟨trouble, path, rfl, hstat, habs⟩)
        · rw [List.mem_reverse, hmem, Workspace.isFile_eq_true_iff, List.mem_filter]
          unfold HoldsFile
          simp only [List.not_mem_nil, false_or, hlisted, Except.ok.injEq, exists_eq_left',
            exists_and_left, and_assoc]
      · obtain ⟨hname, hends⟩ := List.mem_filter.mp hname
        obtain ⟨trouble, path, rfl, hstat, habs⟩ := Workspace.isFile_eq_error_iff.mp he
        exact Or.inr ⟨_, by rw [hfiles, hout]; rfl,
          Or.inr ⟨listed, hlisted, name, hname, hends, trouble, path, hstat, habs⟩,
          fun _ => ⟨trouble, path, rfl⟩⟩

theorem origin?_insertAll (folder : Path) (names : List Text) (i : Index) (name : Text) :
    (names.foldl (fun i name => i.insert name (.folder folder)) i).origin? name =
      if name ∈ names then some (.folder folder) else i.origin? name := by
  induction names generalizing i with
  | nil => simp
  | cons n names ih =>
      rw [List.foldl_cons, ih, origin?_insert]
      by_cases hmem : name ∈ names
      · simp [hmem]
      · by_cases hn : name = n <;> simp [hn, hmem]

/-! ## All folders -/

/-- Where the search of the folders places a name: in the last folder that holds such a file. -/
def IsPlaced (w : Workspace) (suffix : Text) (folders : List Path) (name : Text) :
    Option Origin → Prop
  | some (.folder folder) => ∃ bytes, IsLastHolder w suffix folders name folder bytes
  | some .synthetic => False
  | none => ∀ folder ∈ folders, ∀ bytes, ¬ HoldsFile w suffix folder name bytes

theorem IsPlaced.snoc_held {folders : List Path} {name : Text} {folder : Path}
    {bytes : List UInt8} (h : HoldsFile w suffix folder name bytes) :
    IsPlaced w suffix (folders ++ [folder]) name (some (.folder folder)) :=
  ⟨bytes, folders, [], rfl, h, by simp⟩

theorem IsPlaced.snoc_other {folders : List Path} {name : Text} {o : Option Origin}
    (ho : IsPlaced w suffix folders name o) {folder : Path}
    (h : ∀ bytes, ¬ HoldsFile w suffix folder name bytes) :
    IsPlaced w suffix (folders ++ [folder]) name o := by
  match o, ho with
  | some (.folder f), ⟨bytes, before, after, hfolders, hf, hafter⟩ =>
      refine ⟨bytes, before, after ++ [folder], by rw [hfolders]; simp, hf, ?_⟩
      intro g hg
      rcases List.mem_append.mp hg with hg | hg
      · exact hafter g hg
      · rw [List.mem_singleton.mp hg]
        exact h
  | none, ho =>
      intro g hg
      rcases List.mem_append.mp hg with hg | hg
      · exact ho g hg
      · rw [List.mem_singleton.mp hg]
        exact h

/-- One more folder is searched and names are placed in it, or it cannot be searched. -/
theorem addFolder_cases (w : Workspace) (suffix : Text) (i : Index) (folder : Path) :
    (∃ j, addFolder w suffix i folder = .ok j ∧ ¬ IsUnsearchable w suffix folder ∧
        ∀ folders name, IsPlaced w suffix folders name (i.origin? name) →
          IsPlaced w suffix (folders ++ [folder]) name (j.origin? name)) ∨
      ∃ fault, addFolder w suffix i folder = .error fault ∧ IsUnsearchable w suffix folder ∧
        (PathFlaw.ofText? folder.text = none → ∃ report, fault = .setup report) := by
  unfold addFolder
  rcases filesIn_cases w suffix folder with
    ⟨names, hfiles, hsearched, hmem⟩ | ⟨fault, hfiles, hun, hrefused⟩
  · rw [hfiles]
    refine Or.inl ⟨_, rfl, hsearched, fun folders name hplaced => ?_⟩
    rw [origin?_insertAll]
    split
    · next hname =>
      obtain ⟨bytes, hholds⟩ := (hmem name).mp hname
      exact .snoc_held hholds
    · next hname =>
      exact hplaced.snoc_other fun bytes hholds => hname ((hmem name).mpr ⟨bytes, hholds⟩)
  · rw [hfiles]
    cases fault with
    | refused trouble path => exact Or.inr ⟨_, rfl, hun, fun _ => ⟨_, rfl⟩⟩
    | noPath flaw =>
        refine Or.inr ⟨_, rfl, hun, fun hpath => ?_⟩
        obtain ⟨trouble, path, heq⟩ := hrefused hpath
        cases heq

theorem build_snoc (w : Workspace) (suffix : Text) (folders : List Path) (folder : Path) :
    build w suffix (folders ++ [folder]) =
      build w suffix folders >>= (addFolder w suffix · folder) := by
  unfold build
  rw [List.foldlM_append]
  refine congrArg _ (funext fun i => ?_)
  rw [List.foldlM_cons]
  cases addFolder w suffix i folder <;> rfl

/-- **All folders** are searched and every name is placed, or one of them cannot be searched. -/
theorem build_cases (w : Workspace) (suffix : Text) (folders : List Path) :
    (∃ i, build w suffix folders = .ok i ∧ (∀ folder ∈ folders, ¬ IsUnsearchable w suffix folder) ∧
        ∀ name, IsPlaced w suffix folders name (i.origin? name)) ∨
      ∃ fault, build w suffix folders = .error fault ∧
        (∃ folder ∈ folders, IsUnsearchable w suffix folder) ∧
        ((∀ folder ∈ folders, PathFlaw.ofText? folder.text = none) →
          ∃ report, fault = .setup report) := by
  induction folders using List.reverseRecOn with
  | nil => exact Or.inl ⟨.empty, rfl, by simp, fun name => by simp [IsPlaced, empty, origin?]⟩
  | append_singleton folders folder ih =>
      rw [build_snoc]
      rcases ih with ⟨i, hi, hsearched, hplaced⟩ | ⟨fault, hfault, ⟨f, hf, hun⟩, hsetup⟩
      · rw [hi]
        rcases addFolder_cases w suffix i folder with
          ⟨j, hj, hlast, hmore⟩ | ⟨fault, hfault, hun, hsetup⟩
        · refine Or.inl ⟨j, hj, fun f hf => ?_, fun name => hmore folders name (hplaced name)⟩
          rcases List.mem_append.mp hf with hf | hf
          · exact hsearched f hf
          · rw [List.mem_singleton.mp hf]
            exact hlast
        · exact Or.inr ⟨fault, hfault, ⟨folder, by simp, hun⟩,
            fun hpaths => hsetup (hpaths folder (by simp))⟩
      · rw [hfault]
        exact Or.inr ⟨fault, rfl, ⟨f, List.mem_append_left _ hf, hun⟩,
          fun hpaths => hsetup fun f hf => hpaths f (List.mem_append_left _ hf)⟩

end Index

/-! ## Providers -/

namespace Provider

open Index (IsUnsearchable HoldsFile IsLastHolder IsPlaced)

variable {w : Workspace} {suffix : Text} {folders : List Path} {files : List (Text × Text)}

theorem ofFiles_of_build {i : Index} (h : Index.build w suffix folders = .ok i) :
    ofFiles w suffix folders files = (Provider.mk suffix i .empty).addAll files := by
  unfold ofFiles ofFolders
  rw [h]
  rfl

theorem ofFiles_of_build_error {fault : Fault} (h : Index.build w suffix folders = .error fault)
    (files : List (Text × Text)) : ofFiles w suffix folders files = .error fault := by
  unfold ofFiles ofFolders
  rw [h]
  rfl

/-- A name that a folder holds is loaded from the file there. -/
theorem load_of_held {p : Provider} {name : Text} {folder : Path} {bytes : List UInt8}
    (htext : p.contents.text? name = none) (horigin : p.index.origin? name = some (.folder folder))
    (hstat : w.stat (folder.below name).text = .ok (.file bytes)) :
    (p.load w name).1 = decodeBytes bytes := by
  have hread : Contents.readFile w (folder.below name) = decodeBytes bytes := by
    unfold Contents.readFile Workspace.bytes
    rw [hstat]
    rfl
  rw [load_answer, htext, Option.elim_none, found, horigin]
  exact hread

section
variable {i : Index} {p : Provider} {name text : Text}
  (hp : (Provider.mk suffix i .empty).addAll files = .ok p)
include hp

/-- What was put in by hand is loaded as it was put in. -/
theorem load_added (hdistinct : (files.map Prod.fst).Nodup) (hfile : (name, text) ∈ files) :
    p.isLoadable name = true ∧ (p.load w name).1 = .ok text := by
  obtain ⟨htext, horigin⟩ := addAll_of_mem hp hdistinct hfile
  refine ⟨isLoadable_of_origin horigin, ?_⟩
  rw [load_answer, htext]
  rfl

/-- Any other name is loaded from the last folder that holds such a file, or is unresolved. -/
theorem load_not_added (hplaced : ∀ name, IsPlaced w suffix folders name (i.origin? name))
    (hname : name ∉ files.map Prod.fst) :
    (∃ folder bytes, IsLastHolder w suffix folders name folder bytes ∧
        p.isLoadable name = true ∧ (p.load w name).1 = decodeBytes bytes) ∨
      (∀ folder ∈ folders, ∀ bytes, ¬ HoldsFile w suffix folder name bytes) ∧
        p.isLoadable name = false ∧
        ∃ report, (p.load w name).1 = .error (.unresolved report) := by
  obtain ⟨htext, horigin⟩ := addAll_of_not_mem hp hname
  have hnone : p.contents.text? name = none := htext
  have hwhere : p.index.origin? name = i.origin? name := horigin
  have hhere := hplaced name
  rw [← hwhere] at hhere
  match hcase : p.index.origin? name, hhere with
  | some (.folder folder), ⟨bytes, hlast⟩ =>
      have hstat : w.stat (folder.below name).text = .ok (.file bytes) := by
        obtain ⟨-, -, -, ⟨-, -, hstat⟩, -⟩ := id hlast
        exact hstat
      exact Or.inl ⟨folder, bytes, hlast, isLoadable_of_origin hcase,
        load_of_held hnone hcase hstat⟩
  | none, hno =>
      refine Or.inr ⟨hno, Index.has_eq_false_iff.mpr hcase, unplacedReport p.index name, ?_⟩
      rw [load_answer, hnone, Option.elim_none, found, hcase]

end

/-- **What a provider of folders and files holds.** Let the paths of the folders be ones that a disk
can have, and the files put in by hand have names, each once. A setup fault is reported exactly if
some folder cannot be searched, and otherwise there is a provider. Its names are those of the files
put in by hand and of the files that the folders hold, in strict order; and whatever was loaded
before, a name is loaded with the text that was put in under it, else with what the bytes of the
file in the last folder that holds one encode, and else it is unresolved. -/
theorem ofFiles_exact (hpaths : ∀ folder ∈ folders, PathFlaw.ofText? folder.text = none)
    (hfiles : ∀ file ∈ files, file.1 ≠ "") (hdistinct : (files.map Prod.fst).Nodup) :
    ((∃ report, ofFiles w suffix folders files = .error (.setup report)) ↔
      ∃ folder ∈ folders, IsUnsearchable w suffix folder) ∧
    ((¬ ∃ folder ∈ folders, IsUnsearchable w suffix folder) →
      ∃ p, ofFiles w suffix folders files = .ok p ∧
        p.names.Pairwise Precedes ∧
        (∀ name, name ∈ p.names ↔ name ∈ files.map Prod.fst ∨
          ∃ folder ∈ folders, ∃ bytes, HoldsFile w suffix folder name bytes) ∧
        ∀ earlier name,
          (∀ text, (name, text) ∈ files → ((loadAll w p earlier).load w name).1 = .ok text) ∧
          (name ∉ files.map Prod.fst →
            (∃ folder bytes, IsLastHolder w suffix folders name folder bytes ∧
              ((loadAll w p earlier).load w name).1 = decodeBytes bytes) ∨
            (∀ folder ∈ folders, ∀ bytes, ¬ HoldsFile w suffix folder name bytes) ∧
              ∃ report, ((loadAll w p earlier).load w name).1 = .error (.unresolved report))) := by
  rcases Index.build_cases w suffix folders with
    ⟨i, hi, hsearched, hplaced⟩ | ⟨fault, hfault, hun, hsetup⟩
  · obtain ⟨p, hadd⟩ := addAll_ok (Provider.mk suffix i .empty) hfiles
    have hp : ofFiles w suffix folders files = .ok p := by
      rw [ofFiles_of_build hi, hadd]
    refine ⟨⟨?_, ?_⟩, fun _ => ⟨p, hp, pairwise_names (index_ofFiles Index.isKept_isDistinct hp),
      fun name => ?_, fun earlier name => ?_⟩⟩
    · rintro ⟨report, hreport⟩
      cases hp.symm.trans hreport
    · rintro ⟨folder, hfolder, hun⟩
      exact absurd hun (hsearched folder hfolder)
    · rw [mem_names_iff]
      by_cases hname : name ∈ files.map Prod.fst
      · obtain ⟨⟨_, text⟩, hfile, rfl⟩ := List.mem_map.mp hname
        simp only [(load_added (w := w) hadd hdistinct hfile).1, hname, true_or]
      · rcases load_not_added hadd hplaced hname with
          ⟨folder, bytes, ⟨before, after, rfl, hholds, -⟩, hloadable, -⟩ | ⟨hno, hloadable, -⟩
        · simp only [hloadable, true_iff]
          exact Or.inr ⟨folder, by simp, bytes, hholds⟩
        · simp only [hloadable, hname, Bool.false_eq_true, false_or, false_iff]
          rintro ⟨folder, hfolder, bytes, hholds⟩
          exact hno folder hfolder bytes hholds
    · rw [(alike_loadAll w p earlier).load name]
      refine ⟨fun text hfile => (load_added hadd hdistinct hfile).2, fun hname => ?_⟩
      rcases load_not_added hadd hplaced hname with
        ⟨folder, bytes, hlast, -, hload⟩ | ⟨hno, -, hload⟩
      · exact Or.inl ⟨folder, bytes, hlast, hload⟩
      · exact Or.inr ⟨hno, hload⟩
  · obtain ⟨report, rfl⟩ := hsetup hpaths
    exact ⟨⟨fun _ => hun, fun _ => ⟨report, ofFiles_of_build_error hfault files⟩⟩,
      fun hall => absurd hun hall⟩

/-- Two folders with a file of one name, a link in the later one, and a folder that is named like a
file. -/
def overlapping : Workspace :=
  ⟨.folder [
    ("a", .folder [("m.pyi", .file [0x61]), ("n.pyi", .file [0x6E]), ("d.pyi", .folder [])]),
    ("b", .folder [("m.pyi", .link "../a/n.pyi"), ("gone.pyi", .link "nowhere")])], []⟩

/-- The link in the later folder is followed to the file that it leads to. -/
theorem ofFiles_exact_overlapping :
    ∃ p, ofFiles overlapping ".pyi" [Path.ofText "a", Path.ofText "b"] [("s.pyi", "x")] = .ok p ∧
      p.names.Pairwise Precedes ∧ (p.load overlapping "s.pyi").1 = .ok ("x" : Text) ∧
      (p.load overlapping "m.pyi").1 = .ok ("n" : Text) := by
  obtain ⟨hsetup, hmade⟩ := @ofFiles_exact overlapping ".pyi" [Path.ofText "a", Path.ofText "b"]
    [("s.pyi", "x")] (by decide) (by decide) (by decide)
  have hok : ∃ p, ofFiles overlapping ".pyi" [Path.ofText "a", Path.ofText "b"]
      [("s.pyi", "x")] = .ok p := ⟨⟨".pyi", ⟨[("m.pyi", .folder (Path.ofText "b")),
        ("n.pyi", .folder (Path.ofText "a")), ("s.pyi", .synthetic)]⟩,
        ⟨[("s.pyi", "x")], 0⟩⟩, by cbv⟩
  have hsearched : ¬ ∃ folder ∈ [Path.ofText "a", Path.ofText "b"],
      IsUnsearchable overlapping ".pyi" folder := by
    intro hun
    obtain ⟨report, hreport⟩ := hsetup.mpr hun
    obtain ⟨p, hp⟩ := hok
    cases hp.symm.trans hreport
  obtain ⟨p, hp, hnames, -, hloads⟩ := hmade hsearched
  refine ⟨p, hp, hnames, (hloads [] "s.pyi").1 "x" (by simp), ?_⟩
  have hstat : overlapping.stat ((Path.ofText "b").below "m.pyi").text = .ok (.file [0x6E]) := by
    cbv
  have hlisted : overlapping.names (Path.ofText "b").text = .ok ["m.pyi", "gone.pyi"] := by cbv
  have hheld : HoldsFile overlapping ".pyi" (Path.ofText "b") "m.pyi" [0x6E] :=
    ⟨⟨_, hlisted, by simp⟩, by decide, hstat⟩
  rcases (hloads [] "m.pyi").2 (by decide) with ⟨folder, bytes, hlast, hload⟩ | ⟨hno, -⟩
  · obtain ⟨before, after, hfolders, hholds, hafter⟩ := hlast
    rcases before with - | ⟨first, - | ⟨second, before⟩⟩
    · cases hfolders
      exact absurd hheld (hafter _ (by simp) _)
    · cases hfolders
      cases hstat.symm.trans hholds.2.2
      exact hload.trans (by cbv)
    · simp at hfolders
  · exact absurd hheld (hno _ (by simp) _)

/-- A folder with a path that no disk can have cannot be searched, and this is not reported as a
fault of the setup. -/
theorem null_path_escapes :
    IsUnsearchable ⟨.folder [], []⟩ ".pyi" (Path.ofText "a\x00b") ∧
      ofFiles ⟨.folder [], []⟩ ".pyi" [Path.ofText "a\x00b"] [] = .error (.disk (.noPath .null)) ∧
      ¬ ∃ report, ofFiles ⟨.folder [], []⟩ ".pyi" [Path.ofText "a\x00b"] [] =
        .error (.setup report) := by
  have hnames : Workspace.names ⟨.folder [], []⟩ (Path.ofText "a\x00b").text =
      .error (.noPath .null) := by cbv
  have hfault : ofFiles ⟨.folder [], []⟩ ".pyi" [Path.ofText "a\x00b"] [] =
      .error (.disk (.noPath .null)) := by cbv
  refine ⟨Or.inl ⟨_, hnames⟩, hfault, ?_⟩
  rintro ⟨report, hreport⟩
  rw [hfault] at hreport
  cases hreport

end Provider

end Casebook.Stub

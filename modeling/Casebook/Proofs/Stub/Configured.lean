import Casebook.Proofs.Outcome
import Casebook.Proofs.Stub.Folders

/-!
# What a configured provider holds

A configuration names single files and, for each, the path of its source. The sources are read
first, in their order, then the folders are searched, then the texts are put in by hand. What the
disk refuses on the way is reported as a fault of the setup.

Main statement (`ofConfig_exact`): a provider that holds the text of every source is made, or a
setup fault is reported, exactly if the making does not escape: its first trouble is no path that no
disk can have, no source that is not UTF-8, and no file without a name. A source that is not UTF-8
does escape (`latin_source_escapes`).
-/

namespace Casebook.Stub

open Disk

/-! ## Folders -/

namespace Index

variable {w : Workspace} {suffix : Text}

/-- A folder with a path that no disk can have cannot be listed, for this flaw. -/
theorem names_of_flaw {folder : Path} {flaw : PathFlaw}
    (h : PathFlaw.ofText? folder.text = some flaw) :
    w.names folder.text = .error (.noPath flaw) := by
  unfold Workspace.names
  rw [Workspace.stat_of_flaw h]
  rfl

theorem addFolder_of_flaw {folder : Path} {flaw : PathFlaw} (i : Index)
    (h : PathFlaw.ofText? folder.text = some flaw) :
    addFolder w suffix i folder = .error (.disk (.noPath flaw)) := by
  unfold addFolder filesIn
  rw [names_of_flaw h]
  rfl

/-- The search of the folders ends at the first one with a path that no disk can have, if all before
it can be searched. -/
theorem build_of_flaw {before after : List Path} {folder : Path} {flaw : PathFlaw}
    (hbefore : ∀ f ∈ before, ¬ IsUnsearchable w suffix f)
    (h : PathFlaw.ofText? folder.text = some flaw) :
    build w suffix (before ++ folder :: after) = .error (.disk (.noPath flaw)) := by
  rcases build_cases w suffix before with ⟨i, hi, -, -⟩ | ⟨fault, -, ⟨f, hf, hun⟩, -⟩
  · unfold build at hi ⊢
    rw [List.foldlM_append, hi]
    show List.foldlM (addFolder w suffix) i (folder :: after) = _
    rw [List.foldlM_cons, addFolder_of_flaw i h]
    rfl
  · exact absurd hun (hbefore f hf)

/-- The first folder that cannot be searched has a path that no disk can have. -/
def IsFlawedFirst (w : Workspace) (suffix : Text) (folders : List Path) : Prop :=
  ∃ before folder after, folders = before ++ folder :: after ∧
    (∀ f ∈ before, ¬ IsUnsearchable w suffix f) ∧ PathFlaw.ofText? folder.text ≠ none

/-- A search that ends is reported as a fault of the setup, or the first folder that cannot be
searched has a path that no disk can have. -/
theorem build_error_cases {folders : List Path} {fault : Fault}
    (h : build w suffix folders = .error fault) :
    (∃ report, fault = .setup report) ∨ IsFlawedFirst w suffix folders := by
  induction folders using List.reverseRecOn generalizing fault with
  | nil => cases h
  | append_singleton folders folder ih =>
      rw [build_snoc] at h
      rcases build_cases w suffix folders with ⟨i, hi, hsearched, -⟩ | ⟨first, hfirst, -, -⟩
      · rw [hi] at h
        by_cases hflaw : PathFlaw.ofText? folder.text = none
        · rcases addFolder_cases w suffix i folder with ⟨j, hj, -, -⟩ | ⟨last, hlast, -, hsetup⟩
          · cases h.symm.trans hj
          · obtain ⟨report, rfl⟩ := hsetup hflaw
            cases h.symm.trans hlast
            exact Or.inl ⟨report, rfl⟩
        · exact Or.inr ⟨folders, folder, [], rfl, hsearched, hflaw⟩
      · rw [hfirst] at h
        cases h
        rcases ih hfirst with hsetup | ⟨before, f, after, rfl, hbefore, hflaw⟩
        · exact Or.inl hsetup
        · exact Or.inr ⟨before, f, after ++ [folder], by simp, hbefore, hflaw⟩

end Index

/-! ## Sources -/

namespace Provider

open Index (IsUnsearchable IsFlawedFirst)

variable {w : Workspace} {suffix : Text} {c : ProviderConfig}

/-- The text that a source has: its characters, with every line end turned into a line feed. -/
def IsSourceText (w : Workspace) (source text : Text) : Prop :=
  ∃ chars, w.readChars (Path.ofText source).text = .ok chars ∧ text = .ofChars chars

/-- No disk can have the path of the source, or it is a file whose bytes are not UTF-8. -/
def IsIllegible (w : Workspace) (source : Text) : Prop :=
  PathFlaw.ofText? (Path.ofText source).text ≠ none ∨
    ∃ bytes flaw, w.bytes (Path.ofText source).text = .ok bytes ∧
      Text.decodeUtf8 bytes = .error flaw

/-- **One source** is read, or refused by the disk, or illegible. -/
theorem readConfigured_cases (w : Workspace) (file : Text × Text) :
    (∃ text, IsSourceText w file.2 text ∧ readConfigured w file = .ok (file.1, text) ∧
        ¬ IsIllegible w file.2) ∨
      (∃ report, readConfigured w file = .error (.setup report) ∧ ¬ IsIllegible w file.2) ∨
      ∃ fault, readConfigured w file = .error fault ∧ (∀ report, fault ≠ .setup report) ∧
        IsIllegible w file.2 := by
  unfold readConfigured IsSourceText IsIllegible Workspace.readChars
  rcases w.bytes_cases (Path.ofText file.2).text with
    ⟨flaw, hflaw, hbytes⟩ | ⟨hflaw, ⟨bytes, hbytes⟩ | ⟨trouble, hbytes⟩⟩
  · refine Or.inr (Or.inr ⟨.disk (.noPath flaw), ?_, by simp, Or.inl (by simp [hflaw])⟩)
    rw [hbytes]
    rfl
  · rw [hbytes]
    cases hdecoded : Text.decodeUtf8 bytes with
    | ok chars =>
        refine Or.inl ⟨.ofChars (Text.withLineFeeds chars), ⟨_, ?_, rfl⟩, ?_, ?_⟩
        · simp [Except.mapError, bind, Except.bind, charsOf, hdecoded, pure, Except.pure]
        · simp [Except.mapError, bind, Except.bind, charsOf, hdecoded, pure, Except.pure]
        · simp [hflaw, hdecoded]
    | error flaw =>
        refine Or.inr (Or.inr ⟨.undecodable flaw, ?_, by simp, Or.inr ⟨bytes, flaw, rfl, hdecoded⟩⟩)
        simp [Except.mapError, bind, Except.bind, charsOf, hdecoded]
  · refine Or.inr (Or.inl ⟨fileReport file.1 file.2 trouble, ?_, ?_⟩)
    · rw [hbytes]
      rfl
    · simp [hflaw, hbytes]

theorem readConfigured_ok {file read : Text × Text} (h : readConfigured w file = .ok read) :
    read.1 = file.1 ∧ IsSourceText w file.2 read.2 := by
  rcases readConfigured_cases w file with
    ⟨text, htext, hread, -⟩ | ⟨report, hread, -⟩ | ⟨fault, hread, -, -⟩
  · cases h.symm.trans hread
    exact ⟨rfl, htext⟩
  · cases h.symm.trans hread
  · cases h.symm.trans hread

theorem readConfigured_of_text {file : Text × Text} {text : Text}
    (h : IsSourceText w file.2 text) : ∃ read, readConfigured w file = .ok read := by
  obtain ⟨chars, hchars, -⟩ := h
  refine ⟨(file.1, .ofChars chars), ?_⟩
  unfold readConfigured
  rw [hchars]

/-! ## The whole making -/

theorem ofConfig_of_read {files : List (Text × Text)}
    (h : c.files.mapM (readConfigured w) = .ok files) :
    ofConfig w c = ofFiles w c.suffix (c.searchPaths.map Path.ofText) files := by
  unfold ofConfig ofFiles
  rw [h]
  rfl

theorem ofConfig_of_unread {fault : Fault}
    (h : c.files.mapM (readConfigured w) = .error fault) : ofConfig w c = .error fault := by
  unfold ofConfig
  rw [h]
  rfl

/-- A file is only refused for its name. -/
theorem addAll_fault {p : Provider} {files : List (Text × Text)} {fault : Fault}
    (h : p.addAll files = .error fault) :
    (∃ file ∈ files, file.1 = "") ∧ ∃ given, fault = .badFileName given := by
  induction files generalizing p with
  | nil => cases h
  | cons file files ih =>
      unfold Provider.addAll at ih h
      rw [List.foldlM_cons] at h
      by_cases hname : file.1 = ""
      · rw [hname, add_empty] at h
        cases h
        exact ⟨⟨file, by simp, hname⟩, _, rfl⟩
      · rw [add_of_ne p hname] at h
        obtain ⟨⟨f, hf, hempty⟩, hgiven⟩ := ih h
        exact ⟨⟨f, List.mem_cons_of_mem _ hf, hempty⟩, hgiven⟩

/-- Every source has a text. -/
def SourcesRead (w : Workspace) (c : ProviderConfig) : Prop :=
  ∀ file ∈ c.files, ∃ text, IsSourceText w file.2 text

/-- Every folder can be searched. -/
def FoldersSearched (w : Workspace) (c : ProviderConfig) : Prop :=
  ∀ folder ∈ c.searchPaths.map Path.ofText, ¬ IsUnsearchable w c.suffix folder

/-- What ends the making and is not reported as a fault of the setup: the first source without a
text is illegible; or all sources have a text, and the first folder that cannot be searched has a
path that no disk can have; or all folders can be searched as well, and a file has no name. -/
inductive Escapes (w : Workspace) (c : ProviderConfig) : Prop
  | source {before after : List (Text × Text)} {file : Text × Text} :
      c.files = before ++ file :: after → (∀ f ∈ before, ∃ text, IsSourceText w f.2 text) →
      IsIllegible w file.2 → Escapes w c
  | folder : SourcesRead w c → IsFlawedFirst w c.suffix (c.searchPaths.map Path.ofText) →
      Escapes w c
  | name : SourcesRead w c → FoldersSearched w c → ("" : Text) ∈ c.files.map Prod.fst → Escapes w c

/-- Every configured file can be loaded, and from whatever disk other files were loaded before or it
is loaded now, it has the text that its source had. -/
def HoldsSources (w : Workspace) (c : ProviderConfig) (p : Provider) : Prop :=
  ∀ file ∈ c.files, p.isLoadable file.1 = true ∧ ∃ text, IsSourceText w file.2 text ∧
    ∀ later earlier, ((loadAll later p earlier).load later file.1).1 = .ok text

theorem files_read (h : SourcesRead w c) : ∃ files, c.files.mapM (readConfigured w) = .ok files ∧
    List.Forall₂ (fun file read => readConfigured w file = .ok read) c.files files := by
  rcases mapM_cases (readConfigured w) c.files with
    hread | ⟨before, file, after, fault, hfiles, -, hfault⟩
  · exact hread
  · obtain ⟨text, htext⟩ := h file (by simp [hfiles])
    obtain ⟨read, hread⟩ := readConfigured_of_text htext
    cases hread.symm.trans hfault

/-- Files that were read keep their names. -/
theorem names_of_read {files read : List (Text × Text)}
    (h : List.Forall₂ (fun file read => readConfigured w file = .ok read) files read) :
    read.map Prod.fst = files.map Prod.fst := by
  induction h with
  | nil => rfl
  | cons hfile _ ih => rw [List.map_cons, List.map_cons, ih, (readConfigured_ok hfile).1]

theorem mem_of_read {files read : List (Text × Text)} {file : Text × Text}
    (h : List.Forall₂ (fun file read => readConfigured w file = .ok read) files read)
    (hfile : file ∈ files) : ∃ text, IsSourceText w file.2 text ∧ (file.1, text) ∈ read := by
  induction h with
  | nil => cases hfile
  | @cons first firstRead _ _ hfirst _ ih =>
      rcases List.mem_cons.mp hfile with rfl | hfile
      · obtain ⟨hname, htext⟩ := readConfigured_ok hfirst
        exact ⟨firstRead.2, htext, by simp [← hname]⟩
      · obtain ⟨text, htext, hmem⟩ := ih hfile
        exact ⟨text, htext, List.mem_cons_of_mem _ hmem⟩

/-- What escapes is no fault of the setup. -/
theorem fault_of_escapes (h : Escapes w c) :
    ∃ fault, ofConfig w c = .error fault ∧ ∀ report, fault ≠ .setup report := by
  cases h with
  | @source before after file hfiles hbefore hillegible =>
      rcases readConfigured_cases w file with ⟨-, -, -, hlegible⟩ | ⟨-, -, hlegible⟩ |
        ⟨fault, hfault, hother, -⟩
      · exact absurd hillegible hlegible
      · exact absurd hillegible hlegible
      · refine ⟨fault, ofConfig_of_unread ?_, hother⟩
        rw [hfiles]
        refine mapM_of_first (fun f hf => ?_) hfault
        obtain ⟨text, htext⟩ := hbefore f hf
        exact readConfigured_of_text htext
  | folder hread hflawed =>
      obtain ⟨files, hfiles, -⟩ := files_read hread
      obtain ⟨before, folder, after, hfolders, hbefore, hflaw⟩ := hflawed
      obtain ⟨flaw, hflaw⟩ := Option.ne_none_iff_exists'.mp hflaw
      refine ⟨.disk (.noPath flaw), ?_, by simp⟩
      rw [ofConfig_of_read hfiles, hfolders]
      exact ofFiles_of_build_error (Index.build_of_flaw hbefore hflaw) files
  | name hread hsearched hname =>
      obtain ⟨files, hfiles, hall⟩ := files_read hread
      rw [← names_of_read hall] at hname
      obtain ⟨file, hfile, hempty⟩ := List.mem_map.mp hname
      rcases Index.build_cases w c.suffix (c.searchPaths.map Path.ofText) with
        ⟨i, hi, -, -⟩ | ⟨-, -, ⟨folder, hfolder, hun⟩, -⟩
      · obtain ⟨fault, hfault⟩ := addAll_error (Provider.mk c.suffix i .empty) hfile hempty
        obtain ⟨-, given, rfl⟩ := addAll_fault hfault
        refine ⟨.badFileName given, ?_, by simp⟩
        rw [ofConfig_of_read hfiles, ofFiles_of_build hi, hfault]
      · exact absurd hun (hsearched folder hfolder)

/-- The making ends in one of three ways. -/
theorem ofConfig_cases (w : Workspace) {c : ProviderConfig}
    (hdistinct : (c.files.map Prod.fst).Nodup) :
    (∃ p, ofConfig w c = .ok p ∧ HoldsSources w c p ∧ SourcesRead w c ∧ FoldersSearched w c) ∨
      (∃ report, ofConfig w c = .error (.setup report)) ∨ Escapes w c := by
  rcases mapM_cases (readConfigured w) c.files with
    ⟨files, hfiles, hall⟩ | ⟨before, file, after, fault, hsplit, hbefore, hfault⟩
  · have hread : SourcesRead w c := fun file hfile => by
      obtain ⟨text, htext, -⟩ := mem_of_read hall hfile
      exact ⟨text, htext⟩
    rw [ofConfig_of_read hfiles]
    rcases Index.build_cases w c.suffix (c.searchPaths.map Path.ofText) with
      ⟨i, hi, hsearched, -⟩ | ⟨fault, hfault, -, -⟩
    · cases hadd : (Provider.mk c.suffix i .empty).addAll files with
      | ok p =>
          refine Or.inl ⟨p, by rw [ofFiles_of_build hi, hadd], fun file hfile => ?_, hread,
            hsearched⟩
          rw [← names_of_read hall] at hdistinct
          obtain ⟨text, htext, hmem⟩ := mem_of_read hall hfile
          refine ⟨(load_added (w := w) hadd hdistinct hmem).1, text, htext, fun later earlier => ?_⟩
          rw [(alike_loadAll later p earlier).load file.1]
          exact (load_added hadd hdistinct hmem).2
      | error fault =>
          obtain ⟨⟨file, hfile, hempty⟩, -⟩ := addAll_fault hadd
          refine Or.inr (Or.inr (.name hread hsearched ?_))
          rw [← names_of_read hall]
          exact List.mem_map.mpr ⟨file, hfile, hempty⟩
    · rcases Index.build_error_cases hfault with ⟨report, rfl⟩ | hflawed
      · exact Or.inr (Or.inl ⟨report, ofFiles_of_build_error hfault files⟩)
      · exact Or.inr (Or.inr (.folder hread hflawed))
  · rcases readConfigured_cases w file with ⟨text, -, hok, -⟩ | ⟨report, hsetup, -⟩ |
      ⟨other, -, -, hillegible⟩
    · cases hok.symm.trans hfault
    · refine Or.inr (Or.inl ⟨report, ofConfig_of_unread ?_⟩)
      rw [hsplit]
      exact mapM_of_first hbefore hsetup
    · refine Or.inr (Or.inr (.source hsplit (fun f hf => ?_) hillegible))
      obtain ⟨read, hread⟩ := hbefore f hf
      exact ⟨read.2, (readConfigured_ok hread).2⟩

/-- **What a configuration makes.** Let no name be configured twice. Then a provider is made in
which every configured file has the text of its source, or a setup fault is reported, exactly if the
making does not escape; and a provider is made exactly if every source has a text, every folder can
be searched, and every file has a name. -/
theorem ofConfig_exact (hdistinct : (c.files.map Prod.fst).Nodup) :
    (((∃ p, ofConfig w c = .ok p ∧ HoldsSources w c p) ∨
        ∃ report, ofConfig w c = .error (.setup report)) ↔ ¬ Escapes w c) ∧
      ((∃ p, ofConfig w c = .ok p) ↔
        SourcesRead w c ∧ FoldersSearched w c ∧ ("" : Text) ∉ c.files.map Prod.fst) := by
  constructor
  · constructor
    · intro hends hescapes
      obtain ⟨fault, hfault, hother⟩ := fault_of_escapes hescapes
      rcases hends with ⟨p, hp, -⟩ | ⟨report, hreport⟩
      · cases hp.symm.trans hfault
      · cases hreport.symm.trans hfault
        exact hother report rfl
    · intro hescapes
      rcases ofConfig_cases w hdistinct with ⟨p, hp, hholds, -, -⟩ | hsetup | hescaped
      · exact Or.inl ⟨p, hp, hholds⟩
      · exact Or.inr hsetup
      · exact absurd hescaped hescapes
  · constructor
    · rintro ⟨p, hp⟩
      have hescapes : ¬ Escapes w c := by
        intro hescapes
        obtain ⟨fault, hfault, -⟩ := fault_of_escapes hescapes
        cases hp.symm.trans hfault
      rcases ofConfig_cases w hdistinct with
        ⟨-, -, -, hread, hsearched⟩ | ⟨report, hreport⟩ | hescaped
      · exact ⟨hread, hsearched, fun hname => hescapes (.name hread hsearched hname)⟩
      · cases hp.symm.trans hreport
      · exact absurd hescaped hescapes
    · rintro ⟨hread, hsearched, hname⟩
      obtain ⟨files, hfiles, hall⟩ := files_read hread
      rw [← names_of_read hall] at hname
      rw [ofConfig_of_read hfiles]
      rcases Index.build_cases w c.suffix (c.searchPaths.map Path.ofText) with
        ⟨i, hi, -, -⟩ | ⟨-, -, ⟨folder, hfolder, hun⟩, -⟩
      · rw [ofFiles_of_build hi]
        refine addAll_ok _ fun file hfile hempty => hname ?_
        exact List.mem_map.mpr ⟨file, hfile, hempty⟩
      · exact absurd hun (hsearched folder hfolder)

/-- A source that is read through a link, below a folder of stub files. -/
def linkedSource : Workspace :=
  ⟨.folder [("a.pyi", .link "stubs/n.txt"),
    ("stubs", .folder [("n.txt", .file [0x78, 0x0D, 0x0A]), ("m.pyi", .file [])])], []⟩

/-- The link is followed, and the line end of the source is turned into a line feed. -/
theorem ofConfig_exact_linked :
    ∃ p, ofConfig linkedSource ⟨["stubs"], [("s.pyi", "./a.pyi")], ".pyi"⟩ = .ok p ∧
      ∀ later, (p.load later "s.pyi").1 = .ok ("x\n" : Text) := by
  obtain ⟨hends, -⟩ := @ofConfig_exact linkedSource ⟨["stubs"], [("s.pyi", "./a.pyi")], ".pyi"⟩
    (by decide)
  have hok : ∃ p, ofConfig linkedSource ⟨["stubs"], [("s.pyi", "./a.pyi")], ".pyi"⟩ = .ok p :=
    ⟨⟨".pyi", ⟨[("m.pyi", .folder (Path.ofText "stubs")), ("s.pyi", .synthetic)]⟩,
      ⟨[("s.pyi", "x\n")], 0⟩⟩, by cbv⟩
  have hescapes : ¬ Escapes linkedSource ⟨["stubs"], [("s.pyi", "./a.pyi")], ".pyi"⟩ := by
    intro hescapes
    obtain ⟨fault, hfault, -⟩ := fault_of_escapes hescapes
    obtain ⟨p, hp⟩ := hok
    cases hp.symm.trans hfault
  rcases hends.mpr hescapes with ⟨p, hp, hholds⟩ | ⟨report, hreport⟩
  · obtain ⟨-, text, ⟨chars, hchars, rfl⟩, hload⟩ := hholds ("s.pyi", "./a.pyi") (by simp)
    have hsource : linkedSource.readChars (Path.ofText "./a.pyi").text = .ok ['x', '\n'] := by cbv
    cases hsource.symm.trans hchars
    exact ⟨p, hp, fun later => hload later []⟩
  · obtain ⟨p, hp⟩ := hok
    cases hp.symm.trans hreport

/-- A source with one byte that is not UTF-8. -/
def latinSource : Workspace := ⟨.folder [("bad.pyi", .file [0xFF])], []⟩

/-- A source that is there but is not UTF-8 gives neither a provider nor a fault of the setup. -/
theorem latin_source_escapes :
    ofConfig latinSource ⟨[], [("a.pyi", "bad.pyi")], ".pyi"⟩ =
        .error (.undecodable ⟨0, 1, 0xFF, .start⟩) ∧
      (¬ ∃ p, ofConfig latinSource ⟨[], [("a.pyi", "bad.pyi")], ".pyi"⟩ = .ok p) ∧
      ¬ ∃ report, ofConfig latinSource ⟨[], [("a.pyi", "bad.pyi")], ".pyi"⟩ =
        .error (.setup report) := by
  have hfault : ofConfig latinSource ⟨[], [("a.pyi", "bad.pyi")], ".pyi"⟩ =
      .error (.undecodable ⟨0, 1, 0xFF, .start⟩) := by cbv
  refine ⟨hfault, ?_, ?_⟩
  · rintro ⟨p, hp⟩
    cases hp.symm.trans hfault
  · rintro ⟨report, hreport⟩
    cases hreport.symm.trans hfault

end Provider

end Casebook.Stub

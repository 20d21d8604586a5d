import Casebook.Proofs.Case.Verdicts
import Casebook.Proofs.Command.Compile
import Casebook.Proofs.Mount.Bytes

/-!
# Files that cases bring

A case may bring stub files of its own. They are put into a fork of the provider under the
names in their headers, as written there, while the checker asks by path, and a path leads to
names in their normal form only. Main statement (`case_files_shown`): the checker finds a file
whose name is in the normal form below the mount root, and reads the bytes of its text there;
no path leads to any other file of the case. So a file with two slashes in a row in its name is
never seen (`doubled_slash_hidden`).
-/

namespace Casebook.Mount

open Disk

/-- A file is there under a path, with the bytes of a text of characters. -/
def Shows (w : Workspace) (v : View) (path text : Text) : Prop :=
  (Look.isFile w path).run v = (.ok true, v) ∧
    ∃ cs, text = .ofChars cs ∧ (Look.read w path).run v = (.ok (Text.encodeUtf8 cs), v)

variable {v : View} {path name text : Text}

/-- A file whose text is known is shown where its name is asked for. -/
theorem shows_of_known (w : Workspace) (hpath : v.name? path = some name) (hname : name ≠ "")
    (hloadable : v.provider.isLoadable name = true)
    (htext : v.provider.contents.text? name = some text) (hhalves : text.hasHalves = false) :
    Shows w v path text := by
  obtain ⟨cs, rfl⟩ := Text.exists_eq_ofChars hhalves
  refine ⟨?_, cs, rfl, ?_⟩
  · rw [Look.run_isFile hpath, Text.isEmpty_eq_false hname, hloadable]
    rfl
  · exact run_read_known hpath hloadable htext w

/-- Names that are not in the normal form are asked for under no path. -/
theorem name?_ne_of_not_isNormalName (hroot : IsMountRoot v.root) (hname : name ≠ "")
    (hnormal : ¬ IsNormalName name) (path : Text) : v.name? path ≠ some name := by
  intro hpath
  rcases isNormalName_of_stubName? hroot hpath with hempty | hn
  · exact hname hempty
  · exact hnormal hn

end Casebook.Mount

namespace Casebook.Case

open Disk Mount Stub.Provider

theorem defaultRoot_isMountRoot : IsMountRoot defaultRoot := ⟨by decide, by decide⟩

/-- **The checker sees the files of a case exactly if their names are in the normal form**, though
all of them are put into the provider that the case is compiled with. -/
theorem case_files_shown {text : List Char} {d : CaseDocument} (hparse : parse text = .ok d)
    {c : CaseSpec} (hc : c ∈ d.cases) (hnamed : ∀ file ∈ c.files, file.1 ≠ "")
    (p : Stub.Provider) (w : Workspace) (realRoots : List Text) :
    ∃ own, ownProvider c p = .ok own ∧ ∀ name contents, (name, contents) ∈ c.files →
      own.isLoadable name = true ∧
      (IsNormalName name → Shows w (View.make own defaultRoot realRoots)
        (defaultRoot ++ ("/" : Text) ++ name) contents) ∧
      (¬ IsNormalName name →
        ∀ path, (View.make own defaultRoot realRoots).name? path ≠ some name) := by
  have hplain := (isPlain_of_parse hparse).cases c hc
  obtain ⟨own, hown⟩ := ownProvider_ok c hnamed p
  refine ⟨own, hown, fun name contents hfile => ?_⟩
  have hne : name ≠ "" := hnamed _ hfile
  have hadd : p.fork.addAll c.files = .ok own := by
    unfold ownProvider at hown
    rwa [if_neg] at hown
    intro hempty
    rw [List.isEmpty_iff.mp hempty] at hfile
    cases hfile
  obtain ⟨htext, horigin⟩ := addAll_of_mem hadd hplain.distinct hfile
  have hloadable := isLoadable_of_origin horigin
  have hroot : IsMountRoot (View.make own defaultRoot realRoots).root :=
    defaultRoot_isMountRoot.normalise
  refine ⟨hloadable, fun hnormal => ?_, name?_ne_of_not_isNormalName hroot hne⟩
  have htop : (View.make own defaultRoot realRoots).name? defaultRoot = some "" :=
    if_pos (normalise_normalise defaultRoot_isMountRoot.isAbsolute).symm
  have hpath := stubName?_below hroot htop hnormal
  rw [inFolder_empty] at hpath
  exact shows_of_known w hpath hne hloadable htext (hplain.files _ hfile).2

/-- A case with one stub file in a folder. -/
def filed : List Char := "[case a]\n[file pkg/x.pyi]\nx: int\n".toList

/-- The file of a case is seen in its folder, also if the provider has other files. -/
theorem case_files_shown_filed : ∃ c own, (∃ d, parse filed = .ok d ∧ c ∈ d.cases) ∧
    ownProvider c oneFile = .ok own ∧
    Shows ⟨.folder [], []⟩ (View.make own defaultRoot [])
      (defaultRoot ++ ("/" : Text) ++ "pkg/x.pyi") "x: int\n" := by
  have hparse : parse filed = .ok ⟨"0.1", [⟨"a", "", [("pkg/x.pyi", "x: int\n")], none⟩]⟩ := by cbv
  obtain ⟨own, hown, hfiles⟩ := case_files_shown hparse List.mem_cons_self (by decide) oneFile
    ⟨.folder [], []⟩ []
  exact ⟨_, own, ⟨_, hparse, List.mem_cons_self⟩, hown,
    (hfiles "pkg/x.pyi" "x: int\n" List.mem_cons_self).2.1 (by decide)⟩

/-- A case with a file in whose name two slashes stand in a row. -/
def doubled : List Char := "[case a]\n[file pkg//x.pyi]\nx: int\n".toList

/-- **A file whose name is not in the normal form is not seen**, although the case file gives it
to the case and the provider has it. -/
theorem doubled_slash_hidden : ∃ c own, (∃ d, parse doubled = .ok d ∧ c ∈ d.cases) ∧
    (("pkg//x.pyi" : Text), ("x: int\n" : Text)) ∈ c.files ∧ ownProvider c oneFile = .ok own ∧
    own.isLoadable "pkg//x.pyi" = true ∧
    (Look.isFile ⟨.folder [], []⟩ (defaultRoot ++ ("/" : Text) ++ "pkg//x.pyi")).run
      (View.make own defaultRoot []) = (.ok false, View.make own defaultRoot []) := by
  have hparse : parse doubled =
      .ok ⟨"0.1", [⟨"a", "", [("pkg//x.pyi", "x: int\n")], none⟩]⟩ := by cbv
  refine ⟨_, _, ⟨_, hparse, List.mem_cons_self⟩, List.mem_cons_self, rfl, rfl, ?_⟩
  -- the path leads to another name, which nobody has put in
  have hname : stubName? (normalise defaultRoot) (defaultRoot ++ ("/" : Text) ++ "pkg//x.pyi") =
      some ("pkg/x.pyi" : Text) := by decide
  exact (Look.run_isFile (v := View.make _ defaultRoot []) hname).trans rfl

end Casebook.Case

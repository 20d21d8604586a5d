import Casebook.Case.Discover
import Casebook.Case.Load
import Casebook.Proofs.Disk.Following
import Casebook.Proofs.Disk.Order
import Casebook.Proofs.Outcome

/-!
# Which case files are found

A path that leads to a file stands for itself, and one that leads to a folder stands for all that is
below it under a name with the suffix of case files, whatever that is: a link or a folder may have
such a name too.

Main statements: what is found are the shares of the paths, one after the other, as long as nothing
is too long (`discover_exact`, `discover_longName`); and the disk is not in the way of loading it
exactly if below the folders all that has the suffix leads to files (`discover_files_iff`,
`discover_finds_folder`).
-/

namespace Casebook.Case

open Disk

/-- Below an entry at a path stands this entry at that path, under a name with the suffix of case
files. A link has nothing below it. -/
def IsCaseBelow (path : Path) (e : Entry) (p : Path) (inner : Entry) : Prop :=
  ∃ folders stem, e.at? (folders ++ [stem ++ (caseSuffix : Text)]) = some inner ∧
    p = path.descend (folders ++ [stem ++ (caseSuffix : Text)])

/-- The case files that a path stands for: the path itself for a file; for a folder what is below it
under a name with the suffix, in order; and otherwise, as nothing is there, none. -/
inductive IsShare (w : Workspace) (path : Path) : List Path → Prop
  | file {bytes : List UInt8} (found : w.stat path.text = .ok (.file bytes)) : IsShare w path [path]
  | folder {cs : List (Text × Entry)} {share : List Path}
      (found : w.stat path.text = .ok (.folder cs)) (increasing : share.Pairwise Path.Before)
      (exact : ∀ p, p ∈ share ↔ ∃ inner, IsCaseBelow path (.folder cs) p inner) :
      IsShare w path share
  | absent {fault : Disk.Fault} (missing : w.stat path.text = .error fault) : IsShare w path []

/-- The path is too long for the disk or has a name that is, or it leads to a folder and the path of
a folder below that one is too long. -/
inductive IsTooLong (w : Workspace) (path : Path) : Prop
  | itself (refused : w.stat path.text = .error (.refused .nameTooLong path.text))
  | below {cs children : List (Text × Entry)} {folders : Location}
      (found : w.stat path.text = .ok (.folder cs))
      (inner : (Entry.folder cs).at? folders = some (.folder children))
      (long : pathLimit < nameLength (path.descend folders).text)

variable {w : Workspace} {path p : Path} {e : Entry}

theorem mem_foundBelow (he : e.IsProper) :
    p ∈ foundBelow path e ↔ ∃ inner, IsCaseBelow path e p inner := by
  unfold foundBelow IsCaseBelow
  rw [mem_pathsBelow he]
  constructor
  · rintro ⟨folders, name, inner, hat, hends, rfl⟩
    obtain ⟨stem, rfl⟩ := Text.ends_iff.mp hends
    exact ⟨inner, folders, stem, hat, rfl⟩
  · rintro ⟨inner, folders, stem, hat, rfl⟩
    exact ⟨folders, _, inner, hat, Text.ends_iff.mpr ⟨stem, rfl⟩, rfl⟩

/-- What is found below a folder is in order. -/
theorem pairwise_foundBelow (he : e.IsProper) :
    ((foundBelow path e).mergeSort Path.le).Pairwise Path.Before := by
  have hroot : ∀ p ∈ foundBelow path e, p.root = path.root := by
    intro p hp
    obtain ⟨inner, folders, stem, -, rfl⟩ := (mem_foundBelow he).mp hp
    rfl
  exact Path.pairwise_before_mergeSort hroot (nodup_pathsBelow he path)

theorem length_le_of_stat (h : w.stat path.text = .ok e) : nameLength path.text ≤ pathLimit := by
  obtain ⟨spot, hlocate, -⟩ := Workspace.stat_eq_ok_iff.mp h
  obtain ⟨-, -, hlength, -⟩ := Workspace.locate_eq_ok_iff.mp hlocate
  exact Nat.not_lt.mp hlength

theorem isTooLong_of_folder {cs : List (Text × Entry)} (hcs : (Entry.folder cs).IsProper)
    (hstat : w.stat path.text = .ok (.folder cs)) :
    IsTooLong w path ↔ ∃ p ∈ pathsBelow (fun _ e => e.isFolder) path (.folder cs),
      pathLimit < nameLength p.text := by
  constructor
  · rintro (hrefused | @⟨_, children, folders, hfound, hinner, hlong⟩)
    · cases hstat.symm.trans hrefused
    · cases hstat.symm.trans hfound
      cases folders using List.reverseRecOn with
      | nil =>
          -- the folder itself was found, so its own path is short enough
          have hnil : path.descend [] = path := by simp [Path.descend]
          rw [hnil] at hlong
          exact absurd (length_le_of_stat hstat) (Nat.not_le.mpr hlong)
      | append_singleton folders name =>
          exact ⟨_, (mem_pathsBelow hcs).mpr ⟨folders, name, _, hinner, rfl, rfl⟩, hlong⟩
  · rintro ⟨p, hp, hlong⟩
    obtain ⟨folders, name, inner, hat, hfolder, rfl⟩ := (mem_pathsBelow hcs).mp hp
    cases inner with
    | folder children => exact .below hstat hat hlong
    | file bytes => cases hfolder
    | link target => cases hfolder

/-- Where there is no folder, only the path itself can be too long. -/
theorem not_isTooLong (hfolder : ∀ cs, w.stat path.text ≠ .ok (.folder cs))
    (hrefused : w.stat path.text ≠ .error (.refused .nameTooLong path.text)) :
    ¬ IsTooLong w path := by
  rintro (hlong | ⟨hfound, -, -⟩)
  · exact hrefused hlong
  · exact hfolder _ hfound

theorem discoverAt_folder {cs : List (Text × Entry)} (hstat : w.stat path.text = .ok (.folder cs)) :
    discoverAt w path = match unlisted? path (.folder cs) with
      | some folder => .error (.refused .nameTooLong folder.text)
      | none => .ok ((foundBelow path (.folder cs)).mergeSort Path.le) := by
  unfold discoverAt Workspace.isFile Workspace.isFolder Workspace.test
  rw [hstat]
  show (match unlisted? path (.folder cs) with
    | some folder => throw (Disk.Fault.refused .nameTooLong folder.text)
    | none => pure ((foundBelow path (.folder cs)).mergeSort Path.le)) = _
  cases unlisted? path (.folder cs) <;> rfl

/-- **One path** stands for its share of the case files, unless it is too long. -/
theorem discoverAt_cases (hw : w.IsProper) (path : Path) :
    (∃ share, discoverAt w path = .ok share ∧ IsShare w path share ∧ ¬ IsTooLong w path) ∨
      ∃ p, discoverAt w path = .error (.refused .nameTooLong p) ∧ IsTooLong w path := by
  cases hstat : w.stat path.text with
  | ok e =>
      cases e with
      | file bytes =>
          refine Or.inl ⟨[path], ?_, .file hstat, not_isTooLong (by simp [hstat]) (by simp [hstat])⟩
          unfold discoverAt Workspace.isFile Workspace.test
          rw [hstat]
          rfl
      | link target => cases hw.isLink_stat hstat
      | folder cs =>
          have hcs := hw.stat hstat
          rw [discoverAt_folder hstat, isTooLong_of_folder hcs hstat]
          cases hfind : unlisted? path (.folder cs) with
          | none =>
              refine Or.inl ⟨_, rfl, .folder hstat (pairwise_foundBelow hcs) fun p => ?_, ?_⟩
              · rw [List.mem_mergeSort, mem_foundBelow hcs]
              · have hshort := List.find?_eq_none.mp hfind
                simpa using hshort
          | some p =>
              have hlong : pathLimit < nameLength p.text := by simpa using List.find?_some hfind
              exact Or.inr ⟨p.text, rfl, p, List.mem_of_find?_eq_some hfind, hlong⟩
  | error fault =>
      unfold discoverAt Workspace.isFile Workspace.isFolder Workspace.test
      rw [hstat]
      rcases Workspace.stat_eq_error hstat with
        ⟨flaw, -, rfl⟩ | ⟨-, trouble, rfl, habsent | rfl⟩
      · exact Or.inl ⟨[], rfl, .absent hstat, not_isTooLong (by simp [hstat]) (by simp [hstat])⟩
      · have hlong : trouble ≠ .nameTooLong := by
          rintro rfl
          cases habsent
        refine Or.inl ⟨[], ?_, .absent hstat,
          not_isTooLong (by simp [hstat]) (by simpa [hstat] using hlong)⟩
        simp only [habsent, if_true]
        rfl
      · exact Or.inr ⟨path.text, rfl, .itself hstat⟩

/-! ## All paths -/

theorem discover_of_shares {paths : List Text} {shares : List (List Path)}
    (h : List.Forall₂ (fun text share => discoverAt w (Path.ofText text) = .ok share) paths
      shares) : discover w paths = .ok shares.flatten := by
  unfold discover
  rw [mapM_eq_ok_iff.mpr h]
  rfl

theorem discover_cases (hw : w.IsProper) (paths : List Text) :
    (∃ shares, discover w paths = .ok shares.flatten ∧
        List.Forall₂ (fun text share => IsShare w (Path.ofText text) share) paths shares ∧
        ∀ text ∈ paths, ¬ IsTooLong w (Path.ofText text)) ∨
      ∃ p, discover w paths = .error (.disk (.refused .nameTooLong p)) ∧
        ∃ text ∈ paths, IsTooLong w (Path.ofText text) := by
  rcases mapM_cases (fun text => discoverAt w (Path.ofText text)) paths with
    ⟨shares, -, hall⟩ | ⟨before, text, after, fault, rfl, hbefore, hfault⟩
  · have hshare : ∀ text share, discoverAt w (Path.ofText text) = .ok share →
        IsShare w (Path.ofText text) share ∧ ¬ IsTooLong w (Path.ofText text) := by
      intro text share hok
      rcases discoverAt_cases hw (Path.ofText text) with ⟨_, hsame, h⟩ | ⟨p, herror, -⟩
      · cases hok.symm.trans hsame
        exact h
      · cases hok.symm.trans herror
    refine Or.inl ⟨shares, discover_of_shares hall,
      hall.imp fun text share h => (hshare text share h).1, fun text htext => ?_⟩
    obtain ⟨share, -, hok⟩ := exists_right_of_forall₂ hall htext
    exact (hshare text share hok).2
  · rcases discoverAt_cases hw (Path.ofText text) with ⟨share, hok, -⟩ | ⟨p, herror, hlong⟩
    · cases hok.symm.trans hfault
    · refine Or.inr ⟨p, ?_, text, List.mem_append_right before List.mem_cons_self, hlong⟩
      unfold discover
      rw [mapM_of_first hbefore herror]
      rfl

/-- **Which case files are found.** If nothing is too long, these are the shares of the paths, one
after the other. If anything is, nothing is found. -/
theorem discover_exact (hw : w.IsProper) (paths : List Text) :
    ((∀ text ∈ paths, ¬ IsTooLong w (Path.ofText text)) →
      ∃ shares, List.Forall₂ (fun text share => IsShare w (Path.ofText text) share) paths shares ∧
        discover w paths = .ok shares.flatten) ∧
    ((∃ text ∈ paths, IsTooLong w (Path.ofText text)) →
      ∃ p, discover w paths = .error (.disk (.refused .nameTooLong p))) := by
  rcases discover_cases hw paths with
    ⟨shares, hfound, hall, hshort⟩ | ⟨p, hrefused, text, htext, hlong⟩
  · refine ⟨fun _ => ⟨shares, hall, hfound⟩, ?_⟩
    rintro ⟨text, htext, hlong⟩
    exact absurd hlong (hshort text htext)
  · exact ⟨fun hshort => absurd hlong (hshort text htext), fun _ => ⟨p, hrefused⟩⟩

/-- A folder with a link that leads out of it again, and with a name that stands in front of a path
as a text, but not name by name. -/
def caseFolder : List (Text × Entry) :=
  [("a!.typecase", .file []), ("a", .folder [("c.typecase", .file [])]), ("up", .link ".."),
    ("notes", .file [])]

/-- A disk with that folder and a file. -/
def caseTree : Workspace := ⟨.folder [("d", .folder caseFolder), ("f", .file [])], []⟩

theorem isProper_caseTree : caseTree.IsProper := by
  have hinner : (Entry.folder [("c.typecase", .file [])]).IsProper :=
    .folder (by decide) (by decide) (List.forall_mem_singleton.mpr (.file []))
  have hfolder : (Entry.folder caseFolder).IsProper := by
    refine .folder (by decide) (by decide) ?_
    simp only [caseFolder, List.forall_mem_cons]
    exact ⟨.file _, hinner, .link _, .file _, by simp⟩
  refine ⟨.folder (by decide) (by decide) ?_, _, rfl⟩
  simp only [List.forall_mem_cons]
  exact ⟨hfolder, .file _, by simp⟩

theorem discover_caseTree : discover caseTree ["d", "gone", "f"] = .ok
    [⟨.relative, ["d", "a", "c.typecase"]⟩, ⟨.relative, ["d", "a!.typecase"]⟩,
      ⟨.relative, ["f"]⟩] := by
  have hfound : foundBelow (Path.ofText "d") (.folder caseFolder) =
      [⟨.relative, ["d", "a!.typecase"]⟩, ⟨.relative, ["d", "a", "c.typecase"]⟩] := rfl
  have hsorted : (foundBelow (Path.ofText "d") (.folder caseFolder)).mergeSort Path.le =
      [⟨.relative, ["d", "a", "c.typecase"]⟩, ⟨.relative, ["d", "a!.typecase"]⟩] := by
    rw [hfound]
    cbv
  have hstat : caseTree.stat (Path.ofText "d").text = .ok (.folder caseFolder) := rfl
  have hfolder := discoverAt_folder hstat
  have hnone : unlisted? (Path.ofText "d") (.folder caseFolder) = none := rfl
  rw [hnone, hsorted] at hfolder
  have hgone : discoverAt caseTree (Path.ofText "gone") = .ok [] := rfl
  have hfile : discoverAt caseTree (Path.ofText "f") = .ok [⟨.relative, ["f"]⟩] := rfl
  exact discover_of_shares (.cons hfolder (.cons hgone (.cons hfile .nil)))

/-- Nothing on that disk is too long, so a folder, nothing, and a file have their shares. -/
theorem discover_exact_nested :
    (∀ text ∈ (["d", "gone", "f"] : List Text), ¬ IsTooLong caseTree (Path.ofText text)) ∧
      ∃ shares, List.Forall₂ (fun text share => IsShare caseTree (Path.ofText text) share)
          ["d", "gone", "f"] shares ∧
        shares.flatten = [⟨.relative, ["d", "a", "c.typecase"]⟩,
          ⟨.relative, ["d", "a!.typecase"]⟩, ⟨.relative, ["f"]⟩] := by
  obtain ⟨hok, hlong⟩ := discover_exact isProper_caseTree ["d", "gone", "f"]
  have hshort : ∀ text ∈ (["d", "gone", "f"] : List Text),
      ¬ IsTooLong caseTree (Path.ofText text) := by
    intro text htext h
    obtain ⟨p, hp⟩ := hlong ⟨text, htext, h⟩
    cases discover_caseTree.symm.trans hp
  obtain ⟨shares, hshares, hfound⟩ := hok hshort
  exact ⟨hshort, shares, hshares, Except.ok.inj (hfound.symm.trans discover_caseTree)⟩

/-- On no disk a name can be asked for that is too long. -/
theorem stat_of_longName (w : Workspace) {name : Text} (hname : IsOrdinary name)
    (hpossible : PathFlaw.ofText? name = none) (hlong : nameLimit < nameLength name)
    (hshort : nameLength name ≤ pathLimit) :
    w.stat name = .error (.refused .nameTooLong name) := by
  have hempty : name.isEmpty = false := Text.isEmpty_eq_false hname.ne_empty
  have hfollow : ∀ here, follow w.root true linkLimit here (Text.split '/' name) =
      .error .nameTooLong := by
    intro here
    rw [Text.split_of_isFree hname.isFree, follow,
      advance_long true hname.isIdle_eq_false hname.ne_dots (Nat.not_le.mpr hlong)]
  unfold Workspace.stat Workspace.locate
  rw [hpossible]
  simp only [hempty, Bool.false_eq_true, if_false, if_neg (Nat.not_lt.mpr hshort), hfollow]
  rfl

/-- A disk that is empty. -/
def emptyDisk : Workspace := ⟨.folder [], []⟩

/-- A name of one letter too many. -/
def longName : Text := .ofChars (List.replicate 256 'x')

/-- **Where nothing is, finding case files can end with a fault**: the name is too long. -/
theorem discover_longName : emptyDisk.root.at? [longName] = none ∧
    discover emptyDisk [longName] = .error (.disk (.refused .nameTooLong longName)) := by
  have hstat : emptyDisk.stat longName = .error (.refused .nameTooLong longName) :=
    stat_of_longName emptyDisk (by decide +kernel) (by decide +kernel) (by decide +kernel)
      (by decide +kernel)
  have htext : (Path.ofText longName).text = longName := by decide +kernel
  have hfault : discoverAt emptyDisk (Path.ofText longName) =
      .error (.refused .nameTooLong longName) := by
    unfold discoverAt Workspace.isFile Workspace.test
    rw [htext, hstat]
    rfl
  refine ⟨rfl, ?_⟩
  unfold discover
  rw [List.mapM_cons, hfault]
  rfl

/-! ## Loading what is found -/

/-- The entry that stands at a path leads to a file: it is one, and the path is not too long, or it
is a link that can be followed to one. -/
inductive LeadsToFile (w : Workspace) (p : Path) : Entry → Prop
  | file {bytes : List UInt8} (short : nameLength p.text ≤ pathLimit) :
      LeadsToFile w p (.file bytes)
  | link {target : Text} {bytes : List UInt8} (found : w.stat p.text = .ok (.file bytes)) :
      LeadsToFile w p (.link target)

/-- What is below a folder is a file exactly if the entry there leads to one. -/
theorem isFile_iff_leadsToFile (hw : w.IsProper) {text : Text} {cs : List (Text × Entry)}
    (hstat : w.stat (Path.ofText text).text = .ok (.folder cs)) {inner : Entry}
    (hp : IsCaseBelow (Path.ofText text) (.folder cs) p inner) :
    w.isFile p.text = .ok true ↔ LeadsToFile w p inner := by
  obtain ⟨folders, stem, hat, rfl⟩ := hp
  have hplain : ∀ name ∈ (Path.ofText text).names, IsPlain name := fun _ => isPlain_of_mem_namesOf
  have hfound := Workspace.stat_descend hw hplain hstat hat
  rw [Workspace.isFile_eq_true_iff]
  cases inner with
  | link target =>
      constructor
      · exact fun ⟨bytes, h⟩ => .link h
      · rintro (_ | h)
        exact ⟨_, h⟩
  | file bytes =>
      rw [hfound rfl]
      constructor
      · rintro ⟨others, h⟩
        split at h
        · next hshort => exact .file hshort
        · cases h
      · rintro (hshort | _)
        exact ⟨bytes, if_pos hshort⟩
  | folder children =>
      rw [hfound rfl]
      refine iff_of_false ?_ nofun
      rintro ⟨bytes, h⟩
      split at h <;> cases h

/-- What is wrong with the characters of a file has nothing to do with the disk. -/
theorem readChars_ne_disk {path : Text} {bytes : List UInt8} (hbytes : w.bytes path = .ok bytes)
    (fault : Disk.Fault) : w.readChars path ≠ .error (.disk fault) := by
  unfold Workspace.readChars
  rw [hbytes]
  show (charsOf (Text.decodeUtf8 bytes) >>= fun cs => pure (Text.withLineFeeds cs)) ≠ _
  intro h
  rcases bind_eq_error h with hchars | ⟨_, -, h⟩
  · obtain ⟨_, hother⟩ := mapError_eq_error hchars
    cases hother
  · cases h

/-- **The disk is in the way of loading** exactly if there is no file at the path. -/
theorem load_eq_disk_iff (w : Workspace) (steps : Nat) (p : Path) :
    (∃ fault, CaseDocument.load w steps p = .error (.disk fault)) ↔ w.isFile p.text ≠ .ok true := by
  have hfile : w.isFile p.text = .ok true ↔ ∃ bytes, w.bytes p.text = .ok bytes := by
    simp only [Workspace.bytes_eq_ok_iff, Workspace.isFile_eq_true_iff]
  rw [ne_eq, hfile]
  cases hbytes : w.bytes p.text with
  | error fault =>
      refine iff_of_true ⟨fault, ?_⟩ (by simp)
      unfold CaseDocument.load CaseDocument.loadCaseFile Workspace.readJson Workspace.readChars
      rw [hbytes]
      split <;> rfl
  | ok bytes =>
      refine iff_of_false ?_ (by simp)
      rintro ⟨fault, h⟩
      have hchars := readChars_ne_disk hbytes fault
      unfold CaseDocument.load at h
      split at h
      · rcases bind_eq_error h with hjson | ⟨v, -, hvalue⟩
        · rcases bind_eq_error hjson with hread | ⟨cs, -, hdocument⟩
          · exact hchars hread
          · obtain ⟨_, hother⟩ := mapError_eq_error hdocument
            cases hother
        · obtain ⟨_, hother⟩ := mapError_eq_error hvalue
          cases hother
      · rcases bind_eq_error h with hread | ⟨cs, -, hdocument⟩
        · exact hchars hread
        · obtain ⟨_, hother⟩ := mapError_eq_error hdocument
          cases hother

/-- All entries below the folders among the paths that have the suffix lead to files. -/
def LeadToFiles (w : Workspace) (paths : List Text) : Prop :=
  ∀ text ∈ paths, ∀ cs, w.stat (Path.ofText text).text = .ok (.folder cs) → ∀ p inner,
    IsCaseBelow (Path.ofText text) (.folder cs) p inner → LeadsToFile w p inner

theorem forall_isFile_iff (hw : w.IsProper) {paths : List Text} {found : List Path}
    (h : discover w paths = .ok found) :
    (∀ p ∈ found, w.isFile p.text = .ok true) ↔ LeadToFiles w paths := by
  rcases discover_cases hw paths with ⟨shares, hfound, hall, -⟩ | ⟨p, hrefused, -⟩
  · cases h.symm.trans hfound
    constructor
    · intro hfiles text htext cs hstat p inner hp
      obtain ⟨share, hshare, hmine⟩ := exists_right_of_forall₂ hall htext
      refine (isFile_iff_leadsToFile hw hstat hp).mp (hfiles p ?_)
      cases hmine with
      | file hother => cases hstat.symm.trans hother
      | absent hother => cases hstat.symm.trans hother
      | folder hother _ hexact =>
          cases hstat.symm.trans hother
          exact List.mem_flatten.mpr ⟨share, hshare, (hexact p).mpr ⟨inner, hp⟩⟩
    · intro hleads p hp
      obtain ⟨share, hshare, hp⟩ := List.mem_flatten.mp hp
      obtain ⟨text, htext, hmine⟩ := exists_left_of_forall₂ hall hshare
      cases hmine with
      | @file bytes hstat =>
          obtain rfl := List.mem_singleton.mp hp
          exact Workspace.isFile_eq_true_iff.mpr ⟨bytes, hstat⟩
      | @folder cs _ hstat _ hexact =>
          obtain ⟨inner, hbelow⟩ := (hexact p).mp hp
          exact (isFile_iff_leadsToFile hw hstat hbelow).mpr
            (hleads text htext cs hstat p inner hbelow)
      | absent => cases hp
  · cases h.symm.trans hrefused

/-- **Whether all that is found are files** hangs on the entries below folders alone, and nothing
else decides whether the disk is in the way when all that was found is loaded. -/
theorem discover_files_iff (hw : w.IsProper) {paths : List Text} {found : List Path}
    (h : discover w paths = .ok found) :
    ((∀ p ∈ found, w.isFile p.text = .ok true) ↔ LeadToFiles w paths) ∧
      ∀ steps, (∀ p ∈ found, ∀ fault, CaseDocument.load w steps p ≠ .error (.disk fault)) ↔
        LeadToFiles w paths := by
  have hfiles := forall_isFile_iff hw h
  refine ⟨hfiles, fun steps => ?_⟩
  rw [← hfiles]
  refine forall₂_congr fun p _ => ?_
  rw [← not_exists, load_eq_disk_iff, not_not]

/-- All that is found on that disk are files, so all that has the suffix leads to one. -/
theorem discover_files_iff_nested :
    discover caseTree ["d", "gone", "f"] = .ok [⟨.relative, ["d", "a", "c.typecase"]⟩,
        ⟨.relative, ["d", "a!.typecase"]⟩, ⟨.relative, ["f"]⟩] ∧
      LeadToFiles caseTree ["d", "gone", "f"] := by
  refine ⟨discover_caseTree, (discover_files_iff isProper_caseTree discover_caseTree).1.mp ?_⟩
  decide +kernel

/-- A folder in a folder, with the suffix in its name. -/
def namesakeDisk : Workspace := ⟨.folder [("d", .folder [("x.typecase", .folder [])])], []⟩

def namesake : Disk.Path := ⟨.relative, ["d", "x.typecase"]⟩

/-- **A folder is found as a case file**, and it cannot be loaded. -/
theorem discover_finds_folder : discover namesakeDisk ["d"] = .ok [namesake] ∧
    namesakeDisk.isFile namesake.text = .ok false ∧
    ∀ steps, CaseDocument.load namesakeDisk steps namesake =
      .error (.disk (.refused .isFolder "d/x.typecase")) :=
  ⟨by cbv, rfl, fun _ => rfl⟩

end Casebook.Case

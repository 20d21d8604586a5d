import Casebook.Proofs.Disk.Following
import Casebook.Proofs.Mount.Hermetic
import Casebook.Proofs.Stub.Family
import Casebook.Proofs.Stub.Invariant
import Casebook.Proofs.Text.Half
import Casebook.Proofs.Text.Utf8

/-!
# Bytes of stub files

The bytes of a stub file are decoded when it is first asked for, kept as a text, and encoded again
whenever the checker reads the file. Main statement (`file_bytes_read`): if they are UTF-8, the
checker reads the very bytes, from then on and whatever becomes of the disk; if they are not, or the
disk refuses to give them, the setup is at fault, nothing is kept, and the bytes that are there after
the file was mended are read as if nothing had been.
-/

namespace Casebook.Disk

variable {w : Workspace} {path : Text}

/-- What is found to be a file has a path that a disk can have. -/
theorem ofText?_of_isFile (h : w.isFile path = .ok true) : PathFlaw.ofText? path = none := by
  obtain ⟨bytes, hstat⟩ := Workspace.isFile_eq_true_iff.mp h
  exact Workspace.ofText?_of_stat hstat

/-- Such a path is refused if its bytes cannot be had. -/
theorem refused_of_bytes {fault : Fault} (hpath : PathFlaw.ofText? path = none)
    (h : w.bytes path = .error fault) : ∃ trouble, fault = .refused trouble path := by
  rcases w.bytes_cases path with ⟨flaw, hflaw, -⟩ | ⟨-, ⟨bytes, hbytes⟩ | ⟨trouble, hrefused⟩⟩
  · cases hpath.symm.trans hflaw
  · cases h.symm.trans hbytes
  · exact ⟨trouble, Except.error.inj (h.symm.trans hrefused)⟩

/-- The bytes at a path can be had, and are UTF-8. -/
def IsReadable (w : Workspace) (path : Text) : Prop :=
  ∃ bytes, w.bytes path = .ok bytes ∧ Text.IsUtf8 bytes

end Casebook.Disk

/-! ## Files that have not been read -/

namespace Casebook.Stub

open Disk

namespace Index

/-- Every file of a folder has a path that a disk can have. -/
def HasPaths (i : Index) : Prop :=
  ∀ name folder, i.origin? name = some (.folder folder) →
    PathFlaw.ofText? (folder.below name).text = none

theorem isKept_hasPaths : IsKept HasPaths := by
  refine ⟨?_, ?_, ?_⟩
  · intro name folder h
    cases h
  · intro w folder name i hfile hi n folder' h
    rw [origin?_insert] at h
    split at h
    · next hn =>
      cases h
      rw [hn]
      exact ofText?_of_isFile hfile
    · exact hi n folder' h
  · intro i name hi n folder h
    rw [origin?_register] at h
    split at h
    · cases h
    · exact hi n folder h

end Index

namespace Provider

/-- The file is in a folder, and its text is not known yet. -/
structure IsUnread (p : Provider) (folder : Path) (name : Text) : Prop where
  origin : p.index.origin? name = some (.folder folder)
  unknown : p.contents.text? name = none

variable {p : Provider} {w : Workspace} {folder : Path} {name text : Text}

/-- Loading it gives what reading it gives. -/
theorem IsUnread.load_eq (h : p.IsUnread folder name) (w : Workspace) :
    (p.load w name).1 = Contents.readFile w (folder.below name) := by
  have hloads := loads p w name
  generalize p.load w name = result at hloads ⊢
  cases hloads with
  | known htext => cases h.unknown.symm.trans htext
  | read _ horigin hread =>
      cases h.origin.symm.trans horigin
      exact hread.symm
  | unread _ horigin hread =>
      cases h.origin.symm.trans horigin
      exact hread.symm
  | unplaced _ hplace => exact absurd h.origin (hplace folder)

/-- It is read now: its bytes make up the text. -/
theorem IsUnread.load_ok (h : p.IsUnread folder name) {bytes : List UInt8}
    (hbytes : w.bytes (folder.below name).text = .ok bytes) (hutf8 : Text.IsUtf8 bytes) :
    ∃ cs, Text.encodeUtf8 cs = bytes ∧ (p.load w name).1 = .ok (.ofChars cs) := by
  obtain ⟨cs, hcs⟩ := Text.isUtf8_iff.mp hutf8
  refine ⟨cs, hcs, ?_⟩
  rw [h.load_eq]
  exact Contents.readFile_ok hbytes (Text.decodeUtf8_eq_ok_iff.mpr hcs)

theorem readFile_of_not_isReadable {path : Path} (h : ¬ IsReadable w path.text) :
    ∃ fault, Contents.readFile w path = .error fault := by
  unfold Contents.readFile decodeBytes charsOf
  cases hbytes : w.bytes path.text with
  | error fault => exact ⟨_, rfl⟩
  | ok bytes =>
      have hutf8 : ¬ Text.IsUtf8 bytes := fun hutf8 => h ⟨bytes, hbytes, hutf8⟩
      obtain ⟨fault, hfault⟩ := Text.exists_fault_iff.mpr hutf8
      simp only [Except.mapError, bind, Except.bind, hfault]
      exact ⟨_, rfl⟩

/-- It cannot be read: the setup is at fault, and no text is kept. -/
theorem IsUnread.load_error (h : p.IsUnread folder name)
    (hpath : PathFlaw.ofText? (folder.below name).text = none)
    (hbroken : ¬ IsReadable w (folder.below name).text) :
    ∃ fault report, (p.load w name).1 = .error fault ∧
      Mount.Look.stubFault name fault = .setup report ∧
      (p.load w name).2.contents.texts = p.contents.texts := by
  obtain ⟨fault, hread⟩ := readFile_of_not_isReadable hbroken
  have hreport : ∃ report, Mount.Look.stubFault name fault = .setup report := by
    rcases Contents.readFile_error hread with ⟨f, hbytes, rfl⟩ | ⟨f, rfl⟩
    · obtain ⟨trouble, rfl⟩ := refused_of_bytes hpath hbytes
      exact ⟨_, rfl⟩
    · exact ⟨_, rfl⟩
  obtain ⟨report, hreport⟩ := hreport
  have hload : (p.load w name).1 = .error fault := (h.load_eq w).trans hread
  exact ⟨fault, report, hload, hreport, load_texts_of_error p w name hload⟩

/-! ## Later on -/

/-- No call puts in a file of the name. -/
def Spares (name : Text) (history : List (Workspace × Call)) : Prop :=
  ∀ e ∈ history, ∀ text, e.2.added? ≠ some (name, text)

/-- A call leaves what is kept of the provider, or a fork of it. -/
theorem step_eq (p : Provider) (w : Workspace) (call : Call) :
    (p.step w call).2 = p.kept w call ∨ (p.step w call).2 = p.fork := by
  cases call with
  | fork => exact Or.inr rfl
  | add name contents => exact Or.inl rfl
  | load name => exact Or.inl rfl
  | isLoadable name => exact Or.inl rfl
  | names => exact Or.inl rfl

/-- What each call and each fork keeps is kept by all of them. -/
theorem run_keeps {P : Provider → Prop} {history : List (Workspace × Call)}
    (hkept : ∀ e ∈ history, ∀ p, P p → P (p.kept e.1 e.2)) (hfork : ∀ p, P p → P p.fork)
    (hp : P p) : P (p.run history) := by
  induction history generalizing p with
  | nil => exact hp
  | cons e history ih =>
      obtain ⟨he, hrest⟩ := List.forall_mem_cons.mp hkept
      refine ih hrest ?_
      show P (p.step e.1 e.2).2
      rcases step_eq p e.1 e.2 with hstep | hstep
      · rw [hstep]
        exact he p hp
      · rw [hstep]
        exact hfork p hp

theorem known_run {history : List (Workspace × Call)} (h : p.contents.text? name = some text)
    (hspares : Spares name history) : (p.run history).contents.text? name = some text :=
  run_keeps (P := fun p => p.contents.text? name = some text)
    (fun e he _ hp => known_kept hp e.1 (hspares e he)) (fun _ hp => hp) h

/-- A file that cannot be read stays one that has not been read. -/
theorem IsUnread.kept (h : p.IsUnread folder name)
    (hbroken : ¬ IsReadable w (folder.below name).text) {call : Call}
    (hadd : ∀ text, call.added? ≠ some (name, text)) : (p.kept w call).IsUnread folder name := by
  rcases kept_cases p w call with ⟨n, text, hadded, hkept⟩ | ⟨-, ⟨n, hkept⟩ | hkept⟩
  · have hne : name ≠ n := by
      rintro rfl
      exact hadd text hadded
    rw [hkept]
    constructor
    · show (p.index.register n).origin? name = _
      rw [Index.origin?_register, if_neg hne]
      exact h.origin
    · show (p.contents.put n text).text? name = _
      rw [Contents.text?_put, if_neg hne]
      exact h.unknown
  · rw [hkept]
    refine ⟨h.origin, ?_⟩
    rw [load_text?]
    split
    · next t hload =>
      by_cases hn : name = n
      · -- what was loaded under this name would have been read
        subst hn
        obtain ⟨fault, hread⟩ := readFile_of_not_isReadable hbroken
        cases hload.symm.trans ((h.load_eq w).trans hread)
      · rw [if_neg hn]
        exact h.unknown
    · exact h.unknown
  · rw [hkept]
    exact h

theorem IsUnread.run {history : List (Workspace × Call)} (h : p.IsUnread folder name)
    (hbroken : ∀ e ∈ history, ¬ IsReadable e.1 (folder.below name).text)
    (hspares : Spares name history) : (p.run history).IsUnread folder name :=
  run_keeps (P := fun p => p.IsUnread folder name)
    (fun e he _ hp => hp.kept (hbroken e he) (hspares e he)) (fun _ hp => ⟨hp.origin, hp.unknown⟩) h

end Provider

end Casebook.Stub

/-! ## Reading through a view -/

namespace Casebook.Mount

open Disk Stub Stub.Provider

variable {v : View} {root path name : Text}

theorem encode_ofChars (cs : List Char) :
    (Text.encode? (.ofChars cs)).mapError Casebook.Fault.unencodable = .ok (Text.encodeUtf8 cs) := by
  rw [Text.encode?, Text.characters_ofChars]
  rfl

/-- A file whose text is known is read as the bytes of that text, on any disk. -/
theorem run_read_known (hpath : v.name? path = some name)
    (hloadable : v.provider.isLoadable name = true) {cs : List Char}
    (htext : v.provider.contents.text? name = some (.ofChars cs)) (w : Workspace) :
    (Look.read w path).run v = (.ok (Text.encodeUtf8 cs), v) := by
  rw [Look.run_read hpath, if_pos hloadable, Look.run_load (load_of_known htext w)]
  exact congrArg (·, v) (encode_ofChars cs)

/-- A file of a folder is read for the first time as it is loaded. -/
theorem run_read_unread {folder : Path} (hpath : v.name? path = some name)
    (hfile : v.provider.IsUnread folder name) (w : Workspace) :
    (Look.read w path).run v =
      (((v.provider.load w name).1.mapError (Look.stubFault name)).bind fun text =>
        (Text.encode? text).mapError Casebook.Fault.unencodable,
        { v with provider := (v.provider.load w name).2 }) := by
  have hload : v.provider.load w name = ((v.provider.load w name).1, (v.provider.load w name).2) := rfl
  rw [Look.run_read hpath, if_pos (isLoadable_of_origin hfile.origin), Look.run_load hload]

/-- The view is one that another has become later: calls were made on its provider, none of which put
in a file of the name, while the disk was of some kind. -/
def IsLater (name : Text) (kind : Workspace → Prop) (v u : View) : Prop :=
  u.root = v.root ∧ ∃ history, u.provider = v.provider.run history ∧ Spares name history ∧
    ∀ e ∈ history, kind e.1

theorem IsLater.name? {kind : Workspace → Prop} {u : View} (h : IsLater name kind v u)
    (hpath : v.name? path = some name) : u.name? path = some name := by
  unfold View.name?
  rw [h.1]
  exact hpath

/-- A file of UTF-8 is read as its bytes, and has a text from then on. -/
theorem read_ok {folder : Path} (hpath : v.name? path = some name)
    (hfile : v.provider.IsUnread folder name) {w : Workspace} {bytes : List UInt8}
    (hbytes : w.bytes (folder.below name).text = .ok bytes) (hutf8 : Text.IsUtf8 bytes) :
    ∃ cs, Text.encodeUtf8 cs = bytes ∧ ((Look.read w path).run v).1 = .ok bytes ∧
      ((Look.read w path).run v).2 = { v with provider := (v.provider.load w name).2 } ∧
      (v.provider.load w name).2.contents.text? name = some (.ofChars cs) := by
  obtain ⟨cs, rfl, hload⟩ := hfile.load_ok hbytes hutf8
  refine ⟨cs, rfl, ?_, ?_, known_of_load hload⟩
  · rw [run_read_unread hpath hfile, hload]
    exact encode_ofChars cs
  · rw [run_read_unread hpath hfile]

/-- A file that cannot be read breaks the setup, and nothing is kept. -/
theorem read_error {folder : Path} (hpath : v.name? path = some name)
    (hfile : v.provider.IsUnread folder name)
    (hpossible : PathFlaw.ofText? (folder.below name).text = none) {w : Workspace}
    (hbroken : ¬ IsReadable w (folder.below name).text) :
    ∃ report, ((Look.read w path).run v).1 = .error (.setup report) ∧
      ((Look.read w path).run v).2 = { v with provider := (v.provider.load w name).2 } ∧
      (v.provider.load w name).2.contents.texts = v.provider.contents.texts := by
  obtain ⟨fault, report, hload, hreport, htexts⟩ := hfile.load_error hpossible hbroken
  refine ⟨report, ?_, ?_, htexts⟩
  · rw [run_read_unread hpath hfile, hload]
    show Except.error (Look.stubFault name fault) = _
    rw [hreport]
  · rw [run_read_unread hpath hfile]

/-- **A stub file on disk is read as its bytes.** Under every path that leads to the name of a file
that the index places in a folder: if the bytes of the file are UTF-8, they are what is read, and what
is read from then on. If they are not, or cannot be had, the setup is at fault and nothing is kept;
and as soon as the bytes are there and are UTF-8, they are what is read. -/
theorem file_bytes_read {folder : Path} {added : List (Text × Text)} (hroot : IsMountRoot root)
    (hv : v.root = normalise root) (hp : v.provider.Reachable added)
    (hfile : v.provider.IsUnread folder name) :
    (IsNormalName name → v.name? (root ++ ("/" : Text) ++ name) = some name) ∧
    ∀ path, v.name? path = some name → ∀ w : Workspace,
      (∀ bytes, w.bytes (folder.below name).text = .ok bytes → Text.IsUtf8 bytes →
        ((Look.read w path).run v).1 = .ok bytes ∧
        ∀ u, IsLater name (fun _ => True) ((Look.read w path).run v).2 u → ∀ w',
          ((Look.read w' path).run u).1 = .ok bytes) ∧
      (¬ IsReadable w (folder.below name).text →
        (∃ report, ((Look.read w path).run v).1 = .error (.setup report)) ∧
        ((Look.read w path).run v).2.memory = v.memory ∧
        ((Look.read w path).run v).2.provider.contents.texts = v.provider.contents.texts ∧
        ∀ u, IsLater name (fun d => ¬ IsReadable d (folder.below name).text)
            ((Look.read w path).run v).2 u →
          ∀ w' bytes, w'.bytes (folder.below name).text = .ok bytes → Text.IsUtf8 bytes →
            ((Look.read w' path).run u).1 = .ok bytes) := by
  constructor
  · intro hname
    have htop : stubName? root root = some "" := if_pos rfl
    unfold View.name?
    rw [hv, stubName?_normalise hroot, stubName?_below hroot htop hname, inFolder_empty]
  intro path hpath w
  constructor
  · intro bytes hbytes hutf8
    obtain ⟨cs, rfl, hread, hafter, htext⟩ := read_ok hpath hfile hbytes hutf8
    refine ⟨hread, fun u hu w' => ?_⟩
    rw [hafter] at hu
    have hpath' : u.name? path = some name := hu.name? hpath
    obtain ⟨-, history, hhistory, hspares, -⟩ := hu
    have hknown : u.provider.contents.text? name = some (.ofChars cs) := by
      rw [hhistory]
      exact known_run htext hspares
    have hcoherent : u.provider.Coherent (added ++ addedBy history) := by
      rw [hhistory]
      exact coherent_run (coherent_load hp.coherent w name) history
    have hloadable := hcoherent.indexed name (Contents.has_iff.mpr ⟨_, hknown⟩)
    rw [run_read_known hpath' hloadable hknown]
  · intro hbroken
    have hpossible := hp.index Index.isKept_hasPaths name folder hfile.origin
    obtain ⟨report, hread, hafter, htexts⟩ := read_error hpath hfile hpossible hbroken
    rw [hafter]
    refine ⟨⟨report, hread⟩, rfl, htexts, fun u hu w' bytes hbytes hutf8 => ?_⟩
    have hpath' : u.name? path = some name := hu.name? hpath
    obtain ⟨-, history, hhistory, hspares, hdisks⟩ := hu
    have hfile' : u.provider.IsUnread folder name := by
      rw [hhistory]
      refine IsUnread.run ⟨hfile.origin, ?_⟩ hdisks hspares
      show (v.provider.load w name).2.contents.texts.lookup name = none
      rw [htexts]
      exact hfile.unknown
    obtain ⟨-, -, hread', -⟩ := read_ok hpath' hfile' hbytes hutf8
    exact hread'

theorem not_isReadable_of_fault {w : Workspace} {path : Text} {bytes : List UInt8}
    {fault : Text.Utf8Fault} (hbytes : w.bytes path = .ok bytes)
    (hfault : Text.decodeUtf8 bytes = .error fault) : ¬ IsReadable w path := by
  rintro ⟨bytes', hbytes', hutf8⟩
  cases hbytes.symm.trans hbytes'
  exact Text.exists_fault_iff.mp ⟨fault, hfault⟩ hutf8

/-- The view of a provider with a file that has not been read. -/
def unreadView : View := View.make Family.indexed "/m" []

/-- A file holds half of a surrogate pair and is not read, another one is read meanwhile, then there
are a byte order mark, a carriage return and a null in the file, and they are read. -/
theorem file_bytes_read_mended : ∃ report v,
    (Look.read (twoFiles [0xED, 0xA0, 0x80]) "/m/a.pyi").run unreadView =
      (.error (.setup report), v) ∧
    ((Look.read (twoFiles [0xEF, 0xBB, 0xBF, 13, 0]) "/m/a.pyi").run
      { v with provider := v.provider.run [(twoFiles [0xC0], .load "b.pyi")] }).1 =
      .ok [0xEF, 0xBB, 0xBF, 13, 0] := by
  have hfiles : ofFiles (twoFiles [97]) ".pyi" [⟨.slash, ["s"]⟩] [("c.pyi", "x")] =
      .ok Family.indexed := by cbv
  have hreach : Family.indexed.Reachable _ := ⟨_, _, _, _, _, [], hfiles, rfl, rfl⟩
  have hroot : IsMountRoot "/m" := ⟨by decide, by decide⟩
  have hfile : Family.indexed.IsUnread ⟨.slash, ["s"]⟩ "a.pyi" := ⟨by cbv, by cbv⟩
  have hbroken : ∀ bytes fault, Text.decodeUtf8 bytes = .error fault →
      ¬ IsReadable (twoFiles bytes) (Path.below ⟨.slash, ["s"]⟩ "a.pyi").text := by
    intro bytes fault hfault
    have hbytes : (twoFiles bytes).bytes (Path.below ⟨.slash, ["s"]⟩ "a.pyi").text = .ok bytes := by
      cbv
    exact not_isReadable_of_fault hbytes hfault
  obtain ⟨hname, hread⟩ := file_bytes_read (v := unreadView) hroot rfl hreach hfile
  obtain ⟨-, herror⟩ := hread "/m/a.pyi" (hname (by decide)) (twoFiles [0xED, 0xA0, 0x80])
  obtain ⟨⟨report, hreport⟩, -, -, hmended⟩ :=
    herror (hbroken [0xED, 0xA0, 0x80] ⟨0, 1, 0xED, .continuation⟩ (by cbv))
  have hutf8 : Text.IsUtf8 [0xEF, 0xBB, 0xBF, 13, 0] :=
    Text.isUtf8_iff.mpr ⟨['\uFEFF', '\r', '\x00'], by cbv⟩
  refine ⟨report, _, Prod.ext hreport rfl, hmended _ ?_ _ _ (by cbv) hutf8⟩
  refine ⟨rfl, [(twoFiles [0xC0], .load "b.pyi")], rfl, ?_, ?_⟩
  · intro e he text
    obtain rfl := List.mem_singleton.mp he
    simp [Call.added?]
  · intro e he
    obtain rfl := List.mem_singleton.mp he
    exact hbroken [0xC0] ⟨0, 1, 0xC0, .start⟩ (by cbv)

end Casebook.Mount

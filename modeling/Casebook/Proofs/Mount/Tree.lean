import Casebook.Proofs.Mount.Folder
import Casebook.Proofs.Mount.Look
import Casebook.Proofs.Stub.History

/-!
# One tree below the mount root

Every question about a path at or below the mount root is answered from the flat list of
names by itself, and without a look at the disk. Main statement (`shows_one_tree`): the
answers fit together to one tree of folders, whose files are those of the provider, each at
one place.
-/

namespace Casebook.Mount

open Disk

namespace Look

/-! ## Going down -/

/-- What is found at one name in a folder: the path if a file is there, and what is found below
the path if a folder is there. -/
def visit (w : Workspace) (below : Text → Look (List Text)) (folder name : Text) :
    Look (List Text) := do
  let path := folder ++ "/" ++ name
  let file ← isFile w path
  let found ← if ← isFolder w path then below path else pure []
  return (if file then [path] else []) ++ found

/-- The files found by going down from a folder, into so many folders below one another. -/
def walk (w : Workspace) : (depth : Nat) → Text → Look (List Text)
  | 0, _ => return []
  | depth + 1, folder => do
    let found ← (← names w folder).mapM (visit w (walk w depth) folder)
    return found.flatten

/-! ## Answers for stub files -/

section
variable {w : Workspace} {v : View} {path name : Text}

theorem run_isFile (h : v.name? path = some name) :
    (isFile w path).run v = (.ok (!name.isEmpty && v.provider.isLoadable name), v) :=
  run_onPath h _ _ _

theorem run_isFolder (h : v.name? path = some name) :
    (isFolder w path).run v = (.ok (v.provider.isFolder name), v) :=
  run_onPath h _ _ _

theorem run_exists? (h : v.name? path = some name) (realOnly : Bool) :
    (exists? w path realOnly).run v = (.ok (!realOnly && v.provider.hasEntry name), v) :=
  run_onPath h _ _ _

theorem run_isFileCase (h : v.name? path = some name) (start : Text) :
    (isFileCase w path start).run v = (.ok (!name.isEmpty && v.provider.isLoadable name), v) :=
  run_onPath h _ _ _

theorem run_existsCase (h : v.name? path = some name) (start : Text) :
    (existsCase w path start).run v = (.ok (v.provider.hasEntry name), v) := by
  unfold existsCase
  rw [isSpelled, run_onPath h]
  rfl

theorem run_names (h : v.name? path = some name) :
    (names w path).run v =
      (if v.provider.isFolder name then .ok (v.provider.children name)
        else .error (.disk (.refused .missing path)), v) := by
  rw [names, run_onPath h]
  split <;> rfl

theorem run_read (h : v.name? path = some name) :
    (read w path).run v =
      if v.provider.isLoadable name then (load w name).run v
      else (.error (.disk (.refused .missing path)), v) := by
  rw [read, run_onPath h]
  split <;> rfl

end

/-- What reading a stub file that the provider has can go wrong with: the setup is broken, or
the path or the text has no bytes. -/
inductive IsUnreadable : Casebook.Fault → Prop
  | setup (report : Report) : IsUnreadable (.setup report)
  | noPath (flaw : Disk.PathFlaw) : IsUnreadable (.disk (.noPath flaw))
  | unencodable (run : Text.HalfRun) : IsUnreadable (.unencodable run)

theorem isUnreadable_of_encode {text : Text} {fault : Casebook.Fault}
    (h : (Text.encode? text).mapError Casebook.Fault.unencodable = .error fault) :
    IsUnreadable fault := by
  cases hencode : Text.encode? text with
  | ok bytes =>
      rw [hencode] at h
      cases h
  | error run =>
      rw [hencode] at h
      cases h
      exact .unencodable run

theorem isUnreadable_of_load {w : Workspace} {v : View} {name : Text} {added : List (Text × Text)}
    (hp : v.provider.Coherent added) (hname : v.provider.isLoadable name = true)
    {fault : Casebook.Fault} (h : ((load w name).run v).1 = .error fault) : IsUnreadable fault := by
  have hloads := Stub.Provider.loads v.provider w name
  have hresolved := Stub.Provider.unresolved_iff hp w name
  have hrun := fun text provider => @run_load v w name text provider
  generalize v.provider.load w name = result at hloads hresolved hrun
  obtain ⟨text, provider⟩ := result
  rw [hrun text provider rfl] at h
  cases hloads with
  | known => exact isUnreadable_of_encode h
  | read => exact isUnreadable_of_encode h
  | unread _ _ hread =>
      cases h
      rcases Stub.Contents.readFile_error hread with ⟨f, -, rfl⟩ | ⟨f, rfl⟩
      · cases f with
        | refused trouble path => exact .setup _
        | noPath flaw => exact .noPath flaw
      · exact .setup _
  | unplaced =>
      -- only a name that is not loadable ends in an unresolved name
      rw [hresolved.mp ⟨_, rfl⟩] at hname
      cases hname

/-! ## Going down finds the files -/

section
variable {w : Workspace} {v : View}

/-- One name in a folder is visited as the provider's own names are. -/
theorem run_visit (hroot : IsMountRoot v.root) {below : Text → Look (List Text)}
    {filesBelow : Text → List Text} {path folder name : Text}
    (hfolder : v.name? path = some folder) (hname : IsOrdinary name)
    (hbelow : v.provider.isFolder (inFolder folder name) = true →
      (below (path ++ ("/" : Text) ++ name)).run v =
        (.ok ((filesBelow (inFolder folder name)).map
          (path ++ ("/" : Text) ++ name ++ ("/" : Text) ++ ·)), v)) :
    (visit w below path name).run v =
      (.ok ((v.provider.filesOf folder filesBelow name).map (path ++ ("/" : Text) ++ ·)), v) := by
  have hbelowName : v.name? (path ++ ("/" : Text) ++ name) = some (inFolder folder name) :=
    stubName?_below hroot hfolder hname.isNormalName
  have hempty := Text.isEmpty_eq_false (inFolder_ne_empty folder hname.ne_empty)
  have hfile := @run_isFile w v _ _ hbelowName
  rw [hempty, Bool.not_false, Bool.true_and] at hfile
  have hisFolder := @run_isFolder w v _ _ hbelowName
  unfold visit Stub.Provider.filesOf
  dsimp only
  rw [run_bind hfile, run_bind hisFolder]
  have hfile' : (if v.provider.isLoadable (inFolder folder name) then [path ++ ("/" : Text) ++ name]
      else []) = (if v.provider.isLoadable (inFolder folder name) then [name] else []).map
        (path ++ ("/" : Text) ++ ·) := by
    split <;> rfl
  rw [List.map_append, hfile']
  cases hf : v.provider.isFolder (inFolder folder name) with
  | true =>
      have hjoined : (filesBelow (inFolder folder name)).map
            (path ++ ("/" : Text) ++ name ++ ("/" : Text) ++ ·) =
          ((filesBelow (inFolder folder name)).map (name ++ ("/" : Text) ++ ·)).map
            (path ++ ("/" : Text) ++ ·) := by
        rw [List.map_map]
        refine List.map_congr_left fun rest _ => ?_
        show _ = path ++ ("/" : Text) ++ (name ++ ("/" : Text) ++ rest)
        simp only [Text.append_assoc]
      rw [if_pos rfl, if_pos rfl, run_bind (hbelow hf), ← hjoined]
      rfl
  | false => rfl

/-- Going down reads off the provider's names what there is, and changes nothing. -/
theorem run_walk (hroot : IsMountRoot v.root) (hnormal : v.provider.IsNormal) {depth : Nat}
    {path folder : Text} (hpath : v.name? path = some folder)
    (hfolder : v.provider.isFolder folder = true) :
    (walk w depth path).run v =
      (.ok ((v.provider.filesBelow depth folder).map (path ++ ("/" : Text) ++ ·)), v) := by
  induction depth generalizing path folder with
  | zero => rfl
  | succ depth ih =>
      have hnames := @run_names w v _ _ hpath
      rw [if_pos hfolder] at hnames
      have hvisits : ∀ name ∈ v.provider.children folder,
          (visit w (walk w depth) path name).run v =
            (.ok ((v.provider.filesOf folder (v.provider.filesBelow depth) name).map
              (path ++ ("/" : Text) ++ ·)), v) := by
        intro name hname
        have hordinary := hnormal.isOrdinary hname
        exact run_visit hroot hpath hordinary
          (ih (stubName?_below hroot hpath hordinary.isNormalName))
      rw [walk, run_bind hnames, run_bind (run_mapM hvisits)]
      refine congrArg (fun found => (Except.ok found, v)) ?_
      rw [Stub.Provider.filesBelow, List.map_flatMap]
      rfl

end

end Look

/-! ## One tree -/

/-- The answers about a path fit together: whether a file is there and whether a folder is
there settle all of them, and a folder shows exactly the ordinary names below which something
is there. -/
structure Fits (w : Workspace) (v : View) (path : Text) (file folder : Bool) : Prop where
  isFile : (Look.isFile w path).run v = (.ok file, v)
  isFolder : (Look.isFolder w path).run v = (.ok folder, v)
  isThere : (Look.exists? w path false).run v = (.ok (file || folder), v)
  isReal : (Look.exists? w path true).run v = (.ok false, v)
  isFileCase : ∀ start, (Look.isFileCase w path start).run v = (.ok file, v)
  isThereCase : ∀ start, (Look.existsCase w path start).run v = (.ok (file || folder), v)
  noNames : folder = false →
    (Look.names w path).run v = (.error (.disk (.refused .missing path)), v)
  names : folder = true → ∃ entries, (Look.names w path).run v = (.ok entries, v) ∧
    entries.Pairwise Stub.Provider.Precedes ∧
    ∀ entry, IsOrdinary entry → (entry ∈ entries ↔
      (Look.exists? w (path ++ ("/" : Text) ++ entry) false).run v = (.ok true, v))
  noBytes : file = false →
    (Look.read w path).run v = (.error (.disk (.refused .missing path)), v)
  bytes : file = true →
    ∀ fault, ((Look.read w path).run v).1 = .error fault → Look.IsUnreadable fault

section
variable {w : Workspace} {v : View} {added : List (Text × Text)}

theorem fits (hroot : IsMountRoot v.root) (hp : v.provider.Coherent added)
    (hnormal : v.provider.IsNormal) {path name : Text} (hname : v.name? path = some name) :
    Fits w v path (v.provider.isLoadable name) (v.provider.isFolder name) := by
  -- no file has the empty name
  have hfile : (!name.isEmpty && v.provider.isLoadable name) = v.provider.isLoadable name := by
    cases hempty : name.isEmpty with
    | false => rfl
    | true =>
        rw [Text.isEmpty_iff.mp hempty]
        cases hloadable : v.provider.isLoadable "" with
        | false => rfl
        | true => exact absurd rfl (hnormal "" (Stub.Provider.mem_names_iff.mpr hloadable)).ne_empty
  have hentry : v.provider.hasEntry name =
      (v.provider.isLoadable name || v.provider.isFolder name) :=
    congrArg (· || v.provider.isFolder name) hfile
  refine ⟨?_, ?_, ?_, ?_, ?_, ?_, ?_, ?_, ?_, ?_⟩
  · rw [Look.run_isFile hname, hfile]
  · exact Look.run_isFolder hname
  · rw [Look.run_exists? hname, hentry]
    rfl
  · exact Look.run_exists? hname true
  · intro start
    rw [Look.run_isFileCase hname, hfile]
  · intro start
    rw [Look.run_existsCase hname, hentry]
  · intro hfolder
    rw [Look.run_names hname, hfolder]
    rfl
  · intro hfolder
    refine ⟨v.provider.children name, ?_, v.provider.pairwise_children name, ?_⟩
    · rw [Look.run_names hname, if_pos hfolder]
    · intro entry hentry
      have hbelow : v.name? (path ++ ("/" : Text) ++ entry) = some (inFolder name entry) :=
        stubName?_below hroot hname hentry.isNormalName
      rw [Look.run_exists? hbelow, Stub.Provider.mem_children_iff,
        ← Stub.Provider.isFolder_inFolder_iff hentry.ne_empty,
        ← Stub.Provider.hasEntry_iff (inFolder_ne_empty name hentry.ne_empty)]
      constructor
      · rintro ⟨-, hthere⟩
        rw [hthere]
        rfl
      · intro hthere
        exact ⟨hentry.isFree, Except.ok.inj (congrArg Prod.fst hthere)⟩
  · intro hnone
    rw [Look.run_read hname, hnone]
    rfl
  · intro hloadable fault hfault
    rw [Look.run_read hname, if_pos hloadable] at hfault
    exact Look.isUnreadable_of_load hp hloadable hfault

/-- **Below the mount root there is one tree.** Going down from the root finds the files of the
provider, each once, and the answers about every path fit together. -/
theorem shows_one_tree {root : Text} (hroot : IsMountRoot root) (hv : v.root = normalise root)
    (hp : v.provider.Reachable added) (hnormal : v.provider.IsNormal) (w : Workspace) :
    (∀ top depth, normalise top = v.root →
      (∀ name ∈ v.provider.names, (Text.split '/' name).length ≤ depth) →
      ∃ found, (Look.walk w depth top).run v = (.ok found, v) ∧ found.Nodup ∧
        ∀ path, path ∈ found ↔ ∃ name ∈ v.provider.names, path = top ++ ("/" : Text) ++ name) ∧
    ∀ path name, v.name? path = some name →
      Fits w v path (v.provider.isLoadable name) (v.provider.isFolder name) := by
  have hmounted : IsMountRoot v.root := hv ▸ hroot.normalise
  refine ⟨?_, fun path name hname => fits hmounted hp.coherent hnormal hname⟩
  intro top depth htop hdepth
  have hname : v.name? top = some "" := by
    have hnormalised : normalise v.root = v.root := by
      rw [hv, normalise_normalise hroot.isAbsolute]
    exact if_pos (htop.trans hnormalised.symm)
  refine ⟨_, Look.run_walk hmounted hnormal hname rfl, ?_, ?_⟩
  · refine (v.provider.nodup_filesBelow depth "").map fun rest rest' heq => ?_
    simpa only [Text.append_left_inj] using heq
  · intro path
    rw [List.mem_map]
    constructor
    · rintro ⟨rest, hrest, rfl⟩
      have hfile := ((Stub.Provider.mem_filesBelow_iff hnormal).mp hrest).1
      exact ⟨rest, Stub.Provider.mem_names_iff.mpr hfile, rfl⟩
    · rintro ⟨name, hmem, rfl⟩
      exact ⟨name, (Stub.Provider.mem_filesBelow_iff hnormal).mpr
        ⟨Stub.Provider.mem_names_iff.mp hmem, hdepth name hmem⟩, rfl⟩

end

/-- A name that is both a file and a folder, a folder whose name starts like it, and a root that
is not written in its normal form. -/
theorem shows_one_tree_shared : ∃ p added, p.Reachable added ∧
    ∃ found, (Look.walk ⟨.folder [], []⟩ 2 "/m").run (View.make p "/m/./" []) =
        (.ok found, View.make p "/m/./" []) ∧ found.Nodup ∧
      ∀ path, path ∈ found ↔ path = "/m/pkg" ∨ path = "/m/pkg/x" ∨ path = "/m/pkg2/y" := by
  have hfiles : Stub.Provider.ofFiles ⟨.folder [], []⟩ "" []
      [("pkg", "a"), ("pkg/x", "b"), ("pkg2/y", "c")] =
      .ok ⟨"", ⟨[("pkg", .synthetic), ("pkg/x", .synthetic), ("pkg2/y", .synthetic)]⟩,
        ⟨[("pkg", "a"), ("pkg/x", "b"), ("pkg2/y", "c")], 0⟩⟩ := by cbv
  have hreach : Stub.Provider.Reachable _ _ := ⟨_, _, _, _, _, [], hfiles, rfl, rfl⟩
  generalize hp : Stub.Provider.mk _ _ _ = p at hreach
  have hnames : p.names = [("pkg" : Text), ("pkg/x" : Text), ("pkg2/y" : Text)] := by
    rw [← hp]
    cbv
  have hnormal : p.IsNormal := by
    unfold Stub.Provider.IsNormal
    rw [hnames]
    decide
  have hroot : IsMountRoot "/m/./" := ⟨by decide, by decide⟩
  have htop : normalise "/m" = normalise "/m/./" := by decide
  have hdepth : ∀ name ∈ p.names, (Text.split '/' name).length ≤ 2 := by
    rw [hnames]
    decide
  obtain ⟨found, hfound, hnodup, hmem⟩ :=
    (shows_one_tree hroot rfl hreach hnormal ⟨.folder [], []⟩ (v := View.make p "/m/./" [])).1
      "/m" 2 htop hdepth
  refine ⟨p, _, hreach, found, hfound, hnodup, fun path => ?_⟩
  have hmem' : path ∈ found ↔ ∃ name ∈ p.names, path = "/m" ++ ("/" : Text) ++ name := hmem path
  have hpkg : "/m" ++ ("/" : Text) ++ "pkg" = "/m/pkg" := by decide
  have hx : "/m" ++ ("/" : Text) ++ "pkg/x" = "/m/pkg/x" := by decide
  have hy : "/m" ++ ("/" : Text) ++ "pkg2/y" = "/m/pkg2/y" := by decide
  rw [hmem', hnames]
  simp [hpkg, hx, hy]

end Casebook.Mount

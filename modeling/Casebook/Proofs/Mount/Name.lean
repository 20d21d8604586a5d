import Casebook.Mount.Name
import Casebook.Proofs.Disk.Normal

/-!
# Paths below the mount root

Main statement (`stubName?_eq_some_iff`): a path has a name below the mount root exactly if
its normal form starts with the names of the root, and the rest of them make up the name.
Names of files below a path follow from that (`stubName?_below`), however the path is
spelled, and no name but the empty one is asked for that is not in its normal form
(`isNormalName_of_stubName?`).
-/

namespace Casebook.Mount

open Disk

/-! ## Names in folders -/

/-- The name of what is called `name` in a folder. -/
def inFolder (folder name : Text) : Text := if folder.isEmpty then name else folder ++ "/" ++ name

theorem inFolder_empty (name : Text) : inFolder "" name = name := rfl

theorem inFolder_of_ne {folder : Text} (h : folder ≠ "") (name : Text) :
    inFolder folder name = folder ++ ("/" : Text) ++ name :=
  if_neg fun hempty => h (Text.isEmpty_iff.mp hempty)

/-- What the names in a folder begin with. -/
def folderStart (folder : Text) : Text := if folder.isEmpty then "" else folder ++ "/"

theorem folderStart_append (folder name : Text) :
    folderStart folder ++ name = inFolder folder name := by
  unfold folderStart inFolder
  split <;> rfl

theorem inFolder_below (folder name rest : Text) :
    inFolder folder (name ++ ("/" : Text) ++ rest) =
      inFolder folder name ++ ("/" : Text) ++ rest := by
  simp only [← folderStart_append, Text.append_assoc]

theorem inFolder_ne_empty (folder : Text) {name : Text} (h : name ≠ "") :
    inFolder folder name ≠ "" := by
  rw [← folderStart_append]
  obtain ⟨start⟩ := folderStart folder
  obtain ⟨points⟩ := name
  intro heq
  have hpoints : start ++ points = [] := congrArg Text.points heq
  exact h (congrArg Text.mk (List.append_eq_nil_iff.mp hpoints).2)

theorem mem_split_inFolder {folder name : Text} (hfree : Text.IsFree name) :
    name ∈ Text.split '/' (inFolder folder name) := by
  have hname : name ∈ Text.split '/' name := by
    rw [Text.split_of_isFree hfree]
    exact List.mem_singleton_self name
  by_cases h : folder = ""
  · rw [h, inFolder_empty]
    exact hname
  · rw [inFolder_of_ne h, Text.split_append]
    exact List.mem_append_right _ hname

/-! ## Names of paths -/

/-- A place where stub files can be mounted: an absolute path that is not the root of the
disk, also after two dots took names back. -/
structure IsMountRoot (root : Text) : Prop where
  isAbsolute : (Path.ofText root).isAbsolute = true
  ne_top : (Path.ofText root).collapsed.names ≠ []

theorem text_append {root : Disk.Root} {names more : List Text} (hnames : names ≠ [])
    (hmore : more ≠ []) :
    (Disk.Path.mk root (names ++ more)).text =
      (Disk.Path.mk root names).text ++ ("/" : Text) ++ Text.joined "/" more := by
  obtain ⟨name, names, rfl⟩ := List.exists_cons_of_ne_nil hnames
  have htext : ∀ ns, (Disk.Path.mk root (name :: ns)).text =
      root.text ++ Text.joined "/" (name :: ns) := by
    intro ns
    cases root <;> rfl
  rw [List.cons_append, htext, htext, ← List.cons_append, Text.joined_append hnames hmore]
  simp only [Text.append_assoc]

/-- **A path has a name below the root exactly if its names start with those of the root.** -/
theorem stubName?_eq_some_iff {root path name : Text} (h : IsMountRoot root) :
    stubName? root path = some name ↔
      (Path.ofText path).root = (Path.ofText root).root ∧
        ∃ names, (Path.ofText path).collapsed.names = (Path.ofText root).collapsed.names ++ names ∧
          name = Text.joined "/" names := by
  have hroot : ∀ n ∈ (Path.ofText root).collapsed.names, IsPlain n := fun n =>
    isPlain_of_mem_collapsed
  have hpath : ∀ n ∈ (Path.ofText path).collapsed.names, IsPlain n := fun n =>
    isPlain_of_mem_collapsed
  have hnames := h.ne_top
  have hrootOf : (Path.ofText path).root = (Path.ofText path).collapsed.root := rfl
  have hrootOf' : (Path.ofText root).root = (Path.ofText root).collapsed.root := rfl
  rw [hrootOf, hrootOf']
  unfold stubName? normalise
  generalize (Path.ofText path).collapsed = p at hpath ⊢
  generalize (Path.ofText root).collapsed = r at hroot hnames ⊢
  dsimp only
  split
  · next heq =>
    obtain rfl := (text_inj hpath hroot).mp heq
    constructor
    · intro hname
      exact ⟨rfl, [], (List.append_nil _).symm, (Option.some.inj hname).symm⟩
    · rintro ⟨-, names, hnil, rfl⟩
      rw [List.append_right_eq_self.mp hnil.symm]
      rfl
  · next hne =>
    rw [Text.after?_eq_some_iff]
    constructor
    · intro htext
      -- the text is read back name by name
      have hp : p = ⟨r.root, r.names ++ namesOf name⟩ := by
        have hr := ofText_text hroot
        have hnamesOf : namesOf r.text = r.names := congrArg Disk.Path.names hr
        rw [← ofText_text hpath, htext, ofText_below (hnamesOf ▸ hnames), hnamesOf]
        exact congrArg (Disk.Path.mk · (r.names ++ namesOf name)) (congrArg Disk.Path.root hr)
      have hmore : namesOf name ≠ [] := by
        intro hnil
        rw [hnil, List.append_nil] at hp
        exact hne (congrArg Disk.Path.text hp)
      refine ⟨by rw [hp], namesOf name, by rw [hp], ?_⟩
      rw [hp, text_append hnames hmore] at htext
      exact (Text.append_left_inj.mp htext).symm
    · rintro ⟨hrootEq, names, hnamesEq, rfl⟩
      have hp : p = ⟨r.root, r.names ++ names⟩ := by
        rw [← hrootEq, ← hnamesEq]
      have hmore : names ≠ [] := by
        rintro rfl
        rw [List.append_nil] at hp
        exact hne (congrArg Disk.Path.text hp)
      rw [hp, text_append hnames hmore]

/-- A view keeps its root in the normal form. -/
theorem IsMountRoot.normalise {root : Text} (h : IsMountRoot root) :
    IsMountRoot (Disk.normalise root) := by
  have hcollapsed : (Path.ofText (Disk.normalise root)).collapsed = (Path.ofText root).collapsed :=
    collapsed_text fun name => isOrdinary_of_mem_collapsed h.isAbsolute
  have hroot : (Path.ofText (Disk.normalise root)).root = (Path.ofText root).root := by
    show (Path.ofText (Disk.normalise root)).collapsed.root = (Path.ofText root).collapsed.root
    rw [hcollapsed]
  refine ⟨?_, ?_⟩
  · unfold Path.isAbsolute
    rw [hroot]
    exact h.isAbsolute
  · rw [hcollapsed]
    exact h.ne_top

theorem isOrdinary_of_eq_append {root path : Text} (h : IsMountRoot root)
    (hroot : (Path.ofText path).root = (Path.ofText root).root) {names : List Text}
    (hnames : (Path.ofText path).collapsed.names = (Path.ofText root).collapsed.names ++ names) :
    ∀ n ∈ names, IsOrdinary n := by
  intro n hn
  have habs : (Path.ofText path).isAbsolute = true := by
    unfold Path.isAbsolute
    rw [hroot]
    exact h.isAbsolute
  apply isOrdinary_of_mem_collapsed habs
  rw [hnames]
  exact List.mem_append_right _ hn

/-- A name below the root is empty or in its normal form. -/
theorem isNormalName_of_stubName? {root path name : Text} (h : IsMountRoot root)
    (hname : stubName? root path = some name) : name = "" ∨ IsNormalName name := by
  obtain ⟨hroot, names, hnames, rfl⟩ := (stubName?_eq_some_iff h).mp hname
  by_cases hne : names = []
  · rw [hne]
    exact Or.inl rfl
  · exact Or.inr (isNormalName_joined hne (isOrdinary_of_eq_append h hroot hnames))

/-- **Going down from a path goes down from its name.** -/
theorem stubName?_below {root path folder name : Text} (h : IsMountRoot root)
    (hfolder : stubName? root path = some folder) (hname : IsNormalName name) :
    stubName? root (path ++ ("/" : Text) ++ name) = some (inFolder folder name) := by
  obtain ⟨hroot, names, hnames, rfl⟩ := (stubName?_eq_some_iff h).mp hfolder
  have hne : (Path.ofText path).collapsed.names ≠ [] := by
    rw [hnames]
    exact List.append_ne_nil_of_left_ne_nil h.ne_top names
  have hbelow := collapsed_below hne hname
  rw [stubName?_eq_some_iff h]
  refine ⟨?_, names ++ Text.split '/' name, ?_, ?_⟩
  · exact (congrArg Disk.Path.root hbelow).trans hroot
  · rw [hbelow, hnames, List.append_assoc]
  · by_cases hnil : names = []
    · rw [hnil, List.nil_append, Text.joined_split]
      exact inFolder_empty name
    · have hordinary := isOrdinary_of_eq_append h hroot hnames
      rw [Text.joined_append hnil (Text.split_ne_nil name), Text.joined_split,
        inFolder_of_ne (isNormalName_joined hnil hordinary).ne_empty]

end Casebook.Mount

import Casebook.Mount.View
import Casebook.Proofs.Mount.Name
import Casebook.Proofs.Text.Order

/-!
# Folders of stub files

The names of a provider are a flat list. A folder is there if some name lies below it, and its
entries are what stands between its name and the next slash. Main statements: an entry is
shown exactly if it is there (`mem_children_iff`), and going down through the entries finds
each name once (`mem_filesBelow_iff`, `nodup_filesBelow`).
-/

namespace Casebook.Stub.Provider

open Disk Mount

theorem mem_names_iff {p : Provider} {name : Text} : name ∈ p.names ↔ p.isLoadable name = true := by
  show name ∈ (p.index.entries.map Prod.fst).mergeSort Text.le ↔
    (p.index.entries.lookup name).isSome = true
  rw [List.mem_mergeSort, List.mem_map]
  generalize p.index.entries = entries
  constructor
  · rintro ⟨entry, hentry, rfl⟩
    cases hnone : entries.lookup entry.1 with
    | some o => rfl
    | none => exact absurd rfl (bne_iff_ne.mp (List.lookup_eq_none_iff.mp hnone entry hentry))
  · intro h
    obtain ⟨o, ho⟩ := Option.isSome_iff_exists.mp h
    obtain ⟨before, after, rfl, -⟩ := List.lookup_eq_some_iff.mp ho
    exact ⟨(name, o), by simp, rfl⟩

theorem isFolder_iff {p : Provider} {folder : Text} :
    p.isFolder folder = true ↔
      folder = "" ∨ ∃ rest, p.isLoadable (folder ++ ("/" : Text) ++ rest) = true := by
  unfold isFolder
  rw [Bool.or_eq_true, Text.isEmpty_iff, List.any_eq_true]
  refine or_congr Iff.rfl ?_
  constructor
  · rintro ⟨name, hname, hbegins⟩
    obtain ⟨rest, rfl⟩ := Text.begins_iff.mp hbegins
    exact ⟨rest, mem_names_iff.mp hname⟩
  · rintro ⟨rest, hrest⟩
    exact ⟨_, mem_names_iff.mpr hrest, Text.begins_iff.mpr ⟨rest, rfl⟩⟩

theorem hasEntry_iff {p : Provider} {name : Text} (hne : name ≠ "") :
    p.hasEntry name = true ↔ p.isLoadable name = true ∨ p.isFolder name = true := by
  unfold hasEntry
  rw [Text.isEmpty_eq_false hne]
  simp

/-! ## Sorting without repetitions -/

theorem merged_cons (s : Text) (ts : List Text) :
    (merged ts = [] ∧ merged (s :: ts) = [s]) ∨
      (∃ us, merged ts = s :: us ∧ merged (s :: ts) = s :: us) ∨
      ∃ t us, t ≠ s ∧ merged ts = t :: us ∧ merged (s :: ts) = s :: t :: us := by
  rw [merged]
  split
  · next heq => exact Or.inl ⟨heq, rfl⟩
  · next t us heq =>
    by_cases h : s = t
    · subst h
      exact Or.inr (Or.inl ⟨us, heq, if_pos rfl⟩)
    · exact Or.inr (Or.inr ⟨t, us, Ne.symm h, heq, if_neg h⟩)

theorem mem_merged {t : Text} {ts : List Text} : t ∈ merged ts ↔ t ∈ ts := by
  induction ts with
  | nil => exact Iff.rfl
  | cons s ts ih =>
      rw [List.mem_cons, ← ih]
      rcases merged_cons s ts with ⟨hrest, heq⟩ | ⟨us, hrest, heq⟩ | ⟨u, us, -, hrest, heq⟩
      · rw [heq, hrest]
        simp
      · rw [heq, hrest]
        simp
      · rw [heq, hrest]
        simp

/-- The first text stands before the second one. -/
def Precedes (s t : Text) : Prop := s.le t = true ∧ s ≠ t

theorem pairwise_merged {ts : List Text} (h : ts.Pairwise (fun s t => s.le t = true)) :
    (merged ts).Pairwise Precedes := by
  induction ts with
  | nil => exact List.Pairwise.nil
  | cons s ts ih =>
      obtain ⟨hle, hrest⟩ := List.pairwise_cons.mp h
      have hsorted := ih hrest
      rcases merged_cons s ts with ⟨-, heq⟩ | ⟨us, hmerged, heq⟩ | ⟨t, us, hne, hmerged, heq⟩
      · rw [heq]
        exact List.pairwise_singleton Precedes s
      · rw [heq, ← hmerged]
        exact hsorted
      · rw [heq, List.pairwise_cons, ← hmerged]
        refine ⟨fun u hu => ⟨hle u (mem_merged.mp hu), ?_⟩, hsorted⟩
        rintro rfl
        -- the text would stand behind the head of the rest, and in front of it
        rw [hmerged] at hu hsorted
        rcases List.mem_cons.mp hu with rfl | hu
        · exact hne rfl
        · have hts : t ∈ ts := mem_merged.mp (hmerged ▸ List.mem_cons_self)
          exact hne (Text.le_antisymm ((List.pairwise_cons.mp hsorted).1 s hu).1 (hle t hts))

/-! ## Entries of a folder -/

theorem pairwise_children (p : Provider) (folder : Text) :
    (p.children folder).Pairwise Precedes :=
  pairwise_merged (Text.pairwise_mergeSort_le _)

/-- **An entry is shown exactly if there is a file or a folder of its name.** -/
theorem mem_children_iff {p : Provider} {folder name : Text} :
    name ∈ p.children folder ↔
      Text.IsFree name ∧ (p.isLoadable (inFolder folder name) = true ∨
        ∃ rest, p.isLoadable (inFolder folder name ++ ("/" : Text) ++ rest) = true) := by
  have hmem : name ∈ p.children folder ↔ ∃ n ∈ p.names, ∃ rest, n = folderStart folder ++ rest ∧
      (Text.split '/' rest).headD "" = name := by
    show name ∈ merged _ ↔ _
    rw [mem_merged, List.mem_mergeSort, List.mem_map]
    constructor
    · rintro ⟨rest, hrest, hhead⟩
      obtain ⟨n, hn, hafter⟩ := List.mem_filterMap.mp hrest
      exact ⟨n, hn, rest, Text.after?_eq_some_iff.mp hafter, hhead⟩
    · rintro ⟨n, hn, rest, hafter, hhead⟩
      exact ⟨rest, List.mem_filterMap.mpr ⟨n, hn, Text.after?_eq_some_iff.mpr hafter⟩, hhead⟩
  rw [hmem]
  constructor
  · rintro ⟨n, hn, rest, rfl, hhead⟩
    obtain ⟨hfree, rfl | ⟨more, rfl⟩⟩ := Text.headD_split_eq_iff.mp hhead
    · rw [folderStart_append] at hn
      exact ⟨hfree, Or.inl (mem_names_iff.mp hn)⟩
    · rw [folderStart_append, inFolder_below] at hn
      exact ⟨hfree, Or.inr ⟨more, mem_names_iff.mp hn⟩⟩
  · rintro ⟨hfree, hfile | ⟨more, hbelow⟩⟩
    · exact ⟨_, mem_names_iff.mpr hfile, name, (folderStart_append _ _).symm,
        Text.headD_split_eq_iff.mpr ⟨hfree, Or.inl rfl⟩⟩
    · refine ⟨_, mem_names_iff.mpr hbelow, name ++ ("/" : Text) ++ more, ?_,
        Text.headD_split_eq_iff.mpr ⟨hfree, Or.inr ⟨more, rfl⟩⟩⟩
      rw [folderStart_append, inFolder_below]

theorem isFolder_inFolder_iff {p : Provider} {folder name : Text} (hne : name ≠ "") :
    p.isFolder (inFolder folder name) = true ↔
      ∃ rest, p.isLoadable (inFolder folder name ++ ("/" : Text) ++ rest) = true := by
  rw [isFolder_iff, or_iff_right (inFolder_ne_empty folder hne)]

/-! ## All files below a folder -/

/-- All names are relative paths in their normal form. -/
def IsNormal (p : Provider) : Prop := ∀ name ∈ p.names, IsNormalName name

/-- The entries in the folders of a provider with such names are ordinary. -/
theorem IsNormal.isOrdinary {p : Provider} (h : p.IsNormal) {folder name : Text}
    (hname : name ∈ p.children folder) : IsOrdinary name := by
  obtain ⟨hfree, hfile | ⟨rest, hbelow⟩⟩ := mem_children_iff.mp hname
  · exact h _ (mem_names_iff.mpr hfile) name (mem_split_inFolder hfree)
  · apply h _ (mem_names_iff.mpr hbelow) name
    rw [Text.split_append]
    exact List.mem_append_left _ (mem_split_inFolder hfree)

/-- What there is of an entry: the file of its name, and the files below the folder of its
name, each written as it is found from the folder that the entry is in. -/
def filesOf (p : Provider) (folder : Text) (below : Text → List Text) (name : Text) : List Text :=
  (if p.isLoadable (inFolder folder name) then [name] else []) ++
    if p.isFolder (inFolder folder name) then
      (below (inFolder folder name)).map (name ++ ("/" : Text) ++ ·) else []

/-- The files below a folder, with so many folders below one another. -/
def filesBelow (p : Provider) : (depth : Nat) → Text → List Text
  | 0, _ => []
  | depth + 1, folder => (p.children folder).flatMap (p.filesOf folder (p.filesBelow depth))

theorem mem_filesOf_iff {p : Provider} {folder name rest : Text} {below : Text → List Text} :
    rest ∈ p.filesOf folder below name ↔
      (p.isLoadable (inFolder folder name) = true ∧ rest = name) ∨
        (p.isFolder (inFolder folder name) = true ∧
          ∃ more ∈ below (inFolder folder name), rest = name ++ ("/" : Text) ++ more) := by
  unfold filesOf
  rw [List.mem_append]
  refine or_congr ?_ ?_
  · split <;> simp_all
  · by_cases hfolder : p.isFolder (inFolder folder name) = true
    · rw [if_pos hfolder, List.mem_map]
      constructor
      · rintro ⟨more, hmore, rfl⟩
        exact ⟨hfolder, more, hmore, rfl⟩
      · rintro ⟨-, more, hmore, rfl⟩
        exact ⟨more, hmore, rfl⟩
    · rw [if_neg hfolder]
      simp [hfolder]

/-- **Going down finds the files of a folder**, as deep as it goes. -/
theorem mem_filesBelow_iff {p : Provider} (h : p.IsNormal) {depth : Nat} {folder rest : Text} :
    rest ∈ p.filesBelow depth folder ↔
      p.isLoadable (inFolder folder rest) = true ∧ (Text.split '/' rest).length ≤ depth := by
  induction depth generalizing folder rest with
  | zero =>
      have hlen : 0 < (Text.split '/' rest).length :=
        List.length_pos_of_ne_nil (Text.split_ne_nil rest)
      simp only [filesBelow, List.not_mem_nil, false_iff, not_and]
      omega
  | succ depth ih =>
      rw [filesBelow, List.mem_flatMap]
      constructor
      · rintro ⟨name, hname, hmem⟩
        have hordinary := h.isOrdinary hname
        rcases mem_filesOf_iff.mp hmem with ⟨hfile, rfl⟩ | ⟨-, more, hmore, rfl⟩
        · rw [Text.split_of_isFree hordinary.isFree]
          exact ⟨hfile, by simp⟩
        · obtain ⟨hfile, hdepth⟩ := ih.mp hmore
          have hne := inFolder_ne_empty folder hordinary.ne_empty
          rw [inFolder_of_ne hne, ← inFolder_below] at hfile
          refine ⟨hfile, ?_⟩
          rw [Text.split_append, Text.split_of_isFree hordinary.isFree]
          simpa using hdepth
      · rintro ⟨hfile, hdepth⟩
        -- a file is found at the entry that its first name is
        obtain ⟨hfree, heq⟩ := Text.headD_split_eq_iff.mp (Eq.refl ((Text.split '/' rest).headD ""))
        generalize (Text.split '/' rest).headD "" = name at hfree heq
        rcases heq with rfl | ⟨more, rfl⟩
        · exact ⟨rest, mem_children_iff.mpr ⟨hfree, Or.inl hfile⟩,
            mem_filesOf_iff.mpr (Or.inl ⟨hfile, rfl⟩)⟩
        · rw [inFolder_below] at hfile
          have hname : name ∈ p.children folder :=
            mem_children_iff.mpr ⟨hfree, Or.inr ⟨more, hfile⟩⟩
          have hne := (h.isOrdinary hname).ne_empty
          refine ⟨name, hname, mem_filesOf_iff.mpr (Or.inr ⟨?_, more, ?_, rfl⟩)⟩
          · exact (isFolder_inFolder_iff hne).mpr ⟨more, hfile⟩
          · rw [Text.split_append, Text.split_of_isFree hfree] at hdepth
            rw [ih, inFolder_of_ne (inFolder_ne_empty folder hne)]
            exact ⟨hfile, by simpa using hdepth⟩

theorem headD_of_mem_filesOf {p : Provider} {folder name rest : Text} {below : Text → List Text}
    (hfree : Text.IsFree name) (h : rest ∈ p.filesOf folder below name) :
    (Text.split '/' rest).headD "" = name := by
  rcases mem_filesOf_iff.mp h with ⟨-, rfl⟩ | ⟨-, more, -, rfl⟩
  · exact Text.headD_split_eq_iff.mpr ⟨hfree, Or.inl rfl⟩
  · exact Text.headD_split_eq_iff.mpr ⟨hfree, Or.inr ⟨more, rfl⟩⟩

theorem nodup_filesOf {p : Provider} {folder name : Text} {below : Text → List Text}
    (h : (below (inFolder folder name)).Nodup) : (p.filesOf folder below name).Nodup := by
  unfold filesOf
  rw [List.nodup_append']
  refine ⟨?_, ?_, ?_⟩
  · split <;> simp
  · split
    · refine h.map fun more more' heq => ?_
      simpa only [Text.append_left_inj] using heq
    · exact List.nodup_nil
  · intro rest hfile hbelow
    -- what lies below the folder has a slash behind the name
    have hrest : rest = name := by
      split at hfile <;> simp_all
    split at hbelow
    · obtain ⟨more, -, hmore⟩ := List.mem_map.mp hbelow
      rw [hrest] at hmore
      have hlen := congrArg Text.length hmore
      simp only [Text.length_append] at hlen
      have hslash : (Text.ofString "/").length = 1 := rfl
      omega
    · simp at hbelow

/-- **Going down finds no file twice.** -/
theorem nodup_filesBelow (p : Provider) (depth : Nat) (folder : Text) :
    (p.filesBelow depth folder).Nodup := by
  induction depth generalizing folder with
  | zero => exact List.nodup_nil
  | succ depth ih =>
      rw [filesBelow, List.nodup_flatMap]
      constructor
      · intro name hname
        exact nodup_filesOf (ih (inFolder folder name))
      · refine List.Pairwise.imp_of_mem ?_ (pairwise_children p folder)
        -- files found at two entries differ in their first names
        intro name other hname hother hlt
        have hfree := (mem_children_iff.mp hname).1
        have hfree' := (mem_children_iff.mp hother).1
        intro rest hrest hrest'
        apply hlt.2
        rw [← headD_of_mem_filesOf hfree hrest, headD_of_mem_filesOf hfree' hrest']

end Casebook.Stub.Provider

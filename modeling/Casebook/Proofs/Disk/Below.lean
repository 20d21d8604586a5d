import Casebook.Disk.Below
import Casebook.Disk.Walk
import Casebook.Proofs.Disk.Normal
import Casebook.Proofs.Disk.Writing

/-!
# Paths below a folder

On a disk no folder has two entries of one name, and every name is one that a path can hold. Main
statements: the paths below a folder are those of the entries at its inner locations that pass the
test (`mem_pathsBelow`), each once (`nodup_pathsBelow`).
-/

namespace Casebook.Disk

/-- A name that an entry of a disk can have. -/
structure IsFileName (name : Text) : Prop extends IsOrdinary name where
  short : nameLength name ≤ nameLimit
  possible : PathFlaw.ofText? name = none

instance (name : Text) : Decidable (IsFileName name) :=
  decidable_of_iff
    (IsOrdinary name ∧ nameLength name ≤ nameLimit ∧ PathFlaw.ofText? name = none)
    ⟨fun h => ⟨h.1, h.2.1, h.2.2⟩, fun h => ⟨h.toIsOrdinary, h.short, h.possible⟩⟩

/-- A tree that a disk can hold: the names in a folder are different, and all can be written. -/
inductive Entry.IsProper : Entry → Prop
  | file (bytes : List UInt8) : IsProper (.file bytes)
  | link (target : Text) : IsProper (.link target)
  | folder {cs : List (Text × Entry)} (distinct : (cs.map Prod.fst).Nodup)
      (names : ∀ c ∈ cs, IsFileName c.1) (inner : ∀ c ∈ cs, IsProper c.2) : IsProper (.folder cs)

namespace Entry

/-! ## Entries of proper trees -/

theorem child?_eq_some_iff {cs : List (Text × Entry)} (hdistinct : (cs.map Prod.fst).Nodup)
    {name : Text} {inner : Entry} :
    (folder cs).child? name = some inner ↔ (name, inner) ∈ cs := by
  have hlookup : (folder cs).child? name = (cs.find? (·.1 == name)).map Prod.snd := rfl
  rw [hlookup]
  induction cs with
  | nil => simp
  | cons c cs ih =>
      obtain ⟨first, e⟩ := c
      rw [List.map_cons, List.nodup_cons] at hdistinct
      by_cases hname : first = name
      · subst hname
        have hnot : (first, inner) ∉ cs := fun hmem =>
          hdistinct.1 (List.mem_map.mpr ⟨_, hmem, rfl⟩)
        simp [hnot, eq_comm]
      · rw [List.find?_cons_of_neg (by simpa using hname)]
        refine (ih hdistinct.2 rfl).trans ?_
        simp [Ne.symm hname]

/-- What is in a proper tree is proper and named so. -/
theorem IsProper.at? {e inner : Entry} (he : e.IsProper) {l : Location}
    (h : e.at? l = some inner) : inner.IsProper ∧ ∀ name ∈ l, IsFileName name := by
  induction l generalizing e with
  | nil =>
      obtain rfl := Option.some.inj h
      exact ⟨he, by simp⟩
  | cons name l ih =>
      obtain ⟨next, hnext, hrest⟩ := Option.bind_eq_some_iff.mp h
      obtain ⟨cs, rfl⟩ := eq_folder_of_child? hnext
      cases he with
      | folder hdistinct hnames hinner =>
          have hmem := (child?_eq_some_iff hdistinct).mp hnext
          obtain ⟨hproper, hall⟩ := ih (hinner _ hmem) hrest
          exact ⟨hproper, List.forall_mem_cons.mpr ⟨hnames _ hmem, hall⟩⟩

end Entry

/-! ## Which paths are below -/

/-- The path with more names behind it. -/
def Path.descend (p : Path) (names : List Text) : Path := ⟨p.root, p.names ++ names⟩

theorem Path.child_descend (p : Path) (name : Text) (names : List Text) :
    (p.child name).descend names = p.descend (name :: names) := by
  unfold child descend
  rw [List.append_assoc, List.singleton_append]

theorem Path.descend_inj {p : Path} {names others : List Text} :
    p.descend names = p.descend others ↔ names = others := by
  unfold descend
  simp

variable {test : Text → Entry → Bool}

theorem mem_pathsAmong {path p : Path} {cs : List (Text × Entry)} :
    p ∈ pathsAmong test path cs ↔ ∃ c ∈ cs,
      (test c.1 c.2 = true ∧ p = path.child c.1) ∨ p ∈ pathsBelow test (path.child c.1) c.2 := by
  induction cs with
  | nil => simp [pathsAmong]
  | cons c cs ih =>
      obtain ⟨name, e⟩ := c
      rw [pathsAmong, List.mem_append, List.mem_append, ih, List.exists_mem_cons_iff]
      refine or_congr (or_congr ?_ Iff.rfl) Iff.rfl
      split
      · next htest => simp [htest]
      · next htest => simp [htest]

/-- There is nothing below what has nothing in it. -/
theorem Entry.at?_concat_of_children {e : Entry} (h : e.children = []) (l : Location)
    (name : Text) : e.at? (l ++ [name]) = none := by
  cases l with
  | nil => exact at?_cons_of_children h name []
  | cons first l => exact at?_cons_of_children h first (l ++ [name])

/-- **The paths below an entry** are those of its inner locations whose last name and entry pass the
test. -/
theorem mem_pathsBelow {e : Entry} (he : e.IsProper) {path p : Path} :
    p ∈ pathsBelow test path e ↔ ∃ folders name inner, e.at? (folders ++ [name]) = some inner ∧
      test name inner = true ∧ p = path.descend (folders ++ [name]) := by
  induction he generalizing path with
  | file bytes =>
      refine iff_of_false List.not_mem_nil ?_
      rintro ⟨folders, name, inner, hat, -⟩
      cases (Entry.at?_concat_of_children rfl folders name).symm.trans hat
  | link target =>
      refine iff_of_false List.not_mem_nil ?_
      rintro ⟨folders, name, inner, hat, -⟩
      cases (Entry.at?_concat_of_children rfl folders name).symm.trans hat
  | @folder cs hdistinct hnames hinner ih =>
      rw [pathsBelow, mem_pathsAmong]
      constructor
      · rintro ⟨⟨name, e⟩, hmem, ⟨htest, rfl⟩ | hbelow⟩
        · have hchild := (Entry.child?_eq_some_iff hdistinct).mpr hmem
          refine ⟨[], name, e, ?_, htest, rfl⟩
          rw [List.nil_append, Entry.at?, hchild]
          rfl
        · obtain ⟨folders, last, inner, hat, htest, rfl⟩ := (ih _ hmem).mp hbelow
          have hchild := (Entry.child?_eq_some_iff hdistinct).mpr hmem
          refine ⟨name :: folders, last, inner, ?_, htest, Path.child_descend ..⟩
          rw [List.cons_append, Entry.at?, hchild]
          exact hat
      · rintro ⟨folders, last, inner, hat, htest, rfl⟩
        cases folders with
        | nil =>
            obtain ⟨e, hchild, hat⟩ := Option.bind_eq_some_iff.mp hat
            obtain rfl := Option.some.inj hat
            exact ⟨_, (Entry.child?_eq_some_iff hdistinct).mp hchild, Or.inl ⟨htest, rfl⟩⟩
        | cons name folders =>
            obtain ⟨e, hchild, hat⟩ := Option.bind_eq_some_iff.mp hat
            have hmem := (Entry.child?_eq_some_iff hdistinct).mp hchild
            refine ⟨_, hmem, Or.inr ((ih _ hmem).mpr ⟨folders, last, inner, hat, htest, ?_⟩)⟩
            exact (Path.child_descend ..).symm

/-! ## No path twice -/

theorem exists_of_mem_pathsBelow {e : Entry} (he : e.IsProper) {path p : Path}
    (h : p ∈ pathsBelow test path e) : ∃ name names, p = path.descend (name :: names) := by
  obtain ⟨folders, name, -, -, -, rfl⟩ := (mem_pathsBelow he).mp h
  cases folders with
  | nil => exact ⟨name, [], rfl⟩
  | cons first folders => exact ⟨first, folders ++ [name], rfl⟩

/-- The first name behind a folder tells which of its entries a path belongs to. -/
theorem exists_of_mem_pathsAmong {cs : List (Text × Entry)} (hinner : ∀ c ∈ cs, c.2.IsProper)
    {path p : Path} (h : p ∈ pathsAmong test path cs) :
    ∃ c ∈ cs, ∃ names, p = path.descend (c.1 :: names) := by
  obtain ⟨c, hc, ⟨-, rfl⟩ | hbelow⟩ := mem_pathsAmong.mp h
  · exact ⟨c, hc, [], rfl⟩
  · obtain ⟨name, names, rfl⟩ := exists_of_mem_pathsBelow (hinner c hc) hbelow
    exact ⟨c, hc, name :: names, Path.child_descend ..⟩

/-- One entry of a folder has no path twice, if nothing below it has. -/
theorem nodup_pathsAmong_singleton {path : Path} {name : Text} {e : Entry} (he : e.IsProper)
    (h : (pathsBelow test (path.child name) e).Nodup) :
    (pathsAmong test path [(name, e)]).Nodup := by
  rw [pathsAmong, pathsAmong, List.append_nil]
  split
  · refine List.nodup_cons.mpr ⟨fun hmem => ?_, h⟩
    obtain ⟨next, names, heq⟩ := exists_of_mem_pathsBelow he hmem
    rw [Path.child_descend] at heq
    cases Path.descend_inj.mp (show path.descend [name] = _ from heq)
  · exact h

theorem nodup_pathsAmong {cs : List (Text × Entry)} (hdistinct : (cs.map Prod.fst).Nodup)
    (hinner : ∀ c ∈ cs, c.2.IsProper) {path : Path}
    (hbelow : ∀ c ∈ cs, (pathsBelow test (path.child c.1) c.2).Nodup) :
    (pathsAmong test path cs).Nodup := by
  induction cs with
  | nil => exact List.nodup_nil
  | cons c cs ih =>
      have hcons : pathsAmong test path (c :: cs) =
          pathsAmong test path [c] ++ pathsAmong test path cs := by simp [pathsAmong]
      rw [List.map_cons, List.nodup_cons] at hdistinct
      obtain ⟨hc, hcs⟩ := List.forall_mem_cons.mp hinner
      obtain ⟨hone, hmore⟩ := List.forall_mem_cons.mp hbelow
      rw [hcons]
      refine List.nodup_append.mpr
        ⟨nodup_pathsAmong_singleton hc hone, ih hdistinct.2 hcs hmore, ?_⟩
      rintro p hp q hq rfl
      obtain ⟨first, hfirst, names, rfl⟩ :=
        exists_of_mem_pathsAmong (List.forall_mem_singleton.mpr hc) hp
      obtain ⟨other, hother, others, heq⟩ := exists_of_mem_pathsAmong hcs hq
      have hname : c.1 = other.1 := by
        rw [List.mem_singleton.mp hfirst] at heq
        exact (List.cons.inj (Path.descend_inj.mp heq)).1
      exact hdistinct.1 (hname ▸ List.mem_map_of_mem hother)

/-- **No path is below an entry twice.** -/
theorem nodup_pathsBelow {e : Entry} (he : e.IsProper) (path : Path) :
    (pathsBelow test path e).Nodup := by
  induction he generalizing path with
  | file bytes => exact List.nodup_nil
  | link target => exact List.nodup_nil
  | folder hdistinct hnames hinner ih =>
      exact nodup_pathsAmong hdistinct hinner fun c hc => ih c hc _

end Casebook.Disk

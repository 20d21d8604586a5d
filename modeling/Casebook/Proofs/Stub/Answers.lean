import Casebook.Proofs.Stub.Basic
import Casebook.Proofs.Text.Split

/-!
# What a provider answers

Two providers with the same index that load the same are alike, whatever each of them has read
already. While the disk stays as it is, a provider is alike to itself after any loads
(`alike_loadAll`), and putting the same files into the forks of alike providers leaves alike
providers (`alike_addAll`).
-/

namespace Casebook.Stub

open Disk

namespace Provider

/-- The same answers to every question: which names there are, which are loadable, and what
loading them on the disk at hand gives. -/
structure SameAnswers (w : Workspace) (p q : Provider) : Prop where
  isLoadable : ∀ name, p.isLoadable name = q.isLoadable name
  load : ∀ name, (p.load w name).1 = (q.load w name).1
  names : p.names = q.names

/-- The same index, and the same answers to loads on the disk at hand. -/
structure Alike (w : Workspace) (p q : Provider) : Prop where
  index : p.index = q.index
  load : ∀ name, (p.load w name).1 = (q.load w name).1

variable {w : Workspace} {p q r : Provider}

namespace SameAnswers

theorem refl (w : Workspace) (p : Provider) : SameAnswers w p p := ⟨fun _ => rfl, fun _ => rfl, rfl⟩

theorem symm (h : SameAnswers w p q) : SameAnswers w q p :=
  ⟨fun name => (h.isLoadable name).symm, fun name => (h.load name).symm, h.names.symm⟩

theorem trans (h : SameAnswers w p q) (h' : SameAnswers w q r) : SameAnswers w p r :=
  ⟨fun name => (h.isLoadable name).trans (h'.isLoadable name),
    fun name => (h.load name).trans (h'.load name), h.names.trans h'.names⟩

end SameAnswers

namespace Alike

theorem refl (w : Workspace) (p : Provider) : Alike w p p := ⟨rfl, fun _ => rfl⟩

theorem symm (h : Alike w p q) : Alike w q p := ⟨h.index.symm, fun name => (h.load name).symm⟩

theorem trans (h : Alike w p q) (h' : Alike w q r) : Alike w p r :=
  ⟨h.index.trans h'.index, fun name => (h.load name).trans (h'.load name)⟩

theorem sameAnswers (h : Alike w p q) : SameAnswers w p q :=
  ⟨fun name => congrArg (Index.has · name) h.index, h.load, congrArg Index.names h.index⟩

end Alike

/-! ## Loads -/

/-- What the disk has for a name, by where the index places it. -/
def found (w : Workspace) (i : Index) (name : Text) : Outcome Text :=
  match i.origin? name with
  | some (.folder folder) => Contents.readFile w (folder.below name)
  | _ => .error (.unresolved (unplacedReport i name))

/-- A load answers with the text that is known, or else with what the disk has. -/
theorem load_answer (w : Workspace) (p : Provider) (name : Text) :
    (p.load w name).1 = (p.contents.text? name).elim (found w p.index name) .ok := by
  have hloads := loads p w name
  generalize p.load w name = result at hloads ⊢
  unfold found
  cases hloads with
  | known htext =>
      rw [htext]
      rfl
  | read hnone horigin hread =>
      rw [hnone, horigin]
      exact hread.symm
  | unread hnone horigin hread =>
      rw [hnone, horigin]
      exact hread.symm
  | unplaced hnone horigin =>
      rw [hnone, Option.elim_none]
      split
      · next folder heq => exact absurd heq (horigin folder)
      · rfl

/-- A provider that has read a file answers as before. -/
theorem alike_load (w : Workspace) (p : Provider) (name : Text) :
    Alike w (p.load w name).2 p := by
  refine ⟨rfl, fun n => ?_⟩
  rw [load_answer, load_answer, load_index]
  have hloads := loads p w name
  generalize p.load w name = result at hloads ⊢
  cases hloads with
  | known => rfl
  | unread => rfl
  | unplaced => rfl
  | @read folder text hnone horigin hread =>
      -- the text that is new is the one on disk
      dsimp only
      rw [Contents.text?_put]
      split
      · next hn =>
        rw [hn, hnone, Option.elim_some, Option.elim_none, found, horigin]
        exact hread.symm
      · rfl

/-- The provider after loads on the disk at hand, whatever they answered. -/
def loadAll (w : Workspace) (p : Provider) (names : List Text) : Provider :=
  names.foldl (fun p name => (p.load w name).2) p

theorem loadAll_append (w : Workspace) (p : Provider) (names more : List Text) :
    loadAll w p (names ++ more) = loadAll w (loadAll w p names) more :=
  List.foldl_append

/-- **Loads change no answer**, as long as the disk stays as it is. -/
theorem alike_loadAll (w : Workspace) (p : Provider) (names : List Text) :
    Alike w (loadAll w p names) p := by
  induction names generalizing p with
  | nil => exact Alike.refl w p
  | cons name names ih => exact (ih _).trans (alike_load w p name)

/-! ## Files put in by hand -/

theorem alike_fork (w : Workspace) (p : Provider) : Alike w p.fork p := by
  refine ⟨rfl, fun name => ?_⟩
  rw [load_answer, load_answer]
  rfl

theorem load_put (w : Workspace) (p : Provider) (name text n : Text) :
    ((p.put name text).load w n).1 = if n = name then .ok text else
      (p.contents.text? n).elim (found w (p.index.register name) n) .ok := by
  rw [load_answer]
  show ((p.contents.put name text).text? n).elim _ _ = _
  rw [Contents.text?_put]
  split <;> rfl

/-- A name has a text on disk or is unresolved whatever else is registered. -/
theorem found_register {w : Workspace} {i : Index} {name n text : Text} (hne : n ≠ name) :
    found w (i.register name) n = .ok text ↔ found w i n = .ok text := by
  unfold found
  rw [Index.origin?_register, if_neg hne]
  split <;> simp

theorem Alike.put (h : Alike w p q) (name text : Text) :
    Alike w (p.put name text) (q.put name text) := by
  have hindex : p.index.register name = q.index.register name :=
    congrArg (Index.register · name) h.index
  refine ⟨hindex, fun n => ?_⟩
  rw [load_put, load_put, hindex]
  by_cases hn : n = name
  · rw [if_pos hn, if_pos hn]
  · rw [if_neg hn, if_neg hn]
    have hload := h.load n
    rw [load_answer, load_answer, h.index] at hload
    -- a text that only one of them has read is the one on disk
    cases hp : p.contents.text? n with
    | none =>
        cases hq : q.contents.text? n with
        | none => rfl
        | some t =>
            rw [hp, hq] at hload
            exact (found_register hn).mpr hload
    | some t =>
        cases hq : q.contents.text? n with
        | none =>
            rw [hp, hq] at hload
            exact ((found_register hn).mpr hload.symm).symm
        | some t' =>
            rw [hp, hq] at hload
            exact hload

theorem add_empty (p : Provider) (text : Text) :
    p.add "" text = .error (.badFileName (.text "")) := rfl

theorem add_of_ne (p : Provider) {name : Text} (h : name ≠ "") (text : Text) :
    p.add name text = .ok (p.put name text) :=
  if_neg fun hempty => h (Text.isEmpty_iff.mp hempty)

/-- **The same files put into alike providers leave alike providers**, or are refused by both. -/
theorem Alike.addAll (h : Alike w p q) (files : List (Text × Text)) :
    (∃ p' q', p.addAll files = .ok p' ∧ q.addAll files = .ok q' ∧ Alike w p' q') ∨
      ∃ fault, p.addAll files = .error fault ∧ q.addAll files = .error fault := by
  induction files generalizing p q with
  | nil => exact Or.inl ⟨p, q, rfl, rfl, h⟩
  | cons file files ih =>
      obtain ⟨name, text⟩ := file
      unfold Provider.addAll at ih ⊢
      rw [List.foldlM_cons, List.foldlM_cons]
      by_cases hname : name = ""
      · subst hname
        rw [add_empty, add_empty]
        exact Or.inr ⟨_, rfl, rfl⟩
      · rw [add_of_ne p hname, add_of_ne q hname]
        exact ih (h.put name text)

/-- Files with names are not refused. -/
theorem addAll_ok (p : Provider) {files : List (Text × Text)} (h : ∀ file ∈ files, file.1 ≠ "") :
    ∃ q, p.addAll files = .ok q := by
  induction files generalizing p with
  | nil => exact ⟨p, rfl⟩
  | cons file files ih =>
      obtain ⟨hfile, hfiles⟩ := List.forall_mem_cons.mp h
      obtain ⟨q, hq⟩ := ih (p.put file.1 file.2) hfiles
      refine ⟨q, ?_⟩
      unfold Provider.addAll at hq ⊢
      rw [List.foldlM_cons, add_of_ne p hfile]
      exact hq

/-- A file without a name is refused, whatever files stand before it. -/
theorem addAll_error (p : Provider) {files : List (Text × Text)} {file : Text × Text}
    (hfile : file ∈ files) (hname : file.1 = "") : ∃ fault, p.addAll files = .error fault := by
  induction files generalizing p with
  | nil => cases hfile
  | cons first files ih =>
      unfold Provider.addAll at ih ⊢
      rw [List.foldlM_cons]
      by_cases hfirst : first.1 = ""
      · rw [hfirst, add_empty]
        exact ⟨_, rfl⟩
      · rw [add_of_ne p hfirst]
        rcases List.mem_cons.mp hfile with rfl | hfile
        · exact absurd hname hfirst
        · exact ih (p.put first.1 first.2) hfile

section

variable {p q : Provider} {files : List (Text × Text)} {name text : Text}

theorem addAll_cons_ok {file : Text × Text} (h : p.addAll (file :: files) = .ok q) :
    (p.put file.1 file.2).addAll files = .ok q := by
  unfold addAll at h ⊢
  rw [List.foldlM_cons] at h
  by_cases hname : file.1 = ""
  · rw [hname, add_empty] at h
    cases h
  · rw [add_of_ne p hname] at h
    exact h

/-- Files put in by hand leave the texts of other names alone. -/
theorem addAll_of_not_mem (h : p.addAll files = .ok q) (hname : name ∉ files.map Prod.fst) :
    q.contents.text? name = p.contents.text? name ∧ q.index.origin? name = p.index.origin? name := by
  induction files generalizing p with
  | nil =>
      cases h
      exact ⟨rfl, rfl⟩
  | cons file files ih =>
      rw [List.map_cons, List.mem_cons, not_or] at hname
      obtain ⟨htext, horigin⟩ := ih (addAll_cons_ok h) hname.2
      rw [htext, horigin]
      unfold put
      rw [Contents.text?_put, Index.origin?_register, if_neg hname.1, if_neg hname.1]
      exact ⟨rfl, rfl⟩

/-- A file put in by hand is known by its text. -/
theorem addAll_of_mem (h : p.addAll files = .ok q) (hdistinct : (files.map Prod.fst).Nodup)
    (hfile : (name, text) ∈ files) :
    q.contents.text? name = some text ∧ q.index.origin? name = some .synthetic := by
  induction files generalizing p with
  | nil => cases hfile
  | cons file files ih =>
      rw [List.map_cons, List.nodup_cons] at hdistinct
      rcases List.mem_cons.mp hfile with rfl | hfile
      · obtain ⟨htext, horigin⟩ := addAll_of_not_mem (addAll_cons_ok h) hdistinct.1
        rw [htext, horigin]
        unfold put
        rw [Contents.text?_put, Index.origin?_register, if_pos rfl, if_pos rfl]
        exact ⟨rfl, rfl⟩
      · exact ih (addAll_cons_ok h) hdistinct.2 hfile

theorem isLoadable_of_origin {origin : Origin} (h : p.index.origin? name = some origin) :
    p.isLoadable name = true :=
  Index.has_iff.mpr ⟨origin, h⟩

end

end Provider

end Casebook.Stub

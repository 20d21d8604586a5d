import Casebook.Stub.Provider
import Mathlib

/-!
# Operations of a provider, one by one

What each operation does to the index and to the texts that are known. Everything later
about providers is read off these lemmas: what is found under a name after a file was put
there, which faults reading a file can have, and how `load` answers, by where the index
places the name.
-/

namespace Casebook.Stub

open Disk

/-- What every step of a fold keeps, the fold keeps. -/
theorem foldlM_keeps {α β : Type} {P : β → Prop} {f : β → α → Outcome β}
    (step : ∀ b a b', P b → f b a = .ok b' → P b') :
    ∀ {as : List α} {b b' : β}, P b → as.foldlM f b = .ok b' → P b'
  | [], b, b', hb, h => by
      cases h
      exact hb
  | a :: as, b, b', hb, h => by
      rw [List.foldlM_cons] at h
      cases hf : f b a with
      | error fault =>
          rw [hf] at h
          cases h
      | ok c =>
          rw [hf] at h
          exact foldlM_keeps step (step b a c hb hf) h

/-! ## Index -/

namespace Index

theorem origin?_insert (i : Index) (name n : Text) (o : Origin) :
    (i.insert name o).origin? n = if n = name then some o else i.origin? n :=
  Table.lookup_put name n o i.entries

theorem origin?_register (i : Index) (name n : Text) :
    (i.register name).origin? n = if n = name then some .synthetic else i.origin? n :=
  origin?_insert i name n .synthetic

theorem has_iff {i : Index} {name : Text} :
    i.has name = true ↔ ∃ o, i.origin? name = some o := by
  rw [has, Option.isSome_iff_exists]

theorem has_eq_false_iff {i : Index} {name : Text} :
    i.has name = false ↔ i.origin? name = none := by
  rw [has, Option.isSome_eq_false_iff, Option.isNone_iff_eq_none]

/-- All files of the index come from folders. -/
def IsOfFolders (i : Index) : Prop := ∀ name, i.origin? name ≠ some .synthetic

theorem isOfFolders_insert {i : Index} (h : i.IsOfFolders) (name : Text) (folder : Path) :
    (i.insert name (.folder folder)).IsOfFolders := by
  intro n
  rw [origin?_insert]
  split
  · simp
  · exact h n

theorem isOfFolders_insertAll {folder : Path} {names : List Text} {i : Index}
    (h : i.IsOfFolders) :
    (names.foldl (fun i name => i.insert name (.folder folder)) i).IsOfFolders := by
  induction names generalizing i with
  | nil => exact h
  | cons name names ih => exact ih (isOfFolders_insert h name folder)

theorem isOfFolders_addFolder {w : Workspace} {suffix : Text} {i j : Index} {folder : Path}
    (h : i.IsOfFolders) (hadd : addFolder w suffix i folder = .ok j) : j.IsOfFolders := by
  unfold addFolder at hadd
  split at hadd
  · cases hadd
    exact isOfFolders_insertAll h
  · cases hadd
  · cases hadd

/-- An index built from folders holds no file that was registered by hand. -/
theorem isOfFolders_build {w : Workspace} {suffix : Text} {folders : List Path} {i : Index}
    (h : build w suffix folders = .ok i) : i.IsOfFolders :=
  foldlM_keeps (fun _ _ _ => isOfFolders_addFolder) (fun _ => by simp [empty, origin?]) h

end Index

/-! ## Contents -/

namespace Contents

theorem text?_put (c : Contents) (name text n : Text) :
    (c.put name text).text? n = if n = name then some text else c.text? n :=
  Table.lookup_put name n text c.texts

theorem has_iff {c : Contents} {name : Text} :
    c.has name = true ↔ ∃ text, c.text? name = some text := by
  rw [has, Option.isSome_iff_exists]

/-- The faults of reading a file: the disk refuses, or the bytes are no text. -/
theorem readFile_error {w : Workspace} {path : Path} {fault : Fault}
    (h : readFile w path = .error fault) :
    (∃ f, w.bytes path.text = .error f ∧ fault = .disk f) ∨ ∃ f, fault = .undecodable f := by
  unfold readFile at h
  cases hb : w.bytes path.text with
  | error f =>
      rw [hb] at h
      cases h
      exact Or.inl ⟨f, rfl, rfl⟩
  | ok bytes =>
      rw [hb] at h
      simp only [Except.mapError, bind, Except.bind, decodeBytes, charsOf] at h
      cases hd : Text.decodeUtf8 bytes with
      | error f =>
          rw [hd] at h
          cases h
          exact Or.inr ⟨f, rfl⟩
      | ok cs =>
          rw [hd] at h
          cases h

/-- A file whose bytes are text is read as that text. -/
theorem readFile_ok {w : Workspace} {path : Path} {bytes : List UInt8} {cs : List Char}
    (hb : w.bytes path.text = .ok bytes) (hd : Text.decodeUtf8 bytes = .ok cs) :
    readFile w path = .ok (.ofChars cs) := by
  unfold readFile decodeBytes charsOf
  rw [hb]
  simp only [Except.mapError, bind, Except.bind, hd]
  rfl

end Contents

/-! ## Loading -/

namespace Provider

variable (p : Provider) (w : Workspace) (name : Text)

/-- The ways that a load can go: the text is known; the index names a folder, and the file
there is read or not; or no folder is named. -/
inductive Loads : Outcome Text × Provider → Prop
  | known {text : Text} : p.contents.text? name = some text → Loads (.ok text, p)
  | read {folder : Path} {text : Text} : p.contents.text? name = none →
      p.index.origin? name = some (.folder folder) →
      Contents.readFile w (folder.below name) = .ok text →
      Loads (.ok text,
        { p with contents := { p.contents with reads := p.contents.reads + 1 }.put name text })
  | unread {folder : Path} {fault : Fault} : p.contents.text? name = none →
      p.index.origin? name = some (.folder folder) →
      Contents.readFile w (folder.below name) = .error fault →
      Loads (.error fault,
        { p with contents := { p.contents with reads := p.contents.reads + 1 } })
  | unplaced : p.contents.text? name = none →
      (∀ folder, p.index.origin? name ≠ some (.folder folder)) →
      Loads (.error (.unresolved (unplacedReport p.index name)), p)

theorem loads : Loads p w name (p.load w name) := by
  unfold load Contents.get
  cases htext : p.contents.text? name with
  | some text => exact .known htext
  | none =>
      unfold Contents.fetch
      cases horigin : p.index.origin? name with
      | none => exact .unplaced htext (by simp [horigin])
      | some o =>
          cases o with
          | synthetic => exact .unplaced htext (by simp [horigin])
          | folder folder =>
              dsimp only
              cases hread : Contents.readFile w (folder.below name) with
              | ok text => exact .read htext horigin hread
              | error fault => exact .unread htext horigin hread

/-- What is known after a load: the text that was found, under its name, and nothing else
that was not known before. -/
theorem load_text? (n : Text) :
    (p.load w name).2.contents.text? n =
      match (p.load w name).1 with
      | .ok text => if n = name then some text else p.contents.text? n
      | .error _ => p.contents.text? n := by
  have h := loads p w name
  generalize p.load w name = result at h ⊢
  cases h with
  | known htext =>
      dsimp only
      split
      · next hn => rw [hn, htext]
      · rfl
  | read => exact Contents.text?_put _ name _ n
  | unread => rfl
  | unplaced => rfl

theorem load_index : (p.load w name).2.index = p.index := rfl

/-- A load that fails adds no text. -/
theorem load_texts_of_error {fault : Fault} (h : (p.load w name).1 = .error fault) :
    (p.load w name).2.contents.texts = p.contents.texts := by
  have hloads := loads p w name
  generalize p.load w name = result at h hloads ⊢
  cases hloads with
  | known => rfl
  | read => cases h
  | unread => rfl
  | unplaced => rfl

end Provider

end Casebook.Stub

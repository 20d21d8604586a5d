import Casebook.Proofs.Stub.Basic

/-!
# Histories of a provider

A history is a list of calls, each with the disk as it is at that moment. Forking goes on
with the fork. What every history keeps is `Coherent`: the index and the known texts
belong together, although each operation changes them separately. Main statement
(`history_coherent`): after any history a name is loadable exactly if loading it does not
end in an unresolved name, files put in by hand have the text put in last, and a call that
fails changes neither the index nor the texts.
-/

namespace Casebook.Stub

open Disk

namespace Provider

/-- A provider of folders and of files put in by hand. -/
def ofFiles (w : Workspace) (suffix : Text) (folders : List Path) (files : List (Text × Text)) :
    Outcome Provider := do
  (← ofFolders w suffix folders).addAll files

/-- A call. Name and contents of a file put in by hand may be anything. -/
inductive Call
  | add (name contents : Value)
  | load (name : Text)
  | isLoadable (name : Text)
  | names
  | fork

/-- What a call gives back when it does not fail. -/
inductive Answer
  | done
  | text (t : Text)
  | truth (b : Bool)
  | names (ts : List Text)
deriving DecidableEq

/-- One call on the disk at hand: its answer, and the provider after it. -/
def step (w : Workspace) (p : Provider) : Call → Outcome Answer × Provider
  | .add name contents =>
    match p.addValue name contents with
    | .ok q => (.ok .done, q)
    | .error fault => (.error fault, p)
  | .load name => ((p.load w name).1.map .text, (p.load w name).2)
  | .isLoadable name => (.ok (.truth (p.isLoadable name)), p)
  | .names => (.ok (.names p.names), p)
  | .fork => (.ok .done, p.fork)

/-- The provider after a history. -/
def run (p : Provider) (history : List (Workspace × Call)) : Provider :=
  history.foldl (fun p e => (p.step e.1 e.2).2) p

/-- The file that a call puts in. -/
def Call.added? : Call → Option (Text × Text)
  | .add (.text name) (.text text) => if name.isEmpty then none else some (name, text)
  | _ => none

/-- The files that a history puts in, in order. -/
def addedBy (history : List (Workspace × Call)) : List (Text × Text) :=
  history.filterMap (·.2.added?)

/-- The text put in last under a name. -/
def lastText (added : List (Text × Text)) (name : Text) : Option Text :=
  added.reverse.lookup name

theorem lastText_concat (added : List (Text × Text)) (name text n : Text) :
    lastText (added ++ [(name, text)]) n = if n = name then some text else lastText added n := by
  unfold lastText
  rw [List.reverse_append, List.reverse_singleton, List.singleton_append, List.lookup_cons]
  by_cases h : n = name
  · rw [if_pos h, beq_iff_eq.mpr h]
  · rw [if_neg h, beq_eq_false_iff_ne.mpr h]

/-! ## The invariant -/

/-- Index and texts belong together. A name is registered by hand exactly if some text was
put in under it, and its known text is the last of those; every known text is indexed. -/
structure Coherent (p : Provider) (added : List (Text × Text)) : Prop where
  synthetic : ∀ name, p.index.origin? name = some .synthetic ↔ ∃ text, lastText added name = some text
  text : ∀ name text, lastText added name = some text → p.contents.text? name = some text
  indexed : ∀ name, p.contents.has name = true → p.index.has name = true

/-- A file is put in if name and contents are texts and the name is not empty; anything else
is refused. -/
theorem addValue_cases (p : Provider) (name contents : Value) :
    (∃ n t, (Call.add name contents).added? = some (n, t) ∧
      p.addValue name contents = .ok (p.put n t)) ∨
    ((Call.add name contents).added? = none ∧ ∃ fault, p.addValue name contents = .error fault) := by
  cases name with
  | text n =>
      cases contents with
      | text t =>
          cases hn : n.isEmpty with
          | true => exact Or.inr ⟨if_pos hn, _, if_pos hn⟩
          | false =>
              have hne : ¬ n.isEmpty = true := by simp [hn]
              exact Or.inl ⟨n, t, if_neg hne, if_neg hne⟩
      | _ => exact Or.inr ⟨rfl, _, rfl⟩
  | _ => exact Or.inr ⟨rfl, _, rfl⟩

theorem coherent_put {p : Provider} {added : List (Text × Text)} (h : Coherent p added)
    (name text : Text) : Coherent (p.put name text) (added ++ [(name, text)]) := by
  refine ⟨?_, ?_, ?_⟩
  · intro n
    rw [lastText_concat]
    show (p.index.register name).origin? n = _ ↔ _
    rw [Index.origin?_register]
    split
    · simp
    · exact h.synthetic n
  · intro n t
    rw [lastText_concat]
    show _ → (p.contents.put name text).text? n = _
    rw [Contents.text?_put]
    split
    · exact id
    · exact h.text n t
  · intro n hn
    obtain ⟨t, ht⟩ := Contents.has_iff.mp hn
    show (p.index.register name).has n = true
    rw [Index.has_iff, Index.origin?_register]
    split
    · exact ⟨_, rfl⟩
    · next hne =>
      have ht' : (p.contents.put name text).text? n = some t := ht
      rw [Contents.text?_put, if_neg hne] at ht'
      exact Index.has_iff.mp (h.indexed n (Contents.has_iff.mpr ⟨t, ht'⟩))

theorem coherent_load {p : Provider} {added : List (Text × Text)} (h : Coherent p added)
    (w : Workspace) (name : Text) : Coherent (p.load w name).2 added := by
  have htext := load_text? p w name
  have hloads := loads p w name
  generalize p.load w name = result at htext hloads ⊢
  cases hloads with
  | known => exact h
  | unread => exact ⟨h.synthetic, h.text, h.indexed⟩
  | unplaced => exact h
  | @read folder text hnone horigin hread =>
      refine ⟨h.synthetic, ?_, ?_⟩
      · intro n t hlast
        rw [htext]
        dsimp only
        split
        · next hn =>
          -- the name was not put in by hand, since it would be known then
          rw [hn] at hlast
          rw [h.text name t hlast] at hnone
          cases hnone
        · exact h.text n t hlast
      · intro n hn
        obtain ⟨t, ht⟩ := Contents.has_iff.mp hn
        rw [htext] at ht
        dsimp only at ht
        split at ht
        · next heq => exact Index.has_iff.mpr ⟨_, heq ▸ horigin⟩
        · exact h.indexed n (Contents.has_iff.mpr ⟨t, ht⟩)

/-- Files that are put in one after the other. -/
theorem coherent_addAll {p q : Provider} {added files : List (Text × Text)}
    (h : Coherent p added) (hq : p.addAll files = .ok q) : Coherent q (added ++ files) := by
  induction files generalizing p added with
  | nil =>
      cases hq
      rwa [List.append_nil]
  | cons f files ih =>
      obtain ⟨name, text⟩ := f
      rw [addAll, List.foldlM_cons, add] at hq
      split at hq
      · cases hq
      · have hput := ih (coherent_put h name text) hq
        rwa [List.append_assoc] at hput

theorem coherent_ofFiles {w : Workspace} {suffix : Text} {folders : List Path}
    {files : List (Text × Text)} {p : Provider} (h : ofFiles w suffix folders files = .ok p) :
    Coherent p files := by
  unfold ofFiles ofFolders at h
  cases hbuild : Index.build w suffix folders with
  | error fault =>
      rw [hbuild] at h
      cases h
  | ok i =>
      rw [hbuild] at h
      have hfolders := Index.isOfFolders_build hbuild
      have hstart : Coherent ⟨suffix, i, .empty⟩ [] := by
        refine ⟨fun name => ⟨fun hs => absurd hs (hfolders name), ?_⟩, ?_, ?_⟩
        · rintro ⟨text, ht⟩
          cases ht
        · intro name text ht
          cases ht
        · intro name hn
          cases hn
      exact coherent_addAll hstart h

/-- **One step.** A call keeps index and texts together. -/
theorem coherent_step {p : Provider} {added : List (Text × Text)} (h : Coherent p added)
    (w : Workspace) (call : Call) :
    Coherent (p.step w call).2 (added ++ call.added?.toList) := by
  cases call with
  | add name contents =>
      rcases addValue_cases p name contents with ⟨n, t, hadded, hq⟩ | ⟨hadded, fault, hq⟩
      · rw [step, hq, hadded]
        exact coherent_put h n t
      · rw [step, hq, hadded, Option.toList_none, List.append_nil]
        exact h
  | load name =>
      show Coherent (p.load w name).2 (added ++ [])
      rw [List.append_nil]
      exact coherent_load h w name
  | isLoadable name => rwa [show Call.added? (.isLoadable name) = none from rfl,
      Option.toList_none, List.append_nil]
  | names => rwa [show Call.added? .names = none from rfl, Option.toList_none, List.append_nil]
  | fork =>
      rw [show Call.added? .fork = none from rfl, Option.toList_none, List.append_nil]
      exact ⟨h.synthetic, h.text, h.indexed⟩

/-- **A whole history** keeps them together. -/
theorem coherent_run {p : Provider} {added : List (Text × Text)} (h : Coherent p added)
    (history : List (Workspace × Call)) :
    Coherent (p.run history) (added ++ addedBy history) := by
  induction history generalizing p added with
  | nil =>
      rw [addedBy, List.filterMap_nil, List.append_nil]
      exact h
  | cons e history ih =>
      obtain ⟨w, call⟩ := e
      have hrest := ih (coherent_step h w call)
      have hadded : addedBy ((w, call) :: history) = call.added?.toList ++ addedBy history := by
        unfold addedBy
        cases hc : call.added? with
        | none => rw [List.filterMap_cons_none (by exact hc)]; rfl
        | some f => rw [List.filterMap_cons_some (by exact hc)]; rfl
      rw [hadded, ← List.append_assoc]
      exact hrest

/-- The provider came about by some history, in which these files were put in. -/
def Reachable (p : Provider) (added : List (Text × Text)) : Prop :=
  ∃ w suffix folders files p₀ history, ofFiles w suffix folders files = .ok p₀ ∧
    p = p₀.run history ∧ added = files ++ addedBy history

theorem Reachable.coherent {p : Provider} {added : List (Text × Text)} (h : Reachable p added) :
    Coherent p added := by
  obtain ⟨w, suffix, folders, files, p₀, history, hfiles, rfl, rfl⟩ := h
  exact coherent_run (coherent_ofFiles hfiles) history

/-! ## What follows for calls -/

/-- Where index and texts belong together, a known text keeps nothing from being loaded, and
a name without a folder is loaded from what was put in. -/
theorem unresolved_iff {p : Provider} {added : List (Text × Text)} (h : Coherent p added)
    (w : Workspace) (name : Text) :
    (∃ report, (p.load w name).1 = .error (.unresolved report)) ↔ p.isLoadable name = false := by
  have hloads := loads p w name
  generalize p.load w name = result at hloads ⊢
  show _ ↔ p.index.has name = false
  cases hloads with
  | known htext =>
      have hhas := h.indexed name (Contents.has_iff.mpr ⟨_, htext⟩)
      simp [hhas]
  | read _ horigin =>
      have hhas := Index.has_iff.mpr ⟨_, horigin⟩
      simp [hhas]
  | unread _ horigin hread =>
      have hhas := Index.has_iff.mpr ⟨_, horigin⟩
      rcases Contents.readFile_error hread with ⟨f, -, rfl⟩ | ⟨f, rfl⟩ <;> simp [hhas]
  | unplaced hnone hplace =>
      refine iff_of_true ⟨_, rfl⟩ (Index.has_eq_false_iff.mpr ?_)
      cases horigin : p.index.origin? name with
      | none => rfl
      | some o =>
          cases o with
          | folder folder => exact absurd horigin (hplace folder)
          | synthetic =>
              obtain ⟨text, hlast⟩ := (h.synthetic name).mp horigin
              rw [h.text name text hlast] at hnone
              cases hnone

/-- A call that fails leaves index and texts as they were. -/
theorem step_of_error {p : Provider} {w : Workspace} {call : Call} {fault : Fault}
    (h : (p.step w call).1 = .error fault) :
    (p.step w call).2.index = p.index ∧
      (p.step w call).2.contents.texts = p.contents.texts := by
  cases call with
  | add name contents =>
      rcases addValue_cases p name contents with ⟨n, t, -, hq⟩ | ⟨-, f, hq⟩
      · rw [step, hq] at h
        cases h
      · rw [step, hq]
        exact ⟨rfl, rfl⟩
  | load name =>
      refine ⟨rfl, ?_⟩
      cases hload : (p.load w name).1 with
      | ok text =>
          rw [step, hload] at h
          cases h
      | error f => exact load_texts_of_error p w name hload
  | isLoadable name => cases h
  | names => cases h
  | fork => cases h

/-- A loadable file that could not be read is read as soon as its bytes are there and are text. -/
theorem load_after_error {p : Provider} {w : Workspace} {name : Text} {fault : Fault}
    (h : (p.load w name).1 = .error fault) (hresolved : ∀ report, fault ≠ .unresolved report) :
    ∃ folder, p.index.origin? name = some (.folder folder) ∧
      ∀ w' bytes cs, w'.bytes (folder.below name).text = .ok bytes →
        Text.decodeUtf8 bytes = .ok cs →
        ((p.load w name).2.load w' name).1 = .ok (.ofChars cs) := by
  have hloads := loads p w name
  generalize p.load w name = result at h hloads ⊢
  cases hloads with
  | known => cases h
  | read => cases h
  | unplaced =>
      cases h
      exact absurd rfl (hresolved _)
  | @unread folder f hnone horigin =>
      refine ⟨folder, horigin, fun w' bytes cs hbytes hdecode => ?_⟩
      have hread := Contents.readFile_ok hbytes hdecode
      have hagain := loads
        { p with contents := { p.contents with reads := p.contents.reads + 1 } } w' name
      generalize load _ w' name = again at hagain ⊢
      cases hagain with
      | known htext => cases hnone.symm.trans htext
      | read _ horigin' hread' =>
          cases horigin.symm.trans horigin'
          exact hread'.symm.trans hread
      | unread _ horigin' hread' =>
          cases horigin.symm.trans horigin'
          cases hread.symm.trans hread'
      | unplaced _ hplace => exact absurd horigin (hplace folder)

/-- **Histories.** Of a provider reached by any history, on any disk: a load ends in an
unresolved name exactly if the name is not loadable; a file registered by hand has the text
that was put in last; every known text is indexed; a call that fails leaves index and texts
as they were; and a loadable file that could not be read is read once its bytes are text. -/
theorem history_coherent {p : Provider} {added : List (Text × Text)} (h : Reachable p added) :
    (∀ w name, (∃ report, (p.load w name).1 = .error (.unresolved report)) ↔
      p.isLoadable name = false) ∧
    (∀ name, p.index.origin? name = some .synthetic →
      ∃ text, lastText added name = some text ∧ p.contents.text? name = some text) ∧
    (∀ name, p.contents.has name = true → p.index.has name = true) ∧
    (∀ w call fault, (p.step w call).1 = .error fault →
      (p.step w call).2.index = p.index ∧
        (p.step w call).2.contents.texts = p.contents.texts) ∧
    (∀ w name fault, p.isLoadable name = true → (p.load w name).1 = .error fault →
      ∃ folder, p.index.origin? name = some (.folder folder) ∧
        ∀ w' bytes cs, w'.bytes (folder.below name).text = .ok bytes →
          Text.decodeUtf8 bytes = .ok cs →
          ((p.load w name).2.load w' name).1 = .ok (.ofChars cs)) := by
  have hc := h.coherent
  refine ⟨fun w name => unresolved_iff hc w name, ?_, hc.indexed,
    fun w call fault => step_of_error, ?_⟩
  · intro name hs
    obtain ⟨text, hlast⟩ := (hc.synthetic name).mp hs
    exact ⟨text, hlast, hc.text name text hlast⟩
  · intro w name fault hloadable hfault
    refine load_after_error hfault ?_
    rintro report rfl
    have hno := (unresolved_iff hc w name).mp ⟨report, hfault⟩
    rw [hloadable] at hno
    cases hno

/-- A disk with one folder and two files in it; the bytes of the first may be anything. -/
def twoFiles (bytes : List UInt8) : Workspace :=
  ⟨.folder [("s", .folder [("a.pyi", .file bytes), ("b.pyi", .file [98])])], []⟩

/-- A file that is no text at first is read when it is mended, after another one was read
and then replaced by hand, and the provider was forked. -/
theorem history_coherent_mended : ∃ p added, Reachable p added ∧
    lastText added "b.pyi" = some "y" ∧ p.contents.text? "b.pyi" = some "y" ∧
    (∃ fault, (p.load (twoFiles [255]) "a.pyi").1 = .error fault) ∧
    ((p.load (twoFiles [255]) "a.pyi").2.load (twoFiles [97]) "a.pyi").1 = .ok "a" := by
  have hfiles : ofFiles (twoFiles [255]) ".pyi" [⟨.slash, ["s"]⟩] [("c.pyi", "x")] =
      .ok ⟨".pyi", ⟨[("a.pyi", .folder ⟨.slash, ["s"]⟩), ("b.pyi", .folder ⟨.slash, ["s"]⟩),
        ("c.pyi", .synthetic)]⟩, ⟨[("c.pyi", "x")], 0⟩⟩ := by cbv
  have hreach : Reachable _ _ := ⟨_, _, _, _, _,
    [(twoFiles [255], .load "b.pyi"), (twoFiles [255], .load "a.pyi"),
      (twoFiles [], .add (.text "b.pyi") (.text "y")), (twoFiles [], .fork)], hfiles, rfl, rfl⟩
  obtain ⟨-, hsynthetic, -, -, hmended⟩ := history_coherent hreach
  refine ⟨_, _, hreach, by cbv, ?_, ?_, ?_⟩
  · obtain ⟨text, hlast, htext⟩ := hsynthetic "b.pyi" (by cbv)
    rw [htext, ← hlast]
    cbv
  · exact ⟨.undecodable ⟨0, 1, 255, .start⟩, by cbv⟩
  · obtain ⟨folder, horigin, hread⟩ := hmended (twoFiles [255]) "a.pyi"
      (.undecodable ⟨0, 1, 255, .start⟩) (by cbv) (by cbv)
    have hfolder : folder = ⟨.slash, ["s"]⟩ := by
      have : some (Origin.folder folder) = some (.folder ⟨.slash, ["s"]⟩) :=
        horigin.symm.trans (by cbv)
      cases this
      rfl
    subst hfolder
    exact hread (twoFiles [97]) [97] ['a'] (by cbv) (by cbv)

end Provider

end Casebook.Stub

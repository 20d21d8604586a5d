import Casebook.Proofs.Stub.History

/-!
# What holds of every index

The index of a provider begins without files. A file comes in because a folder was searched and
something of its name was found to be a file there, or it is registered by hand. What both of these
keep holds of every provider that came about by any history. Main statement: `Reachable.index`.
-/

namespace Casebook.Stub

open Disk

/-! ## Tests that can fail -/

/-- A list is filtered by a test that can fail unless the test fails of some element. -/
theorem filterAuxM_cases {ε α : Type} (test : α → Except ε Bool) (as passed : List α) :
    (∃ out, List.filterAuxM test as passed = .ok out ∧ (∀ a ∈ as, ∃ b, test a = .ok b) ∧
        ∀ a, a ∈ out ↔ a ∈ passed ∨ a ∈ as ∧ test a = .ok true) ∨
      ∃ a ∈ as, ∃ e, test a = .error e ∧ List.filterAuxM test as passed = .error e := by
  induction as generalizing passed with
  | nil => exact Or.inl ⟨passed, rfl, by simp, by simp⟩
  | cons a as ih =>
      rw [List.filterAuxM]
      cases htest : test a with
      | error e => exact Or.inr ⟨a, List.mem_cons_self, e, htest, rfl⟩
      | ok b =>
          rcases ih (cond b (a :: passed) passed) with
            ⟨out, hout, hok, hmem⟩ | ⟨a', ha', e, he, hout⟩
          · refine Or.inl ⟨out, hout, List.forall_mem_cons.mpr ⟨⟨b, htest⟩, hok⟩, fun x => ?_⟩
            rw [hmem]
            cases b with
            | false =>
                have hno : ¬ (x = a ∧ test x = .ok true) := by
                  rintro ⟨rfl, hx⟩
                  cases htest.symm.trans hx
                simp only [cond_false, List.mem_cons, or_and_right, hno, false_or]
            | true =>
                have hyes : x = a ∧ test x = .ok true ↔ x = a :=
                  and_iff_left_of_imp fun hx => hx ▸ htest
                simp only [cond_true, List.mem_cons, or_and_right, hyes, or_assoc, or_left_comm]
          · exact Or.inr ⟨a', List.mem_cons_of_mem a ha', e, he, hout⟩

namespace Index

/-- What holds of an index without files, and goes on to hold whenever a file comes in. -/
structure IsKept (P : Index → Prop) : Prop where
  empty : P .empty
  insert : ∀ (w : Workspace) (folder : Path) (name : Text) (i : Index),
    w.isFile (folder.below name).text = .ok true → P i → P (i.insert name (.folder folder))
  register : ∀ (i : Index) (name : Text), P i → P (i.register name)

variable {P : Index → Prop} {w : Workspace} {suffix : Text}

/-- What is found in a folder are files. -/
theorem isFile_of_mem_filesIn {folder : Path} {names : List Text}
    (h : filesIn w suffix folder = .ok names) :
    ∀ name ∈ names, w.isFile (folder.below name).text = .ok true := by
  unfold filesIn List.filterM at h
  cases hnames : w.names folder.text with
  | error fault =>
      rw [hnames] at h
      cases h
  | ok candidates =>
      rw [hnames] at h
      simp only [bind, Except.bind] at h
      split at h
      · cases h
      · next passed hpassed =>
        cases h
        intro name hname
        rw [List.mem_reverse] at hname
        rcases filterAuxM_cases (fun name => w.isFile (folder.below name).text)
          (candidates.filter (Text.ends suffix ·)) [] with ⟨out, hout, -, hmem⟩ | ⟨-, -, e, -, hout⟩
        · cases hout.symm.trans hpassed
          exact (((hmem name).mp hname).resolve_left List.not_mem_nil).2
        · cases hout.symm.trans hpassed

theorem IsKept.insertAll (h : IsKept P) {folder : Path} {names : List Text}
    (hnames : ∀ name ∈ names, w.isFile (folder.below name).text = .ok true) {i : Index} (hi : P i) :
    P (names.foldl (fun i name => i.insert name (.folder folder)) i) := by
  induction names generalizing i with
  | nil => exact hi
  | cons name names ih =>
      obtain ⟨hname, hnames⟩ := List.forall_mem_cons.mp hnames
      exact ih hnames (h.insert w folder name i hname hi)

theorem IsKept.addFolder (h : IsKept P) {i j : Index} {folder : Path} (hi : P i)
    (hadd : Index.addFolder w suffix i folder = .ok j) : P j := by
  unfold Index.addFolder at hadd
  split at hadd
  · next names hfiles =>
    cases hadd
    exact h.insertAll (isFile_of_mem_filesIn hfiles) hi
  · cases hadd
  · cases hadd

theorem IsKept.build (h : IsKept P) {folders : List Path} {i : Index}
    (hbuild : Index.build w suffix folders = .ok i) : P i :=
  foldlM_keeps (fun _ _ _ => h.addFolder) h.empty hbuild

end Index

namespace Provider

variable {P : Index → Prop} {w : Workspace} {p q : Provider}

theorem index_addAll (h : Index.IsKept P) {files : List (Text × Text)} (hp : P p.index)
    (hq : p.addAll files = .ok q) : P q.index := by
  refine foldlM_keeps (P := fun p : Provider => P p.index) (fun p file q hp hadd => ?_) hp hq
  unfold add at hadd
  split at hadd
  · cases hadd
  · cases hadd
    exact h.register p.index file.1 hp

theorem index_ofFiles (h : Index.IsKept P) {suffix : Text} {folders : List Path}
    {files : List (Text × Text)} (hp : ofFiles w suffix folders files = .ok p) : P p.index := by
  unfold ofFiles ofFolders at hp
  cases hbuild : Index.build w suffix folders with
  | error fault =>
      rw [hbuild] at hp
      cases hp
  | ok i =>
      rw [hbuild] at hp
      have hi : P (Provider.mk suffix i .empty).index := h.build hbuild
      exact index_addAll h hi hp

theorem index_step (h : Index.IsKept P) (hp : P p.index) (w : Workspace) (call : Call) :
    P (p.step w call).2.index := by
  cases call with
  | add name contents =>
      rcases addValue_cases p name contents with ⟨n, t, -, hq⟩ | ⟨-, fault, hq⟩
      · rw [step, hq]
        exact h.register p.index n hp
      · rw [step, hq]
        exact hp
  | load name => exact hp
  | isLoadable name => exact hp
  | names => exact hp
  | fork => exact hp

theorem index_run (h : Index.IsKept P) (hp : P p.index) (history : List (Workspace × Call)) :
    P (p.run history).index := by
  induction history generalizing p with
  | nil => exact hp
  | cons e history ih => exact ih (index_step h hp e.1 e.2)

/-- **Whatever was done**, the index of a provider has what is kept when files come in. -/
theorem Reachable.index {added : List (Text × Text)} (hp : p.Reachable added)
    (h : Index.IsKept P) : P p.index := by
  obtain ⟨w, suffix, folders, files, p₀, history, hfiles, rfl, -⟩ := hp
  exact index_run h (index_ofFiles h hfiles) history

end Provider

end Casebook.Stub

import Casebook.Proofs.Mount.Folder
import Casebook.Proofs.Mount.Look
import Casebook.Proofs.Stub.Answers

/-!
# Looks ask a provider for its answers only

A view that is the same but for how its provider came to its answers is the same to every look,
and what a look leaves behind of the provider are loads. Each look is put together from smaller
ones, and so is the proof that it is `Observant`.
-/

namespace Casebook.Mount

open Disk Stub.Provider

/-- Views that differ at most in how their providers came to their answers. -/
structure SameView (w : Workspace) (u v : View) : Prop where
  provider : SameAnswers w u.provider v.provider
  root : u.root = v.root
  realRoots : u.realRoots = v.realRoots
  memory : u.memory = v.memory

namespace Look

/-- The look answers the same for the same views, all it does to the provider is to load files, and
the mount root stays where it is. -/
structure Observant {α : Type} (w : Workspace) (x : Look α) : Prop where
  same : ∀ u v, SameView w u v → (x.run u).1 = (x.run v).1 ∧ SameView w (x.run u).2 (x.run v).2
  loads : ∀ v, ∃ names, (x.run v).2.provider = loadAll w v.provider names
  root : ∀ v, (x.run v).2.root = v.root

section
variable {α β : Type} {w : Workspace}

/-! ## Steps -/

theorem observant_of_still {x : Look α} {answer : Outcome α} (h : ∀ v, x.run v = (answer, v)) :
    Observant w x := by
  refine ⟨fun u v hsame => ?_, fun v => ⟨[], ?_⟩, fun v => ?_⟩
  · rw [h, h]
    exact ⟨rfl, hsame⟩
  · rw [h]
    rfl
  · rw [h]

theorem observant_pure (a : α) : Observant w (pure a : Look α) := observant_of_still fun _ => rfl

theorem observant_throw (fault : Fault) : Observant w (throw fault : Look α) :=
  observant_of_still fun _ => rfl

theorem observant_lift (e : Outcome α) : Observant w (liftM e : Look α) := by
  cases e with
  | ok a => exact observant_pure a
  | error fault => exact observant_throw fault

theorem observant_bind {x : Look α} {f : α → Look β} (hx : Observant w x)
    (hf : ∀ a, Observant w (f a)) : Observant w (x >>= f) := by
  constructor
  · intro u v h
    obtain ⟨hanswer, hview⟩ := hx.same u v h
    cases hu : x.run u with
    | mk answer u' =>
        cases hv : x.run v with
        | mk answer' v' =>
            rw [hu, hv] at hanswer hview
            obtain rfl : answer = answer' := hanswer
            cases answer with
            | ok a =>
                rw [run_bind hu, run_bind hv]
                exact (hf a).same u' v' hview
            | error fault =>
                rw [run_bind_error hu, run_bind_error hv]
                exact ⟨rfl, hview⟩
  · intro v
    obtain ⟨names, hnames⟩ := hx.loads v
    cases hv : x.run v with
    | mk answer v' =>
        rw [hv] at hnames
        cases answer with
        | ok a =>
            obtain ⟨more, hmore⟩ := (hf a).loads v'
            refine ⟨names ++ more, ?_⟩
            rw [run_bind hv, hmore, hnames, loadAll_append]
        | error fault =>
            rw [run_bind_error hv]
            exact ⟨names, hnames⟩
  · intro v
    have hroot := hx.root v
    cases hv : x.run v with
    | mk answer v' =>
        rw [hv] at hroot
        cases answer with
        | ok a =>
            rw [run_bind hv]
            exact ((hf a).root v').trans hroot
        | error fault =>
            rw [run_bind_error hv]
            exact hroot

/-- A look at the view itself must not see more than the answers. -/
theorem observant_get {f : View → Look α} (hf : ∀ v, Observant w (f v))
    (hsame : ∀ u v, SameView w u v → f u = f v) : Observant w (get >>= f) := by
  constructor
  · intro u v h
    rw [@run_bind _ _ u u get u rfl, @run_bind _ _ v v get v rfl, hsame u v h]
    exact (hf v).same u v h
  · intro v
    rw [@run_bind _ _ v v get v rfl]
    exact (hf v).loads v
  · intro v
    rw [@run_bind _ _ v v get v rfl]
    exact (hf v).root v

theorem observant_keep (keep : Memory → Memory) :
    Observant w (modify fun v => { v with memory := keep v.memory } : Look PUnit) := by
  refine ⟨fun u v h => ⟨rfl, h.provider, h.root, h.realRoots, ?_⟩, fun v => ⟨[], rfl⟩, fun v => rfl⟩
  show keep u.memory = keep v.memory
  rw [h.memory]

theorem observant_remembered {known : Memory → List (Text × α)}
    {keep : List (Text × α) → Memory → Memory} {key : Text} {look : Look α}
    (hlook : Observant w look) : Observant w (remembered known keep key look) := by
  refine observant_get (fun v => ?_) fun u v h => ?_
  · split
    · exact observant_pure _
    · refine observant_bind hlook fun a => observant_bind ?_ fun _ => observant_pure a
      exact observant_keep fun m => keep ((key, a) :: known m) m
  · rw [h.memory]

theorem observant_attempt (e : Except Disk.Fault α) : Observant w (attempt e) := by
  unfold attempt
  split
  · exact observant_throw _
  · exact observant_pure _

/-! ## The disk -/

theorem observant_entry (path : Text) : Observant w <| entry? w path :=
  observant_remembered (observant_bind (observant_attempt _) fun _ => observant_pure _)

theorem observant_diskNames (path : Text) : Observant w (diskNames w path) :=
  observant_bind (observant_remembered (observant_attempt _)) fun _ => observant_lift _

theorem observant_diskBytes (path : Text) : Observant w (diskBytes w path) :=
  observant_bind (observant_remembered
    (observant_bind (observant_entry path) fun _ => observant_attempt _)) fun _ => observant_lift _

theorem observant_missing (path : Text) : Observant w (missing path : Look α) :=
  observant_throw _

/-! ## Stub files -/

theorem observant_onPath {path : Text} {hidden : Look α} {stub : Stub.Provider → Text → Look α}
    {real : Look α} (hhidden : Observant w hidden) (hstub : ∀ p name, Observant w (stub p name))
    (hsame : ∀ p q name, SameAnswers w p q → stub p name = stub q name)
    (hreal : Observant w real) : Observant w (onPath w path hidden stub real) := by
  refine observant_get (fun v => ?_) fun u v h => ?_
  · split
    · exact hstub _ _
    · split
      · exact hreal
      · exact hhidden
  · unfold View.name? View.isVisible
    rw [h.root, h.realRoots]
    split
    · exact hsame _ _ _ h.provider
    · rfl

theorem isFolder_congr {p q : Stub.Provider} (h : SameAnswers w p q) (name : Text) :
    p.isFolder name = q.isFolder name := by
  unfold Stub.Provider.isFolder
  rw [h.names]

theorem hasEntry_congr {p q : Stub.Provider} (h : SameAnswers w p q) (name : Text) :
    p.hasEntry name = q.hasEntry name := by
  unfold Stub.Provider.hasEntry
  rw [h.isLoadable, isFolder_congr h]

theorem children_congr {p q : Stub.Provider} (h : SameAnswers w p q) (name : Text) :
    p.children name = q.children name := by
  unfold Stub.Provider.children
  rw [h.names]

theorem observant_isFile (path : Text) : Observant w (isFile w path) :=
  observant_onPath (observant_pure _) (fun _ _ => observant_pure _)
    (fun p q name h => by rw [h.isLoadable])
    (observant_bind (observant_entry path) fun _ => observant_pure _)

theorem observant_isFolder (path : Text) : Observant w (isFolder w path) :=
  observant_onPath (observant_pure _) (fun _ _ => observant_pure _)
    (fun p q name h => by rw [isFolder_congr h])
    (observant_bind (observant_entry path) fun _ => observant_pure _)

theorem observant_exists? (path : Text) (realOnly : Bool) : Observant w (exists? w path realOnly) :=
  observant_onPath (observant_pure _) (fun _ _ => observant_pure _)
    (fun p q name h => by rw [hasEntry_congr h])
    (observant_bind (observant_entry path) fun _ => observant_pure _)

theorem observant_names (path : Text) : Observant w (names w path) := by
  refine observant_onPath (observant_missing path) (fun p name => ?_) (fun p q name h => ?_)
    (observant_diskNames path)
  · split
    · exact observant_pure _
    · exact observant_missing path
  · rw [isFolder_congr h, children_congr h]

/-- A load shows its answer, and changes no other. -/
theorem observant_load (name : Text) : Observant w (load w name) := by
  constructor
  · intro u v h
    -- afterwards each provider still answers as it did before
    have hload := h.provider.load name
    have hu := (alike_load w u.provider name).sameAnswers
    have hv := (alike_load w v.provider name).sameAnswers
    cases hpu : u.provider.load w name with
    | mk text p =>
        cases hpv : v.provider.load w name with
        | mk text' q =>
            rw [hpu, hpv] at hload
            rw [hpu] at hu
            rw [hpv] at hv
            obtain rfl : text = text' := hload
            rw [run_load hpu, run_load hpv]
            exact ⟨rfl, hu.trans (h.provider.trans hv.symm), h.root, h.realRoots, h.memory⟩
  · intro v
    refine ⟨[name], ?_⟩
    rw [@run_load v w name _ _ rfl]
    rfl
  · intro v
    rw [@run_load v w name _ _ rfl]

theorem observant_read (path : Text) : Observant w (read w path) := by
  refine observant_onPath (observant_missing path) (fun p name => ?_) (fun p q name h => ?_)
    (observant_diskBytes path)
  · split
    · exact observant_load name
    · exact observant_missing path
  · rw [h.isLoadable]

theorem observant_digest (path : Text) : Observant w (digest w path) :=
  observant_bind (observant_read path) fun _ => observant_pure _

/-! ## Spelling -/

/-- An answer to a question for names, with no names where the disk refused. -/
def orNone : Outcome (List Text) → Outcome (List Text)
  | .error (.disk (.refused _ _)) => .ok []
  | answer => answer

theorem run_namesOrNone (path : Text) (v : View) :
    (namesOrNone w path).run v = (orNone ((names w path).run v).1, ((names w path).run v).2) := by
  unfold namesOrNone
  rw [@run_bind _ _ v v get v rfl]
  generalize (names w path).run v = result
  obtain ⟨answer, v'⟩ := result
  cases answer with
  | ok names => rfl
  | error fault =>
      cases fault with
      | disk fault => cases fault <;> rfl
      | _ => rfl

theorem observant_namesOrNone (path : Text) : Observant w (namesOrNone w path) := by
  constructor
  · intro u v h
    obtain ⟨hanswer, hview⟩ := (observant_names path).same u v h
    rw [run_namesOrNone, run_namesOrNone, hanswer]
    exact ⟨rfl, hview⟩
  · intro v
    rw [run_namesOrNone]
    exact (observant_names path).loads v
  · intro v
    rw [run_namesOrNone]
    exact (observant_names path).root v

theorem observant_isSpelled (start : Text) (depth : Nat) (path : Text) :
    Observant w (isSpelled w start depth path) := by
  induction depth generalizing path with
  | zero => exact observant_pure true
  | succ depth ih =>
      refine observant_onPath (observant_pure _) (fun _ _ => observant_pure _)
        (fun p q name h => by rw [hasEntry_congr h]) (observant_remembered ?_)
      dsimp only
      split
      · exact observant_pure true
      · refine observant_bind (observant_namesOrNone _) fun names => ?_
        split
        · exact ih _
        · exact observant_pure false

theorem observant_existsCase (path start : Text) : Observant w (existsCase w path start) :=
  observant_isSpelled start _ path

theorem observant_isFileCase (path start : Text) : Observant w (isFileCase w path start) := by
  refine observant_onPath (observant_pure _) (fun _ _ => observant_pure _)
    (fun p q name h => by rw [h.isLoadable])
    (observant_bind (observant_isFile path) fun isFile => ?_)
  split
  · exact observant_pure false
  · refine observant_remembered ?_
    dsimp only
    split
    · exact observant_pure false
    · refine observant_bind (observant_namesOrNone _) fun names => ?_
      split
      · exact observant_existsCase _ start
      · exact observant_pure false

end

end Look

end Casebook.Mount

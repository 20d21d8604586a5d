import Casebook.Checker.Frontend
import Casebook.Proofs.Mount.Observing

/-!
# Compilations ask a provider for its answers only

A session meets the provider in looks alone. So whatever checker is behind a frontend, what it
compiles to hangs on the source and on the provider's answers, and it leaves the provider after
some loads. Main statement (`observes_compile`).
-/

namespace Casebook.Checker

open Mount Stub.Provider

/-- Compilations that hang on the source and on the provider's answers, and that do nothing to the
provider but load files. -/
structure Observes (w : Disk.Workspace) (compile : Stub.Provider → Text → Compilation) : Prop where
  result : ∀ p q source, SameAnswers w p q → (compile p source).result = (compile q source).result
  loads : ∀ p source, ∃ names, (compile p source).provider = loadAll w p names

variable {w : Disk.Workspace}

theorem observant_look (q : Query) : Look.Observant w (q.look w) := by
  cases q with
  | isFile path => exact Look.observant_isFile path
  | isFolder path => exact Look.observant_isFolder path
  | «exists» path => exact Look.observant_exists? path false
  | names path => exact Look.observant_names path
  | read path => exact Look.observant_read path
  | digest path => exact Look.observant_digest path
  | isFileCase path start => exact Look.observant_isFileCase path start

/-- The same session ends the same, with the same messages, on the same views. -/
theorem run_same (s : Session) {u v : View} (h : SameView w u v) :
    (s.run w u).ending = (s.run w v).ending ∧ (s.run w u).messages = (s.run w v).messages ∧
      SameView w (s.run w u).view (s.run w v).view := by
  induction s generalizing u v with
  | finished => exact ⟨rfl, rfl, h⟩
  | blocked => exact ⟨rfl, rfl, h⟩
  | failed fault => exact ⟨rfl, rfl, h⟩
  | report messages rest ih =>
      obtain ⟨hending, hmessages, hview⟩ := ih h
      exact ⟨hending, congrArg (messages ++ ·) hmessages, hview⟩
  | log event rest ih => exact ih h
  | ask q next ih =>
      obtain ⟨hanswer, hview⟩ := (observant_look q).same u v h
      have hrun : ∀ v : View, (Session.ask q next).run w v =
          (next ((q.look w).run v).1).run w ((q.look w).run v).2 := fun _ => rfl
      rw [hrun, hrun, hanswer]
      exact ih _ hview

theorem run_loads (s : Session) (v : View) :
    ∃ names, (s.run w v).view.provider = loadAll w v.provider names := by
  induction s generalizing v with
  | finished => exact ⟨[], rfl⟩
  | blocked => exact ⟨[], rfl⟩
  | failed fault => exact ⟨[], rfl⟩
  | report messages rest ih => exact ih v
  | log event rest ih => exact ih v
  | ask q next ih =>
      obtain ⟨names, hnames⟩ := (observant_look q).loads v
      obtain ⟨more, hmore⟩ := ih ((q.look w).run v).1 ((q.look w).run v).2
      refine ⟨names ++ more, ?_⟩
      rw [loadAll_append, ← hnames]
      exact hmore

theorem run_root (s : Session) (v : View) : (s.run w v).view.root = v.root := by
  induction s generalizing v with
  | finished => rfl
  | blocked => rfl
  | failed fault => rfl
  | report messages rest ih => exact ih v
  | log event rest ih => exact ih v
  | ask q next ih => exact (ih ((q.look w).run v).1 _).trans ((observant_look q).root v)

theorem resultOf_congr (f : Frontend) (here : Text) {t t' : Transcript}
    (hending : t.ending = t'.ending) (hmessages : t.messages = t'.messages)
    (hroot : t.view.root = t'.view.root) :
    f.resultOf here t = f.resultOf here t' := by
  unfold Frontend.resultOf
  rw [hending, hmessages, hroot]

/-- **Whatever the checker does, a frontend asks a provider for its answers only.** -/
theorem observes_compile (build : Build) (f : Frontend) (w : Disk.Workspace) :
    Observes w (f.compile build w) := by
  constructor
  · intro p q source h
    unfold Frontend.compile
    cases Options.ofConfig f.config with
    | error fault => rfl
    | ok options =>
        have hview : SameView w (View.make p f.root (Frontend.realRoots w.hereText options))
            (View.make q f.root (Frontend.realRoots w.hereText options)) := ⟨h, rfl, rfl, rfl⟩
        obtain ⟨hending, hmessages, hafter⟩ := run_same (build ⟨f.config.entryName, source, options,
          Disk.normalise f.root, Frontend.realRoots w.hereText options⟩) hview
        exact resultOf_congr f w.hereText hending hmessages hafter.root
  · intro p source
    unfold Frontend.compile
    cases Options.ofConfig f.config with
    | error fault => exact ⟨[], rfl⟩
    | ok options => exact run_loads _ _

end Casebook.Checker

import Casebook.Proofs.Case.Order
import Casebook.Proofs.Stub.Overlay

/-!
# What a fork answers

A fork and the provider that it was made from live on side by side. The fork answers with the files
that were put into it and otherwise as the provider does, and the provider answers as if there were
no fork. Main statement: `fork_answers_over`, for any calls on both, in any order; in particular a
case that brings no files comes to the same on a fork.

Names that neither of them knows are unresolved for both. But a report of an unresolved name suggests
similar ones, and those are names of the provider that was asked; so here the fork does not answer as
the provider does (`fork_suggests_its_own`).
-/

namespace Casebook.Stub.Provider

variable {w : Disk.Workspace} {p q : Provider} {added : List (Text × Text)}

/-- The suggestions of a report: those of the names that are similar to the one asked for. -/
def suggested (names : List Text) (name : Text) : List Text :=
  (Sequence.similarNames name names Sequence.suggestionLimit).map fun t =>
    Text.ofString s!"Did you mean {t.quoted}?"

/-- What a provider answers that lies over another one: the text put in last under a name, and
otherwise what the one below answers. A name that is unresolved below is unresolved, in the same
words but for the similar names, which are names of the one that was asked. -/
structure AnswersOver (w : Disk.Workspace) (added : List (Text × Text)) (p q : Provider) : Prop where
  text : ∀ name text, lastText added name = some text → (q.load w name).1 = .ok text
  same : ∀ name, lastText added name = none → p.isLoadable name = true →
    (q.load w name).1 = (p.load w name).1
  unresolved : ∀ name, lastText added name = none → p.isLoadable name = false →
    ∃ summary attempts advice,
      (p.load w name).1 =
        .error (.unresolved ⟨summary, attempts, suggested p.names name ++ advice⟩) ∧
      (q.load w name).1 =
        .error (.unresolved ⟨summary, attempts, suggested q.names name ++ advice⟩)
  pairwise_names : q.names.Pairwise Precedes
  mem_names : ∀ name, name ∈ q.names ↔ name ∈ p.names ∨ name ∈ added.map Prod.fst

theorem lastText_eq_none_iff {name : Text} :
    lastText added name = none ↔ name ∉ added.map Prod.fst := by
  unfold lastText
  rw [List.lookup_eq_none_iff]
  simp only [List.mem_reverse, List.mem_map, bne_iff_ne, not_exists, not_and]
  exact forall₂_congr fun file _ => ne_comm

/-- What is said of a name that is not loadable. -/
theorem load_of_not_isLoadable {files : List (Text × Text)} (h : Coherent p files) {name : Text}
    (hname : p.isLoadable name = false) :
    (p.load w name).1 = .error (.unresolved ⟨"No path to load " ++ name ++ " contents from",
      [⟨"file index", false, some "not indexed"⟩], suggested p.names name ++
        [Text.ofString "Check is_loadable_file() before calling load_file()"]⟩) := by
  rw [load_held, (held?_eq_none_iff h w name).mpr hname, Option.getD_none]
  have hindex : p.index.has name = false := hname
  unfold unplacedReport
  rw [hindex]
  rfl

theorem Overlays.answersOver (h : Overlays w added p q) {files files' : List (Text × Text)}
    (hp : Coherent p files) (hq : Coherent q files') (hdistinct : q.index.IsDistinct) :
    AnswersOver w added p q := by
  refine ⟨?_, ?_, ?_, pairwise_names hdistinct, ?_⟩
  · intro name text hlast
    rw [load_held, h.held, hlast]
    rfl
  · intro name hlast hloadable
    obtain ⟨outcome, houtcome⟩ := Option.ne_none_iff_exists'.mp fun hnone =>
      Bool.false_ne_true (((held?_eq_none_iff hp w name).mp hnone).symm.trans hloadable)
    rw [load_held, load_held, h.held, hlast, houtcome]
    rfl
  · intro name hlast hloadable
    refine ⟨_, _, _, load_of_not_isLoadable hp hloadable, load_of_not_isLoadable hq ?_⟩
    rw [Bool.eq_false_iff, ne_eq, h.isLoadable, hloadable]
    rintro (hno | hmem)
    · cases hno
    · exact lastText_eq_none_iff.mp hlast hmem
  · intro name
    rw [mem_names_iff, mem_names_iff]
    exact h.isLoadable name

/-- Over nothing that was put in, there are the same answers to every question. -/
theorem AnswersOver.sameAnswers (h : AnswersOver w [] p q) (hdistinct : p.index.IsDistinct) :
    SameAnswers w p q := by
  have hmem : ∀ name, name ∈ p.names ↔ name ∈ q.names := fun name => by
    rw [h.mem_names]
    exact (or_iff_left List.not_mem_nil).symm
  have hp := Provider.pairwise_names hdistinct
  have hperm : p.names.Perm q.names := (List.perm_ext_iff_of_nodup
    (hp.imp fun h => h.2) (h.pairwise_names.imp fun h => h.2)).mpr hmem
  have hnames : p.names = q.names := List.Perm.eq_of_pairwise
    (fun _ _ _ _ hst hts => Text.le_antisymm hst.1 hts.1) hp h.pairwise_names hperm
  refine ⟨fun name => ?_, fun name => ?_, hnames⟩
  · rw [Bool.eq_iff_iff, ← mem_names_iff, ← mem_names_iff]
    exact hmem name
  · cases hloadable : p.isLoadable name with
    | true => exact (h.same name rfl hloadable).symm
    | false =>
        obtain ⟨summary, attempts, advice, hp, hq⟩ := h.unresolved name rfl hloadable
        rw [hp, hq, hnames]

end Casebook.Stub.Provider

namespace Casebook.Case

open Checker Stub Stub.Provider Stub.Family

variable {compile : Compiler} {w : Disk.Workspace}

/-- A case without files comes to the same on providers that give the same answers. -/
theorem run_of_sameAnswers (hcompile : Observes w (compile w)) {p q : Stub.Provider}
    (h : SameAnswers w p q) {c : CaseSpec} (hfiles : c.files = [])
    (accepted : Option Snapshot.Store) :
    (run compile w c ⟨q, accepted⟩).1 = (run compile w c ⟨p, accepted⟩).1 ∧
      (run compile w c ⟨q, accepted⟩).2.accepted = (run compile w c ⟨p, accepted⟩).2.accepted := by
  have hresult := hcompile.result q p c.source h.symm
  simp only [run, hfiles, List.isEmpty_nil, if_true]
  rw [hresult]
  cases (compile w p c.source).result with
  | error fault => exact ⟨rfl, rfl⟩
  | ok result =>
      dsimp only
      cases judge c result.lines accepted <;> exact ⟨rfl, rfl⟩

/-- **A fork is an overlay.** Whatever is called on a fork, and on the provider that it was made from
as long as nothing is put in there: the fork answers with the files that were put into it and
otherwise as the provider does, the provider is what it would be without the fork, and a case
without files comes to the same on both of them while nothing has been put into the fork. -/
theorem fork_answers_over {p : Stub.Provider} {added : List (Text × Text)} (hp : p.Reachable added)
    {es : List Stub.Event} (hdisk : ∀ e ∈ es, e.disk = w)
    (hbelow : ∀ e ∈ es, e.place = 0 → e.call.added? = none) :
    ∃ below above, (Family.run [p] (⟨w, 0, .fork⟩ :: es))[0]? = some below ∧
      (Family.run [p] (⟨w, 0, .fork⟩ :: es))[1]? = some above ∧
      (Family.run [p] (es.filter (·.place == 0)))[0]? = some below ∧
      AnswersOver w (addedAt 1 es) below above ∧
      (addedAt 1 es = [] → ∀ compile : Compiler, Observes w (compile w) → ∀ c : CaseSpec,
        c.files = [] → ∀ accepted,
          (run compile w c ⟨above, accepted⟩).1 = (run compile w c ⟨below, accepted⟩).1 ∧
          (run compile w c ⟨above, accepted⟩).2.accepted =
            (run compile w c ⟨below, accepted⟩).2.accepted) := by
  have hforked : Family.step [p] ⟨w, 0, .fork⟩ = [p, p.fork] := rfl
  have hfirst : [p, p.fork][0]? = some p := rfl
  have hsecond : [p, p.fork][1]? = some p.fork := rfl
  have hfork : Coherent p.fork added :=
    ⟨hp.coherent.synthetic, hp.coherent.text, hp.coherent.indexed⟩
  have hdistinct : p.fork.index.IsDistinct := hp.isDistinct
  obtain ⟨_, hcoherent⟩ := coherent_keptAt hp.coherent 0 es
  obtain ⟨_, hcoherent'⟩ := coherent_keptAt hfork 1 es
  have hover : Overlays w (addedAt 1 es) (keptAt 0 p es) (keptAt 1 p.fork es) :=
    overlays_run (by decide) hdisk hbelow (overlays_fork w p)
  have hanswers := hover.answersOver hcoherent hcoherent' (isDistinct_keptAt hdistinct 1 es)
  refine ⟨keptAt 0 p es, keptAt 1 p.fork es, ?_, ?_, ?_, hanswers, ?_⟩
  · rw [Family.run_cons, hforked]
    exact getElem?_run hfirst es
  · rw [Family.run_cons, hforked]
    exact getElem?_run hsecond es
  · rw [getElem?_run_alone rfl]
    exact getElem?_run rfl es
  · intro hnone compile hcompile c hfiles accepted
    rw [hnone] at hanswers
    exact run_of_sameAnswers hcompile (hanswers.sameAnswers (isDistinct_keptAt hp.isDistinct 0 es))
      hfiles accepted

/-- A file is read through the fork, another one is put in over it there, and the provider reads
that one from the disk. -/
def apart : List Stub.Event :=
  [⟨twoFiles [97], 1, .load "a.pyi"⟩, ⟨twoFiles [97], 1, .add (.text "b.pyi") (.text "y")⟩,
    ⟨twoFiles [97], 0, .load "b.pyi"⟩, ⟨twoFiles [97], 1, .names⟩]

/-- The fork has the file that was put in and the provider the one on disk, of the other file they
have the same text, and a case comes to the same on a provider and on its fork. -/
theorem fork_answers_over_apart : ∃ below above,
    (Family.run [indexed] (⟨twoFiles [97], 0, .fork⟩ :: apart))[0]? = some below ∧
    (Family.run [indexed] (⟨twoFiles [97], 0, .fork⟩ :: apart))[1]? = some above ∧
    (above.load (twoFiles [97]) "b.pyi").1 = .ok "y" ∧
    (below.load (twoFiles [97]) "b.pyi").1 = .ok "b" ∧
    (above.load (twoFiles [97]) "a.pyi").1 = (below.load (twoFiles [97]) "a.pyi").1 ∧
    ∃ forked, (Family.run [oneFile] [⟨twoFiles [97], 0, .fork⟩])[1]? = some forked ∧
      (run reporting (twoFiles [97]) sharing ⟨forked, some emptyStore⟩).1 =
        (run reporting (twoFiles [97]) sharing ⟨oneFile, some emptyStore⟩).1 := by
  have hindexed : ofFiles (twoFiles [97]) ".pyi" [⟨.slash, ["s"]⟩] [("c.pyi", "x")] =
      .ok indexed := by cbv
  have hone : ofFiles (twoFiles [97]) "" [] [("a", "x")] = .ok oneFile := by cbv
  have hreach : indexed.Reachable _ := ⟨_, _, _, _, _, [], hindexed, rfl, rfl⟩
  have hreach' : oneFile.Reachable _ := ⟨_, _, _, _, _, [], hone, rfl, rfl⟩
  have hdisk : ∀ e ∈ apart, e.disk = twoFiles [97] := by
    simp [apart]
  have hbelow : ∀ e ∈ apart, e.place = 0 → e.call.added? = none := by
    simp [apart, Call.added?]
  obtain ⟨below, above, hfirst, hsecond, halone, hover, -⟩ :=
    fork_answers_over hreach hdisk hbelow
  have hquiet : ∀ e ∈ ([] : List Stub.Event), e.disk = twoFiles [97] := by simp
  have hquiet' : ∀ e ∈ ([] : List Stub.Event), e.place = 0 → e.call.added? = none := by simp
  obtain ⟨below', forked, hfirst', hsecond', -, -, hsame⟩ :=
    fork_answers_over hreach' hquiet hquiet'
  refine ⟨below, above, hfirst, hsecond, hover.text _ _ (by cbv), ?_, ?_, forked, hsecond', ?_⟩
  · cases halone
    cbv
  · refine hover.same _ (by cbv) ?_
    cases halone
    cbv
  · cases hfirst'
    exact (hsame rfl reporting (observes_compile _ _ _) sharing rfl (some emptyStore)).1

/-- A fork into which a file is put. -/
def suggesting : List Stub.Event := [⟨twoFiles [], 1, .add (.text "foo.pyi") (.text "")⟩]

/-- **A name that nobody knows is not reported in the same words**: the fork suggests the file that
was put into it. -/
theorem fork_suggests_its_own : ∃ (p below above : Stub.Provider) (name : Text), p.Reachable [] ∧
    (∀ e ∈ suggesting, e.disk = twoFiles []) ∧
    (∀ e ∈ suggesting, e.place = 0 → e.call.added? = none) ∧
    (Family.run [p] (⟨twoFiles [], 0, .fork⟩ :: suggesting))[0]? = some below ∧
    (Family.run [p] (⟨twoFiles [], 0, .fork⟩ :: suggesting))[1]? = some above ∧
    lastText (addedAt 1 suggesting) name = none ∧
    (above.load (twoFiles []) name).1 ≠ (below.load (twoFiles []) name).1 := by
  have hempty : ofFiles (twoFiles []) ".pyi" [] [] = .ok ⟨".pyi", .empty, .empty⟩ := by cbv
  have hreach : Provider.Reachable _ [] := ⟨_, _, _, _, _, [], hempty, rfl, rfl⟩
  have hbelow : ((Provider.mk ".pyi" .empty .empty).load (twoFiles []) "fooo.pyi").1 =
      .error (.unresolved ⟨"No path to load fooo.pyi contents from",
        [⟨"file index", false, some "not indexed"⟩],
        [Text.ofString "Check is_loadable_file() before calling load_file()"]⟩) := by cbv
  have habove : (((Provider.mk ".pyi" .empty .empty).put "foo.pyi" "").load (twoFiles [])
      "fooo.pyi").1 = .error (.unresolved ⟨"No path to load fooo.pyi contents from",
        [⟨"file index", false, some "not indexed"⟩], [Text.ofString "Did you mean 'foo.pyi'?",
          Text.ofString "Check is_loadable_file() before calling load_file()"]⟩) := by cbv
  refine ⟨_, _, _, "fooo.pyi", hreach, by simp [suggesting], by simp [suggesting], rfl, rfl,
    by cbv, ?_⟩
  intro heq
  have hreports := habove.symm.trans (heq.trans hbelow)
  simp at hreports

end Casebook.Case

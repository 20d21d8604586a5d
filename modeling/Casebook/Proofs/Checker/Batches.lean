import Casebook.Proofs.Checker.Observing
import Casebook.Proofs.Diagnostic.Kinds

/-!
# What a compilation reports

The checker reports its messages in batches while it works, and ends when it is done or when an
error keeps it from going on. The result of a compilation is read off all messages, one batch behind
the other; neither how they were cut into batches nor the ending shows in it.

Main statement (`compile_of_reports`): a compilation has a result exactly if no numeral in its
messages is too long (`compile_longMessage`), the result hangs on the messages only, and without
notes it is what it is with notes, less these.
-/

namespace Casebook.Checker

open Mount Disk

namespace Session

variable {w : Workspace}

/-- The batches that a session reports when it is run, in order. -/
def batches (w : Workspace) : Session → View → List (List Text)
  | .finished, _ => []
  | .blocked, _ => []
  | .failed _, _ => []
  | .report messages rest, v => messages :: rest.batches w v
  | .log _ rest, v => rest.batches w v
  | .ask q next, v => (next ((q.look w).run v).1).batches w ((q.look w).run v).2

/-- The messages are those of all batches. -/
theorem messages_run (s : Session) (v : View) :
    (s.run w v).messages = (s.batches w v).flatten := by
  induction s generalizing v with
  | finished => rfl
  | blocked => rfl
  | failed fault => rfl
  | report messages rest ih => exact congrArg (messages ++ ·) (ih v)
  | log event rest ih => exact ih v
  | ask q next ih => exact ih _ _

/-- The session comes to an end of its own: the checker is done, or blocked by an error. -/
def Ends (w : Workspace) (s : Session) (v : View) : Prop :=
  (s.run w v).ending = .finished ∨ (s.run w v).ending = .blocked

end Session

namespace Frontend

variable {build : Build} {f : Frontend} {w : Workspace} {p : Stub.Provider} {source : Text}
  {batches : List (List Text)}

/-! ## What is reported -/

/-- In a compilation the checker comes to an end of its own and reports these batches before. -/
def Reports (build : Build) (f : Frontend) (w : Workspace) (p : Stub.Provider) (source : Text)
    (batches : List (List Text)) : Prop :=
  ∃ options, Options.ofConfig f.config = .ok options ∧
    let v := View.make p f.root (realRoots w.hereText options)
    let s := build ⟨f.config.entryName, source, options, v.root, v.realRoots⟩
    s.Ends w v ∧ s.batches w v = batches

/-- The frontend with notes kept or left out. -/
def noting (f : Frontend) (includeNotes : Bool) : Frontend :=
  { f with config := { f.config with includeNotes } }

/-- The checker is told nothing about notes. -/
theorem Reports.noting (h : Reports build f w p source batches) (includeNotes : Bool) :
    Reports build (f.noting includeNotes) w p source batches := h

/-- **The result is read off all messages.** -/
theorem Reports.result_eq (h : Reports build f w p source batches) :
    (f.compile build w p source).result =
      match Diagnostic.ofLines w.hereText (normalise f.root) batches.flatten with
      | .ok ds => .ok ⟨kept f.config ds⟩
      | .error long => .error (.longNumeral long) := by
  obtain ⟨options, hoptions, hends, rfl⟩ := h
  unfold compile resultOf
  rw [hoptions]
  dsimp only
  rw [Session.messages_run, run_root]
  rcases hends with hending | hending <;> rw [hending] <;> rfl

theorem Reports.result_eq_ok_iff (h : Reports build f w p source batches) {r : CompileResult} :
    (f.compile build w p source).result = .ok r ↔
      ∃ ds, Diagnostic.ofLines w.hereText (normalise f.root) batches.flatten = .ok ds ∧
        r = ⟨kept f.config ds⟩ := by
  rw [h.result_eq]
  cases Diagnostic.ofLines w.hereText (normalise f.root) batches.flatten with
  | ok ds => simp [eq_comm]
  | error long => simp

/-! ## Notes -/

theorem kept_noting_true (f : Frontend) (ds : List Diagnostic) :
    kept (f.noting true).config ds = ds :=
  if_pos rfl

theorem kept_noting_false (f : Frontend) (ds : List Diagnostic) :
    kept (f.noting false).config ds = ds.filter (·.severity != .note) :=
  if_neg Bool.false_ne_true

/-- Of two results one is the other without notes. -/
structure LeavesOutNotes (full short : CompileResult) : Prop where
  diagnostics : short.diagnostics = full.diagnostics.filter (·.severity != .note)
  errors : short.errors = full.errors
  moduleResolution : short.moduleResolution = full.moduleResolution
  checking : short.checking = full.checking
  isClean : short.isClean = full.isClean

theorem leavesOutNotes (ds : List Diagnostic) :
    LeavesOutNotes ⟨ds⟩ ⟨ds.filter (·.severity != .note)⟩ := by
  have herrors : CompileResult.errors ⟨ds.filter (·.severity != .note)⟩ =
      CompileResult.errors ⟨ds⟩ := by
    show (ds.filter (·.severity != .note)).filter (·.severity == .error) =
      ds.filter (·.severity == .error)
    rw [List.filter_filter]
    refine List.filter_congr fun d _ => ?_
    cases d.severity <;> rfl
  refine ⟨rfl, herrors, ?_, ?_, ?_⟩
  · unfold CompileResult.moduleResolution
    rw [herrors]
  · unfold CompileResult.checking
    rw [herrors]
  · unfold CompileResult.isClean
    rw [herrors]

/-! ## All compilations -/

/-- **What a compilation comes to.** Let the checker come to an end of its own, done or blocked.
There is a result exactly if all messages are legible. Any other compilation of the frontend that
reports the same messages from the same folder, in whatever batches and with either ending, has the
same result. With notes there is one diagnostic for each message, what the messages are read as;
without notes it is the same result less the notes, so the errors of each kind are the same. -/
theorem compile_of_reports (h : Reports build f w p source batches) :
    ((∃ r, (f.compile build w p source).result = .ok r) ↔
      ∀ message ∈ batches.flatten, Diagnostic.IsLegible message) ∧
    (∀ build' w' p' source' batches', Reports build' f w' p' source' batches' →
      w'.hereText = w.hereText → batches'.flatten = batches.flatten →
        (f.compile build' w' p' source').result = (f.compile build w p source).result) ∧
    ∀ full, ((f.noting true).compile build w p source).result = .ok full →
      full.diagnostics.length = batches.flatten.length ∧
      Diagnostic.ofLines w.hereText (normalise f.root) batches.flatten = .ok full.diagnostics ∧
      ∃ short, ((f.noting false).compile build w p source).result = .ok short ∧
        LeavesOutNotes full short := by
  refine ⟨⟨?_, ?_⟩, ?_, ?_⟩
  · rintro ⟨r, hr⟩
    obtain ⟨ds, hds, -⟩ := h.result_eq_ok_iff.mp hr
    exact Diagnostic.isLegible_of_ofLinesAfter hds
  · intro hlegible
    exact ⟨_, h.result_eq_ok_iff.mpr ⟨_, Diagnostic.ofLinesAfter_of_isLegible hlegible none, rfl⟩⟩
  · intro build' w' p' source' batches' h' hhere hbatches
    rw [h.result_eq, h'.result_eq, hhere, hbatches]
  · intro full hfull
    obtain ⟨ds, hds, rfl⟩ := (h.noting true).result_eq_ok_iff.mp hfull
    rw [kept_noting_true]
    refine ⟨?_, hds, _, (h.noting false).result_eq_ok_iff.mpr ⟨ds, hds, rfl⟩, ?_⟩
    · have hlegible := Diagnostic.isLegible_of_ofLinesAfter hds
      cases hds.symm.trans (Diagnostic.ofLinesAfter_of_isLegible hlegible none)
      exact Diagnostic.length_readings _ none
    · rw [kept_noting_false]
      exact leavesOutNotes ds

/-- A disk that is empty. -/
def bareDisk : Workspace := ⟨.folder [], []⟩

/-- A provider without stub files. -/
def noStubs : Stub.Provider := ⟨".pyi", .empty, .empty⟩

/-- A frontend without further options. -/
def plainFrontend : Frontend := ⟨.usual, "/m"⟩

/-- An error about an import and a note about its line, at once and in front of an error that
blocks. -/
def reportedAtOnce : Session := .report ["a:1: error: e  [import]", "a:1: note: n"] .blocked

/-- The same messages one by one, and then the checker is done. -/
def reportedOneByOne : Session :=
  .report ["a:1: error: e  [import]"] (.report [] (.report ["a:1: note: n"] .finished))

/-- The two come to the same, and the error is about an import also where the note is left out. -/
theorem compile_of_reports_rebatched :
    (plainFrontend.compile (fun _ => reportedOneByOne) bareDisk noStubs "").result =
        (plainFrontend.compile (fun _ => reportedAtOnce) bareDisk noStubs "").result ∧
      ∃ short, ((plainFrontend.noting false).compile (fun _ => reportedAtOnce) bareDisk noStubs
        "").result = .ok short ∧ short.notes = [] ∧ short.moduleResolution.length = 1 := by
  have hatOnce : Reports (fun _ => reportedAtOnce) plainFrontend bareDisk noStubs ""
      [["a:1: error: e  [import]", "a:1: note: n"]] := ⟨_, rfl, .inr rfl, rfl⟩
  have honeByOne : Reports (fun _ => reportedOneByOne) plainFrontend bareDisk noStubs ""
      [["a:1: error: e  [import]"], [], ["a:1: note: n"]] := ⟨_, rfl, .inl rfl, rfl⟩
  obtain ⟨-, hsame, hnotes⟩ := compile_of_reports hatOnce
  have hread : ((plainFrontend.noting true).compile (fun _ => reportedAtOnce) bareDisk noStubs
      "").result = .ok ⟨[⟨some "a", some 1, none, .error, "e", some "import", .moduleResolution⟩,
        ⟨some "a", some 1, none, .note, "n", none, .moduleResolution⟩]⟩ := by cbv
  obtain ⟨-, -, short, hshort, hleft⟩ := hnotes _ hread
  refine ⟨hsame _ _ _ _ _ honeByOne rfl rfl, short, hshort, ?_, ?_⟩
  · unfold CompileResult.notes CompileResult.withSeverity
    rw [hleft.diagnostics]
    rfl
  · rw [hleft.moduleResolution]
    rfl

/-- **A compilation has no result** if the checker reports a line with a number that is too long,
although the checker is done. -/
theorem compile_longMessage :
    Reports (fun _ => .report [Diagnostic.longMessage] .finished) plainFrontend bareDisk noStubs ""
        [[Diagnostic.longMessage]] ∧
      (plainFrontend.compile (fun _ => .report [Diagnostic.longMessage] .finished) bareDisk noStubs
        "").result = .error (.longNumeral ⟨4301⟩) := by
  have hreports : Reports (fun _ => .report [Diagnostic.longMessage] .finished) plainFrontend
      bareDisk noStubs "" [[Diagnostic.longMessage]] := ⟨_, rfl, .inl rfl, rfl⟩
  refine ⟨hreports, ?_⟩
  have hread : Diagnostic.ofLines bareDisk.hereText (normalise plainFrontend.root)
      [[Diagnostic.longMessage]].flatten = .error ⟨4301⟩ := Diagnostic.ofLines_longMessage _ _
  rw [hreports.result_eq, hread]

end Frontend

end Casebook.Checker

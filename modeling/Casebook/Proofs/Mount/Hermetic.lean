import Casebook.Proofs.Mount.Observing
import Casebook.Proofs.Mount.Tree

/-!
# What the disk cannot tell

A view shows the disk at and below its real roots. About any other path it answers without a look
at the disk: from the provider alone at and below the mount root, and as if nothing were there
elsewhere. Main statement (`answers_hermetic`): whoever asks about such paths only, each question
chosen after the answers before it, cannot tell two disks apart on which the provider answers the
same.

The view compares texts of paths in their normal form. Here the place of a path is said by its names
(`LiesIn`), so that neither a folder whose name begins like that of a root nor a spelling with dots
or slashes can stand in the wrong place.
-/

namespace Casebook.Mount

open Disk

/-! ## Where paths lie -/

/-- The path is the folder or below it, both taken below `here` unless they are absolute. The root
of the disk holds every path, also those that begin with two slashes. -/
def LiesIn (here folder path : Text) : Prop :=
  (Path.ofText (joinText here folder)).collapsed.names <+:
      (Path.ofText (joinText here path)).collapsed.names ∧
    ((Path.ofText (joinText here folder)).collapsed.names = [] ∨
      (Path.ofText (joinText here path)).root = (Path.ofText (joinText here folder)).root)

instance (here folder path : Text) : Decidable (LiesIn here folder path) :=
  inferInstanceAs (Decidable (_ ∧ _))

section
variable {here folder path : Text}

theorem begins_slash_iff {text : Text} :
    Text.begins "/" text = true ↔ (Path.ofText text).isAbsolute = true := by
  obtain ⟨ps⟩ := text
  show List.isPrefixOf [Point.char '/'] ps = true ↔ (rootOf ⟨ps⟩ != .relative) = true
  cases ps with
  | nil => decide
  | cons p ps =>
      by_cases hp : p = Point.char '/'
      · subst hp
        have hroot : rootOf ⟨Point.char '/' :: ps⟩ ≠ .relative := by
          unfold rootOf
          split <;> simp_all
        simp [hroot]
      · have hroot : rootOf ⟨p :: ps⟩ = .relative := by
          simp [rootOf, hp]
        rw [hroot]
        simp [Ne.symm hp]

theorem joinText_of_isAbsolute (h : (Path.ofText path).isAbsolute = true) (here : Text) :
    joinText here path = path :=
  if_pos (begins_slash_iff.mpr h)

/-- Below an absolute path all paths are absolute. -/
theorem isAbsolute_joinText (h : (Path.ofText here).isAbsolute = true) (path : Text) :
    (Path.ofText (joinText here path)).isAbsolute = true := by
  obtain ⟨rest, rfl⟩ := Text.begins_iff.mp (begins_slash_iff.mpr h)
  rw [← begins_slash_iff]
  unfold joinText
  split
  · assumption
  · rw [Text.begins_iff]
    split
    · exact ⟨rest ++ path, Text.append_assoc _ _ _⟩
    · exact ⟨rest ++ (("/" : Text) ++ path), by simp only [Text.append_assoc]⟩

theorem isAtOrBelow_normalise (folder path : Text) :
    isAtOrBelow (normalise folder) (normalise path) = (stubName? folder path).isSome := by
  unfold isAtOrBelow stubName?
  dsimp only
  split
  · next heq =>
    rw [heq, beq_self_eq_true]
    rfl
  · next hne =>
    rw [beq_eq_false_iff_ne.mpr hne, Bool.false_or]
    unfold Text.after?
    split <;> simp_all

/-- A folder that is not the root of the disk holds what begins with its text and a slash. -/
theorem isAtOrBelow_iff_liesIn (hhere : (Path.ofText here).isAbsolute = true)
    (hfolder : (Path.ofText (joinText here folder)).collapsed.names ≠ []) :
    isAtOrBelow (absolute here folder) (absolute here path) = true ↔ LiesIn here folder path := by
  have hroot : IsMountRoot (joinText here folder) := ⟨isAbsolute_joinText hhere folder, hfolder⟩
  unfold absolute LiesIn
  rw [isAtOrBelow_normalise, Option.isSome_iff_exists]
  simp only [stubName?_eq_some_iff hroot, hfolder, false_or]
  constructor
  · rintro ⟨_, hsame, names, hnames, -⟩
    exact ⟨⟨names, hnames.symm⟩, hsame⟩
  · rintro ⟨⟨names, hnames⟩, hsame⟩
    exact ⟨_, hsame, names, hnames.symm, rfl⟩

theorem liesIn_of_isAtOrBelow (hhere : (Path.ofText here).isAbsolute = true)
    (h : isAtOrBelow (absolute here folder) (absolute here path) = true) :
    LiesIn here folder path := by
  by_cases hfolder : (Path.ofText (joinText here folder)).collapsed.names = []
  · exact ⟨hfolder ▸ List.nil_prefix, Or.inl hfolder⟩
  · exact (isAtOrBelow_iff_liesIn hhere hfolder).mp h

theorem isAbsolute_hereText (w : Workspace) : (Path.ofText w.hereText).isAbsolute = true :=
  begins_slash_iff.mp (Text.begins_iff.mpr ⟨Text.joined "/" w.here, rfl⟩)

theorem stubName?_normalise {root : Text} (hroot : IsMountRoot root) (path : Text) :
    stubName? (normalise root) path = stubName? root path := by
  unfold stubName?
  rw [normalise_normalise hroot.isAbsolute]

/-- A path below the mount root is absolute, and lies in the mount root. -/
theorem liesIn_of_stubName? {root name : Text} (hroot : IsMountRoot root)
    (h : stubName? root path = some name) (here : Text) : LiesIn here root path := by
  obtain ⟨hsame, names, hnames, -⟩ := (stubName?_eq_some_iff hroot).mp h
  have habs : (Path.ofText path).isAbsolute = true := by
    have hrootAbs := hroot.isAbsolute
    unfold Path.isAbsolute at hrootAbs ⊢
    rwa [hsame]
  unfold LiesIn
  rw [joinText_of_isAbsolute hroot.isAbsolute, joinText_of_isAbsolute habs]
  exact ⟨⟨names, hnames.symm⟩, Or.inr hsame⟩

theorem exists_stubName?_of_liesIn {root : Text} (hroot : IsMountRoot root)
    (hpath : (Path.ofText path).isAbsolute = true) (h : LiesIn here root path) :
    ∃ name, stubName? root path = some name := by
  unfold LiesIn at h
  rw [joinText_of_isAbsolute hroot.isAbsolute, joinText_of_isAbsolute hpath] at h
  obtain ⟨⟨names, hnames⟩, htop | hsame⟩ := h
  · exact absurd htop hroot.ne_top
  · exact ⟨_, (stubName?_eq_some_iff hroot).mpr ⟨hsame, names, hnames.symm, rfl⟩⟩

end

/-! ## Questions -/

/-- A question about a path. -/
inductive Question
  | isFile (path : Text)
  | isFolder (path : Text)
  | exists (path : Text) (realOnly : Bool)
  | isFileCase (path start : Text)
  | existsCase (path start : Text)
  | names (path : Text)
  | read (path : Text)
  | digest (path : Text)

namespace Question

/-- What an answer to a question is. -/
abbrev Answer : Question → Type
  | isFile _ | isFolder _ | .exists _ _ | isFileCase _ _ | existsCase _ _ => Bool
  | names _ => List Text
  | read _ => List UInt8
  | digest _ => String

/-- The path that a question is about. -/
def path : Question → Text
  | isFile path | isFolder path | .exists path _ | isFileCase path _ | existsCase path _
  | names path | read path | digest path => path

/-- The answer that a view gives. -/
def look (w : Workspace) : (q : Question) → Look q.Answer
  | isFile path => Look.isFile w path
  | isFolder path => Look.isFolder w path
  | .exists path realOnly => Look.exists? w path realOnly
  | isFileCase path start => Look.isFileCase w path start
  | existsCase path start => Look.existsCase w path start
  | names path => Look.names w path
  | read path => Look.read w path
  | digest path => Look.digest w path

/-- The answer where nothing is: no, and that the path is missing if there was more to tell. -/
def denial : (q : Question) → Outcome q.Answer
  | isFile _ | isFolder _ | .exists _ _ | isFileCase _ _ | existsCase _ _ => .ok false
  | names path | read path | digest path => .error (.disk (.refused .missing path))

end Question

/-! ## Paths that lead nowhere -/

namespace Look

theorem run_onPath_hidden {α : Type} {w : Workspace} {v : View} {path : Text}
    (hname : v.name? path = none) (hhidden : v.isVisible w.hereText path = false) (hidden : Look α)
    (stub : Stub.Provider → Text → Look α) (real : Look α) :
    (onPath w path hidden stub real).run v = hidden.run v := by
  unfold onPath
  rw [@run_bind _ _ v v get v rfl, hname]
  dsimp only
  rw [hhidden]
  rfl

/-- The digest is that of the bytes, if they can be had. -/
theorem run_digest (w : Workspace) (v : View) (path : Text) :
    (digest w path).run v = (((read w path).run v).1.map Digest.sha1, ((read w path).run v).2) := by
  unfold digest
  cases hread : (read w path).run v with
  | mk answer v' =>
      cases answer with
      | error fault => exact run_bind_error hread _
      | ok bytes => exact run_bind hread _

end Look

variable {w w' : Workspace} {v v' : View}

theorem run_read_hidden {path : Text} (hname : v.name? path = none)
    (hhidden : v.isVisible w.hereText path = false) :
    (Look.read w path).run v = (.error (.disk (.refused .missing path)), v) :=
  Look.run_onPath_hidden hname hhidden _ _ _

/-- **About a path that is neither below the mount root nor visible nothing is told.** -/
theorem run_look_hidden {q : Question} (hname : v.name? q.path = none)
    (hhidden : v.isVisible w.hereText q.path = false) : (q.look w).run v = (q.denial, v) := by
  cases q with
  | isFile path =>
      show (Look.isFile w path).run v = (.ok false, v)
      exact Look.run_onPath_hidden hname hhidden _ _ _
  | isFolder path =>
      show (Look.isFolder w path).run v = (.ok false, v)
      exact Look.run_onPath_hidden hname hhidden _ _ _
  | «exists» path realOnly =>
      show (Look.exists? w path realOnly).run v = (.ok false, v)
      exact Look.run_onPath_hidden hname hhidden _ _ _
  | isFileCase path start =>
      show (Look.isFileCase w path start).run v = (.ok false, v)
      exact Look.run_onPath_hidden hname hhidden _ _ _
  | existsCase path start =>
      show (Look.existsCase w path start).run v = (.ok false, v)
      rw [Look.existsCase, Look.isSpelled]
      exact Look.run_onPath_hidden hname hhidden _ _ _
  | names path =>
      show (Look.names w path).run v = (.error (.disk (.refused .missing path)), v)
      exact Look.run_onPath_hidden hname hhidden _ _ _
  | read path => exact run_read_hidden hname hhidden
  | digest path =>
      have hread : (Look.read w path).run v = (.error (.disk (.refused .missing path)), v) :=
        run_read_hidden hname hhidden
      show (Look.digest w path).run v = _
      rw [Look.run_digest, hread]
      rfl

/-! ## Two disks -/

/-- Providers that give the same answers on two disks. -/
structure SameOnDisks (w w' : Workspace) (p p' : Stub.Provider) : Prop where
  isLoadable : ∀ name, p.isLoadable name = p'.isLoadable name
  names : p.names = p'.names
  load : ∀ name, (p.load w name).1 = (p'.load w' name).1

/-- A load on each disk keeps the answers the same. -/
theorem SameOnDisks.after_load {p p' : Stub.Provider} (h : SameOnDisks w w' p p') (name : Text) :
    SameOnDisks w w' (p.load w name).2 (p'.load w' name).2 := by
  have hp := (Stub.Provider.alike_load w p name).sameAnswers
  have hp' := (Stub.Provider.alike_load w' p' name).sameAnswers
  refine ⟨fun n => ?_, ?_, fun n => ?_⟩
  · rw [hp.isLoadable, hp'.isLoadable, h.isLoadable]
  · rw [hp.names, hp'.names, h.names]
  · rw [hp.load, hp'.load, h.load]

/-- Looks on two disks that answer the same, and change nothing but what the providers have read. -/
structure Agrees {α : Type} (w w' : Workspace) (v v' : View) (x x' : Look α) : Prop where
  answer : (x.run v).1 = (x'.run v').1
  after : ∃ p p', (x.run v).2 = { v with provider := p } ∧
    (x'.run v').2 = { v' with provider := p' } ∧ SameOnDisks w w' p p'

theorem agrees_of_still {α : Type} {x x' : Look α} {answer : Outcome α}
    (h : SameOnDisks w w' v.provider v'.provider) (hx : x.run v = (answer, v))
    (hx' : x'.run v' = (answer, v')) : Agrees w w' v v' x x' := by
  refine ⟨?_, v.provider, v'.provider, ?_, ?_, h⟩
  · rw [hx, hx']
  · rw [hx]
  · rw [hx']

theorem agrees_load (h : SameOnDisks w w' v.provider v'.provider) (name : Text) :
    Agrees w w' v v' (Look.load w name) (Look.load w' name) := by
  have hload := h.load name
  have hafter := h.after_load name
  cases hp : v.provider.load w name with
  | mk text p =>
      cases hp' : v'.provider.load w' name with
      | mk text' p' =>
          rw [hp, hp'] at hload hafter
          obtain rfl : text = text' := hload
          refine ⟨?_, p, p', ?_, ?_, hafter⟩
          · rw [Look.run_load hp, Look.run_load hp']
          · rw [Look.run_load hp]
          · rw [Look.run_load hp']

section
variable {path name : Text}

theorem agrees_read (h : SameOnDisks w w' v.provider v'.provider) (hname : v.name? path = some name)
    (hname' : v'.name? path = some name) :
    Agrees w w' v v' (Look.read w path) (Look.read w' path) := by
  have hread := @Look.run_read w v _ _ hname
  have hread' := @Look.run_read w' v' _ _ hname'
  rw [← h.isLoadable] at hread'
  cases hloadable : v.provider.isLoadable name with
  | true =>
      rw [hloadable, if_pos rfl] at hread hread'
      obtain ⟨hanswer, p, p', hp, hp', hafter⟩ := agrees_load h name
      exact ⟨by rw [hread, hread', hanswer], p, p', by rw [hread, hp], by rw [hread', hp'], hafter⟩
  | false =>
      rw [hloadable] at hread hread'
      exact agrees_of_still h hread hread'

/-- **Below the mount root a view answers from the provider alone.** -/
theorem agrees_look {q : Question} (h : SameOnDisks w w' v.provider v'.provider)
    (hname : v.name? q.path = some name) (hname' : v'.name? q.path = some name) :
    Agrees w w' v v' (q.look w) (q.look w') := by
  have hfolder : v.provider.isFolder name = v'.provider.isFolder name := by
    unfold Stub.Provider.isFolder
    rw [h.names]
  have hentry : v.provider.hasEntry name = v'.provider.hasEntry name := by
    unfold Stub.Provider.hasEntry
    rw [h.isLoadable, hfolder]
  have hchildren : v.provider.children name = v'.provider.children name := by
    unfold Stub.Provider.children
    rw [h.names]
  cases q with
  | isFile path =>
      refine agrees_of_still h (Look.run_isFile hname) ?_
      rw [h.isLoadable]
      exact Look.run_isFile hname'
  | isFolder path =>
      refine agrees_of_still h (Look.run_isFolder hname) ?_
      rw [hfolder]
      exact Look.run_isFolder hname'
  | «exists» path realOnly =>
      refine agrees_of_still h (Look.run_exists? hname realOnly) ?_
      rw [hentry]
      exact Look.run_exists? hname' realOnly
  | isFileCase path start =>
      refine agrees_of_still h (Look.run_isFileCase hname start) ?_
      rw [h.isLoadable]
      exact Look.run_isFileCase hname' start
  | existsCase path start =>
      refine agrees_of_still h (Look.run_existsCase hname start) ?_
      rw [hentry]
      exact Look.run_existsCase hname' start
  | names path =>
      refine agrees_of_still h (Look.run_names hname) ?_
      rw [hfolder, hchildren]
      exact Look.run_names hname'
  | read path => exact agrees_read h hname hname'
  | digest path =>
      obtain ⟨hanswer, p, p', hp, hp', hafter⟩ := agrees_read h hname hname'
      have hdigest := Look.run_digest w v path
      have hdigest' := Look.run_digest w' v' path
      refine ⟨?_, p, p', ?_, ?_, hafter⟩
      · show ((Look.digest w path).run v).1 = ((Look.digest w' path).run v').1
        rw [hdigest, hdigest']
        exact congrArg (Except.map Digest.sha1) hanswer
      · exact (congrArg Prod.snd hdigest).trans hp
      · exact (congrArg Prod.snd hdigest').trans hp'

end

/-! ## One question after the other -/

/-- Questions one after the other, each chosen after the answers to those before it. -/
inductive Inquiry
  | done
  | ask (q : Question) (next : Outcome q.Answer → Inquiry)

/-- The questions that are asked, with their answers. -/
def Inquiry.run (w : Workspace) : Inquiry → View → List (Σ q : Question, Outcome q.Answer)
  | .done, _ => []
  | .ask q next, v =>
    let (answer, v) := (q.look w).run v
    ⟨q, answer⟩ :: (next answer).run w v

theorem Inquiry.run_ask (w : Workspace) (q : Question) (next : Outcome q.Answer → Inquiry)
    (v : View) : (Inquiry.ask q next).run w v =
      ⟨q, ((q.look w).run v).1⟩ :: (next ((q.look w).run v).1).run w ((q.look w).run v).2 := rfl

/-- An absolute path that lies in none of the folders. -/
def IsOutside (here : Text) (folders : List Text) (path : Text) : Prop :=
  (Path.ofText path).isAbsolute = true ∧ ∀ folder ∈ folders, ¬ LiesIn here folder path

section
variable {root : Text} {folders : List Text}

/-- A path outside the real roots is not visible. -/
theorem isVisible_eq_false {here path : Text} (hhere : (Path.ofText here).isAbsolute = true)
    (hreal : v.realRoots = folders.map (absolute here))
    (hout : ∀ folder ∈ folders, ¬ LiesIn here folder path) : v.isVisible here path = false := by
  unfold View.isVisible
  rw [hreal, List.any_map, List.any_eq_false]
  intro folder hfolder hvisible
  exact hout folder hfolder (liesIn_of_isAtOrBelow hhere hvisible)

/-- Whether an absolute path is visible does not hang on the folder at hand. -/
theorem isVisible_congr {here here' path : Text} (hpath : (Path.ofText path).isAbsolute = true)
    (hreal : v.realRoots = v'.realRoots) : v.isVisible here path = v'.isVisible here' path := by
  unfold View.isVisible absolute
  rw [joinText_of_isAbsolute hpath, joinText_of_isAbsolute hpath, hreal]

theorem name?_congr (hroot : v'.root = v.root) (path : Text) : v'.name? path = v.name? path := by
  unfold View.name?
  rw [hroot]

theorem Inquiry.run_agrees (hreal : v.realRoots = folders.map (absolute w.hereText))
    (hreal' : v'.realRoots = v.realRoots) (hroot' : v'.root = v.root)
    (h : SameOnDisks w w' v.provider v'.provider) (s : Inquiry)
    (hout : ∀ asked ∈ s.run w v, IsOutside w.hereText folders asked.1.path) :
    s.run w v = s.run w' v' := by
  induction s generalizing v v' with
  | done => rfl
  | ask q next ih =>
      rw [Inquiry.run_ask] at hout
      obtain ⟨⟨hpath, hfolders⟩, hrest⟩ := List.forall_mem_cons.mp hout
      rw [Inquiry.run_ask, Inquiry.run_ask]
      cases hname : v.name? q.path with
      | some name =>
          -- a stub file: both providers are asked, and go on giving the same answers
          have hname' := (name?_congr hroot' q.path).trans hname
          obtain ⟨hanswer, p, p', hp, hp', hafter⟩ := agrees_look h hname hname'
          rw [← hanswer]
          rw [hp] at hrest ⊢
          rw [hp']
          exact congrArg _ (@ih _ { v with provider := p } { v' with provider := p' } hreal hreal'
            hroot' hafter hrest)
      | none =>
          -- nothing of the disk is visible under an absolute path outside the real roots
          have hname' := (name?_congr hroot' q.path).trans hname
          have hhidden := isVisible_eq_false (isAbsolute_hereText w) hreal hfolders
          have hhidden' : v'.isVisible w'.hereText q.path = false :=
            (isVisible_congr hpath hreal').trans hhidden
          rw [run_look_hidden hname hhidden] at hrest ⊢
          rw [run_look_hidden hname' hhidden']
          exact congrArg _ (ih _ hreal hreal' hroot' h hrest)

/-- **What the disk holds elsewhere makes no difference.** About a path that lies neither in the
mount root nor in a real root nothing is told. About a path in the mount root the answer is the
same wherever the provider answers the same. And questions about absolute paths outside the real
roots, each chosen after the answers before it, are answered the same on two disks on which the
provider answers the same. -/
theorem answers_hermetic (hroot : IsMountRoot root) (hv : v.root = normalise root)
    (hreal : v.realRoots = folders.map (absolute w.hereText)) :
    (∀ q : Question, ¬ LiesIn w.hereText root q.path →
      (∀ folder ∈ folders, ¬ LiesIn w.hereText folder q.path) →
      (q.look w).run v = (q.denial, v)) ∧
    ∀ (w' : Workspace) (v' : View), v'.root = v.root →
      SameOnDisks w w' v.provider v'.provider →
      (∀ q : Question, (Path.ofText q.path).isAbsolute = true → LiesIn w.hereText root q.path →
        ((q.look w).run v).1 = ((q.look w').run v').1) ∧
      (v'.realRoots = v.realRoots →
        ∀ s : Inquiry, (∀ asked ∈ s.run w v, IsOutside w.hereText folders asked.1.path) →
          s.run w v = s.run w' v') := by
  have hname : ∀ path, v.name? path = stubName? root path := by
    intro path
    unfold View.name?
    rw [hv, stubName?_normalise hroot]
  refine ⟨fun q hmounted hfolders => ?_, fun w' v' hroot' h => ⟨fun q hpath hmounted => ?_,
    fun hreal' s => Inquiry.run_agrees hreal hreal' hroot' h s⟩⟩
  · refine run_look_hidden ?_ (isVisible_eq_false (isAbsolute_hereText w) hreal hfolders)
    rw [hname, Option.eq_none_iff_forall_ne_some]
    intro name hstub
    exact hmounted (liesIn_of_stubName? hroot hstub w.hereText)
  · obtain ⟨name, hstub⟩ := exists_stubName?_of_liesIn hroot hpath hmounted
    have hq : v.name? q.path = some name := (hname q.path).trans hstub
    exact (agrees_look h hq ((name?_congr hroot' q.path).trans hq)).answer

end

/-- A disk with a stub file in a folder, and what else there is beside the folder. -/
def diskBeside (entries : List (Text × Entry)) : Workspace :=
  ⟨.folder (("s", .folder [("a.pyi", .file [97])]) :: entries), []⟩

/-- The view of a provider of that file, with one folder of the disk. -/
def besideLib : View :=
  View.make ⟨".pyi", ⟨[("a.pyi", .folder ⟨.slash, ["s"]⟩)]⟩, .empty⟩ "/m" ["/lib"]

theorem sameOnDisks_besideLib (entries : List (Text × Entry)) :
    SameOnDisks (diskBeside entries) (diskBeside []) besideLib.provider besideLib.provider := by
  refine ⟨fun _ => rfl, rfl, fun name => ?_⟩
  rw [Stub.Provider.load_answer, Stub.Provider.load_answer]
  by_cases hname : name = "a.pyi"
  · rw [hname]
    rfl
  · have horigin : besideLib.provider.index.origin? name = none := by
      show List.lookup name [(("a.pyi" : Text), Stub.Origin.folder ⟨.slash, ["s"]⟩)] = none
      rw [List.lookup_cons, beq_eq_false_iff_ne.mpr hname]
      rfl
    unfold Stub.Provider.found
    rw [horigin]

/-- Asks for a file that only one of two disks has, in a folder whose name begins like that of the
real root, and then reads a stub file, if that file is not there. -/
def nosy : Inquiry :=
  .ask (.isFile "/lib2/x") fun answer =>
    if answer.toOption = some false then .ask (.read "/lib/../m/a.pyi") fun _ => .done else .done

/-- A file beside the real root is not told about, and its being there is not noticed. -/
theorem answers_hermetic_beside :
    (Look.isFile (diskBeside [("lib2", .folder [("x", .file [])])]) "../lib2/x").run besideLib =
      (.ok false, besideLib) ∧
    nosy.run (diskBeside [("lib2", .folder [("x", .file [])])]) besideLib =
      nosy.run (diskBeside []) besideLib := by
  have hroot : IsMountRoot "/m" := ⟨by decide, by decide⟩
  have hreal : besideLib.realRoots = List.map (absolute "/") ["/lib"] := by decide
  obtain ⟨hhidden, hagrees⟩ := answers_hermetic
    (w := diskBeside [("lib2", .folder [("x", .file [])])]) hroot rfl hreal
  obtain ⟨-, hinquiry⟩ := hagrees (diskBeside []) besideLib rfl (sameOnDisks_besideLib _)
  refine ⟨hhidden (.isFile "../lib2/x") (by decide) (by decide), hinquiry rfl nosy ?_⟩
  have hfirst := hhidden (.isFile "/lib2/x") (by decide) (by decide)
  intro asked hasked
  rw [nosy, Inquiry.run_ask, hfirst] at hasked
  rcases List.mem_cons.mp hasked with rfl | hasked
  · exact ⟨by decide, by decide⟩
  · obtain rfl := List.mem_singleton.mp hasked
    exact ⟨by decide, by decide⟩

end Casebook.Mount

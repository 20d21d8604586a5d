import Casebook.Proofs.Disk.Below

/-!
# Following a path below a folder

A path that leads to a folder, with the names of entries behind it, leads on below the folder; the
links that were followed on the way to it count still. Main statement (`stat_descend`): what is
below a folder and is no link is found at its path, unless the path is too long.
-/

namespace Casebook.Disk

open Entry

/-! ## Paths that a disk can have -/

/-- The point stands for bytes, and for other bytes than zero. -/
def IsStorable (p : Point) : Prop :=
  p ≠ Point.char '\x00' ∧ ∀ h, p = .half h → h.isRawByte = true

theorem firstRun?_eq_none_iff {harmless : Half → Bool} {position : Nat} {ps : List Point} :
    Text.firstRun? harmless position ps = none ↔ ∀ h, Point.half h ∈ ps → harmless h = true := by
  induction ps generalizing position with
  | nil => simp [Text.firstRun?]
  | cons p ps ih =>
      rw [Text.firstRun?]
      -- the run holds halves of the points only, and the point in front if that is one
      generalize hrun : ((p :: ps).takeWhile Point.isHalf).filterMap Text.half? = run
      have hmem : ∀ h ∈ run, Point.half h ∈ p :: ps := by
        intro h hh
        obtain ⟨q, hq, hhalf⟩ := List.mem_filterMap.mp (hrun ▸ hh)
        cases q with
        | char c => cases hhalf
        | half k =>
            obtain rfl := Option.some.inj hhalf
            exact (List.takeWhile_subset _) hq
      have hhead : ∀ h, p = .half h → h ∈ run := by
        rintro h rfl
        rw [← hrun, List.takeWhile_cons_of_pos rfl]
        exact List.mem_filterMap.mpr ⟨_, List.mem_cons_self, rfl⟩
      split
      · next hnil =>
        rw [ih]
        have hharmless := List.dropWhile_eq_nil_iff.mp hnil
        constructor
        · intro hall h hh
          rcases List.mem_cons.mp hh with heq | hh
          · exact hharmless h (hhead h heq.symm)
          · exact hall h hh
        · exact fun hall h hh => hall h (List.mem_cons_of_mem p hh)
      · next first more hcons =>
        refine iff_of_false (by simp) fun hall => ?_
        have hfirst : first ∈ run := (List.dropWhile_suffix _).subset (hcons ▸ List.mem_cons_self)
        have hnot : ∀ h ∈ run, harmless h = true := fun h hh => hall h (hmem h hh)
        rw [List.dropWhile_eq_nil_iff.mpr hnot] at hcons
        cases hcons

theorem ofText?_eq_none_iff {t : Text} :
    PathFlaw.ofText? t = none ↔ ∀ p ∈ t.points, IsStorable p := by
  have hruns : Text.firstRun? Half.isRawByte 0 t.points = none ↔
      ∀ h, Point.half h ∈ t.points → h.isRawByte = true := firstRun?_eq_none_iff
  unfold PathFlaw.ofText?
  have hsplit : (∀ p ∈ t.points, IsStorable p) ↔
      Point.char '\x00' ∉ t.points ∧ ∀ h, Point.half h ∈ t.points → h.isRawByte = true := by
    unfold IsStorable
    constructor
    · intro hall
      exact ⟨fun hmem => (hall _ hmem).1 rfl, fun h hh => (hall _ hh).2 h rfl⟩
    · rintro ⟨hnull, hhalves⟩ p hp
      exact ⟨fun heq => hnull (heq ▸ hp), fun h heq => hhalves h (heq ▸ hp)⟩
  rw [hsplit, ← hruns]
  split
  · next run hrun => simp [hrun]
  · next hrun => simp [hrun]

/-! ## Names of the text of a path -/

/-- Between the slashes of the text of a path stand its names, behind names that say nothing. -/
theorem split_text {p : Path} (h : ∀ name ∈ p.names, IsPlain name) :
    ∃ front, (∀ name ∈ front, isIdle name = true) ∧ Text.split '/' p.text = front ++ p.names := by
  obtain ⟨root, names⟩ := p
  cases names with
  | nil => cases root <;> exact ⟨_, by decide, (List.append_nil _).symm⟩
  | cons name names =>
      have hnames : Text.split '/' (Text.joined "/" (name :: names)) = name :: names :=
        Text.split_joined (List.cons_ne_nil name names) fun n hn => (h n hn).isFree
      cases root with
      | relative => exact ⟨[], by simp, hnames⟩
      | slash =>
          have htext : (Path.mk .slash (name :: names)).text =
              "" ++ ("/" : Text) ++ Text.joined "/" (name :: names) := rfl
          exact ⟨[""], by decide, by rw [htext, Text.split_append, hnames]; rfl⟩
      | twoSlashes =>
          have htext : (Path.mk .twoSlashes (name :: names)).text =
              "/" ++ ("/" : Text) ++ Text.joined "/" (name :: names) := by
            show Text.ofString "//" ++ _ = _
            rw [show Text.ofString "//" = "/" ++ ("/" : Text) by decide]
          exact ⟨["", ""], by decide, by rw [htext, Text.split_append, hnames]; rfl⟩

theorem isStorable_char {c : Char} (h : c ≠ '\x00') : IsStorable (.char c) :=
  ⟨fun heq => h (Point.char.inj heq), fun _ heq => nomatch heq⟩

/-- A disk can have a path if it can have all its names. -/
theorem ofText?_text_eq_none_iff {p : Path} (h : ∀ name ∈ p.names, IsPlain name) :
    PathFlaw.ofText? p.text = none ↔ ∀ name ∈ p.names, PathFlaw.ofText? name = none := by
  obtain ⟨front, hfront, hsplit⟩ := split_text h
  simp only [ofText?_eq_none_iff]
  constructor
  · intro hall name hname q hq
    exact hall q (Text.mem_of_mem_split (hsplit ▸ List.mem_append_right front hname) hq)
  · intro hall q hq
    rw [← Text.joined_split p.text, hsplit] at hq
    rcases Text.mem_joined hq with hslash | ⟨name, hname, hq⟩
    · obtain rfl := List.mem_singleton.mp hslash
      exact isStorable_char (by decide)
    · rcases List.mem_append.mp hname with hname | hname
      · rcases isIdle_iff.mp (hfront name hname) with rfl | rfl
        · cases hq
        · obtain rfl := List.mem_singleton.mp hq
          exact isStorable_char (by decide)
      · exact hall name hname q hq

/-! ## Going on from a folder -/

variable {root : Entry} {here loc : Location} {names : List Text}

theorem advance_front {front : List Text} (h : ∀ name ∈ front, isIdle name = true) :
    advance root true here (front ++ names) = advance root true here names := by
  induction front with
  | nil => rfl
  | cons name front ih =>
      obtain ⟨hname, hfront⟩ := List.forall_mem_cons.mp h
      rw [List.cons_append, advance_idle true hname, ih hfront]

theorem follow_front {front : List Text} (h : ∀ name ∈ front, isIdle name = true) (links : Nat) :
    follow root true links here (front ++ names) = follow root true links here names := by
  cases links with
  | zero => rw [follow, follow, advance_front h]
  | succ links => rw [follow, follow, advance_front h]

/-- Where names end in a folder the walk goes on from there with more names, and behind a link these
stay behind. -/
theorem advance_append (more : List Text) :
    (∀ spot cs, advance root true here names = .arrived spot → spot.entry = some (.folder cs) →
      root.at? spot.location = some (.folder cs) ∧
      advance root true here (names ++ more) = advance root true spot.location more) ∧
    ∀ folder target rest, advance root true here names = .link folder target rest →
      advance root true here (names ++ more) = .link folder target (rest ++ more) := by
  induction names generalizing here with
  | nil =>
      refine ⟨fun spot cs harrived hentry => ?_, fun folder target rest hlink => nomatch hlink⟩
      obtain rfl := Stage.arrived.inj harrived
      exact ⟨hentry, rfl⟩
  | cons name names ih =>
      rw [List.cons_append]
      cases hidle : isIdle name with
      | true =>
          rw [advance_idle true hidle, advance_idle true hidle]
          exact ih
      | false =>
          by_cases hup : name = ".."
          · rw [hup, advance_up, advance_up]
            exact ih
          by_cases hlength : nameLength name ≤ nameLimit
          · rw [advance_cons true hidle hup hlength, advance_cons true hidle hup hlength]
            cases hentry : root.at? (here ++ [name]) with
            | none =>
                -- neither what is missing nor a file is a folder to go on from
                dsimp only
                split
                · refine ⟨fun spot cs harrived hfolder => ?_, fun _ _ _ hlink => nomatch hlink⟩
                  obtain rfl := Stage.arrived.inj harrived
                  cases hfolder
                · exact ⟨fun _ _ harrived => (nomatch harrived), fun _ _ _ hlink => nomatch hlink⟩
            | some e =>
                cases e with
                | folder children => exact ih
                | file bytes =>
                    dsimp only
                    split
                    · refine ⟨fun spot cs harrived hfolder => ?_, fun _ _ _ hlink => nomatch hlink⟩
                      obtain rfl := Stage.arrived.inj harrived
                      cases hfolder
                    · exact ⟨fun _ _ harrived => (nomatch harrived),
                        fun _ _ _ hlink => nomatch hlink⟩
                | link target =>
                    simp only [Bool.not_true, Bool.and_false, Bool.false_eq_true, if_false]
                    refine ⟨fun spot cs harrived => (nomatch harrived), fun _ _ _ hlink => ?_⟩
                    cases hlink
                    rfl
          · rw [advance_long true hidle hup hlength, advance_long true hidle hup hlength]
            exact ⟨fun spot cs harrived => (nomatch harrived), fun _ _ _ hlink => nomatch hlink⟩

/-- A path that leads to a folder leads on from there, with the links that are left. -/
theorem follow_append {links : Nat} {spot : Spot} {cs : List (Text × Entry)}
    (h : follow root true links here names = .ok spot) (hfolder : spot.entry = some (.folder cs)) :
    root.at? spot.location = some (.folder cs) ∧ ∃ left, ∀ more,
      follow root true links here (names ++ more) = follow root true left spot.location more := by
  induction links generalizing here names with
  | zero =>
      rw [follow] at h
      split at h
      · next s harrived =>
        obtain rfl := Except.ok.inj h
        refine ⟨((advance_append []).1 _ _ harrived hfolder).1, 0, fun more => ?_⟩
        rw [follow, follow, ((advance_append more).1 _ _ harrived hfolder).2]
      · cases h
      · cases h
  | succ links ih =>
      rw [follow] at h
      split at h
      · next s harrived =>
        obtain rfl := Except.ok.inj h
        refine ⟨((advance_append []).1 _ _ harrived hfolder).1, links + 1, fun more => ?_⟩
        rw [follow, follow, ((advance_append more).1 _ _ harrived hfolder).2]
      · cases h
      · next folder target rest hlink =>
        -- the target takes the place of the link, in front of all that comes behind it
        obtain ⟨hat, left, hleft⟩ := ih h
        refine ⟨hat, left, fun more => ?_⟩
        rw [follow, (advance_append more).2 _ _ _ hlink, ← hleft more, List.append_assoc]

/-- Names of entries lead to what they name, if that is no link. -/
theorem advance_below {inner : Entry} {l : Location} (hnames : ∀ name ∈ l, IsFileName name)
    (hat : root.at? (here ++ l) = some inner) (hlink : inner.isLink = false) :
    advance root true here l = .arrived ⟨here ++ l, some inner, false⟩ := by
  induction l generalizing here with
  | nil =>
      rw [List.append_nil] at hat ⊢
      rw [advance, hat]
  | cons name l ih =>
      obtain ⟨hname, hl⟩ := List.forall_mem_cons.mp hnames
      have happend : here ++ name :: l = here ++ [name] ++ l := List.append_cons here name l
      rw [happend] at hat ⊢
      obtain ⟨e, he, hrest⟩ := Option.bind_eq_some_iff.mp ((at?_append root _ l).symm.trans hat)
      rw [advance_cons true hname.isIdle_eq_false hname.ne_dots hname.short, he]
      cases l with
      | nil =>
          obtain rfl := Option.some.inj hrest
          cases e with
          | folder cs => rw [List.append_nil, advance, he]
          | file bytes => rw [List.append_nil]; rfl
          | link target => cases hlink
      | cons next l =>
          obtain ⟨_, hchild, -⟩ := Option.bind_eq_some_iff.mp hrest
          obtain ⟨cs, rfl⟩ := eq_folder_of_child? hchild
          exact ih hl hat

/-! ## What is refused -/

/-- The trouble of a walk: there is nothing, or a name or the path is too long. -/
def Trouble.IsOfWalk (t : Trouble) : Prop := t.isAbsence = true ∨ t = .nameTooLong

theorem advance_refused {last : Bool} {trouble : Trouble}
    (h : advance root last here names = .refused trouble) : trouble.IsOfWalk := by
  induction names generalizing here with
  | nil => cases h
  | cons name names ih =>
      rw [advance] at h
      split at h
      · exact ih h
      split at h
      · exact ih h
      split at h
      · obtain rfl := Stage.refused.inj h
        exact Or.inr rfl
      split at h
      · split at h
        · cases h
        · obtain rfl := Stage.refused.inj h
          exact Or.inl rfl
      · exact ih h
      · split at h
        · cases h
        · obtain rfl := Stage.refused.inj h
          exact Or.inl rfl
      · split at h <;> cases h

theorem follow_refused {last : Bool} {links : Nat} {trouble : Trouble}
    (h : follow root last links here names = .error trouble) : trouble.IsOfWalk := by
  induction links generalizing here names with
  | zero =>
      rw [follow] at h
      split at h
      · cases h
      · next t hrefused =>
        obtain rfl := Except.error.inj h
        exact advance_refused hrefused
      · obtain rfl := Except.error.inj h
        exact Or.inl rfl
  | succ links ih =>
      rw [follow] at h
      split at h
      · cases h
      · next t hrefused =>
        obtain rfl := Except.error.inj h
        exact advance_refused hrefused
      · exact ih h

/-! ## What is found -/

theorem text_isEmpty {p : Path} (h : ∀ name ∈ p.names, IsPlain name) : p.text.isEmpty = false := by
  apply Text.isEmpty_eq_false
  intro hempty
  -- the empty text is read as the empty path, whose text is a dot
  have hp := ofText_text h
  rw [hempty] at hp
  rw [← hp] at hempty
  exact absurd hempty (by decide)

namespace Workspace

variable {w : Workspace} {path : Text}

theorem stat_eq_ok_iff {e : Entry} :
    w.stat path = .ok e ↔ ∃ spot, w.locate true path = .ok spot ∧ spot.entry = some e := by
  unfold stat
  cases w.locate true path with
  | error fault => simp [Bind.bind, Except.bind]
  | ok spot =>
      cases hentry : spot.entry with
      | none => simp [Bind.bind, Except.bind, hentry]
      | some found =>
          simp only [Bind.bind, Except.bind, hentry, pure, Except.pure, Except.ok.injEq,
            exists_eq_left', Option.some.injEq]

theorem stat_of_long (hpath : PathFlaw.ofText? path = none)
    (hlength : pathLimit < nameLength path) : w.stat path = .error (.refused .nameTooLong path) := by
  have hempty : ¬ path.isEmpty = true := by
    intro hempty
    rw [Text.isEmpty_iff.mp hempty] at hlength
    exact absurd hlength (by decide)
  unfold stat locate
  rw [hpath]
  simp only [hempty, if_false, if_pos hlength, Bool.false_eq_true]
  rfl

theorem stat_of_flaw {flaw : PathFlaw} (h : PathFlaw.ofText? path = some flaw) :
    w.stat path = .error (.noPath flaw) := by
  unfold stat locate
  rw [h]
  rfl

/-- What is found has a path that a disk can have. -/
theorem ofText?_of_stat {e : Entry} (h : w.stat path = .ok e) : PathFlaw.ofText? path = none := by
  obtain ⟨spot, hlocate, -⟩ := stat_eq_ok_iff.mp h
  exact (locate_eq_ok_iff.mp hlocate).1

theorem locate_eq_error {last : Bool} {fault : Fault} (h : w.locate last path = .error fault) :
    (∃ flaw, PathFlaw.ofText? path = some flaw ∧ fault = .noPath flaw) ∨
      PathFlaw.ofText? path = none ∧
        ∃ trouble, fault = .refused trouble path ∧ trouble.IsOfWalk := by
  unfold locate at h
  split at h
  · next flaw hflaw => exact Or.inl ⟨flaw, hflaw, (Except.error.inj h).symm⟩
  · next hpath =>
    dsimp only at h
    refine Or.inr ⟨hpath, ?_⟩
    split at h
    · exact ⟨.missing, (Except.error.inj h).symm, Or.inl rfl⟩
    split at h
    · exact ⟨.nameTooLong, (Except.error.inj h).symm, Or.inr rfl⟩
    · cases hfollow : follow w.root last linkLimit (if rootOf path = .relative then w.here else [])
          (Text.split '/' path) with
      | ok spot =>
          rw [hfollow] at h
          cases h
      | error trouble =>
          rw [hfollow] at h
          exact ⟨trouble, (Except.error.inj h).symm, follow_refused hfollow⟩

/-- Where nothing is found, no disk can have the path, or the walk runs into trouble. -/
theorem stat_eq_error {fault : Fault} (h : w.stat path = .error fault) :
    (∃ flaw, PathFlaw.ofText? path = some flaw ∧ fault = .noPath flaw) ∨
      PathFlaw.ofText? path = none ∧
        ∃ trouble, fault = .refused trouble path ∧ trouble.IsOfWalk := by
  cases hlocate : w.locate true path with
  | error f =>
      unfold stat at h
      rw [hlocate] at h
      obtain rfl := Except.error.inj h
      exact locate_eq_error hlocate
  | ok spot =>
      unfold stat at h
      rw [hlocate] at h
      cases hentry : spot.entry with
      | none =>
          simp only [Bind.bind, Except.bind, hentry] at h
          exact Or.inr ⟨(locate_eq_ok_iff.mp hlocate).1, .missing, (Except.error.inj h).symm,
            Or.inl rfl⟩
      | some e =>
          simp only [Bind.bind, Except.bind, hentry] at h
          cases h

/-! ## What is read -/

theorem bytes_eq_ok_iff {bytes : List UInt8} :
    w.bytes path = .ok bytes ↔ w.stat path = .ok (.file bytes) := by
  unfold Workspace.bytes
  cases w.stat path with
  | error fault => simp [Bind.bind, Except.bind]
  | ok e => cases e <;> simp [Bind.bind, Except.bind, pure, Except.pure]

theorem bytes_cases (w : Workspace) (path : Text) :
    (∃ flaw, PathFlaw.ofText? path = some flaw ∧ w.bytes path = .error (.noPath flaw)) ∨
      PathFlaw.ofText? path = none ∧
        ((∃ bytes, w.bytes path = .ok bytes) ∨
          ∃ trouble, w.bytes path = .error (.refused trouble path)) := by
  unfold Workspace.bytes
  cases hstat : w.stat path with
  | error fault =>
      rcases stat_eq_error hstat with ⟨flaw, hflaw, rfl⟩ | ⟨hpath, trouble, rfl, -⟩
      · exact Or.inl ⟨flaw, hflaw, rfl⟩
      · exact Or.inr ⟨hpath, Or.inr ⟨trouble, rfl⟩⟩
  | ok e =>
      refine Or.inr ⟨ofText?_of_stat hstat, ?_⟩
      cases e with
      | file bytes => exact Or.inl ⟨bytes, rfl⟩
      | folder cs => exact Or.inr ⟨.isFolder, rfl⟩
      | link target => exact Or.inr ⟨.isFolder, rfl⟩

theorem names_cases (w : Workspace) (path : Text) :
    (∃ flaw, PathFlaw.ofText? path = some flaw ∧ w.names path = .error (.noPath flaw)) ∨
      PathFlaw.ofText? path = none ∧
        ((∃ names, w.names path = .ok names) ∨
          ∃ trouble, w.names path = .error (.refused trouble path)) := by
  unfold Workspace.names
  cases hstat : w.stat path with
  | error fault =>
      rcases stat_eq_error hstat with ⟨flaw, hflaw, rfl⟩ | ⟨hpath, trouble, rfl, -⟩
      · exact Or.inl ⟨flaw, hflaw, rfl⟩
      · exact Or.inr ⟨hpath, Or.inr ⟨trouble, rfl⟩⟩
  | ok e =>
      refine Or.inr ⟨ofText?_of_stat hstat, ?_⟩
      cases e with
      | file bytes => exact Or.inr ⟨.notFolder, rfl⟩
      | folder cs => exact Or.inl ⟨_, rfl⟩
      | link target => exact Or.inr ⟨.notFolder, rfl⟩

/-! ## Tests -/

theorem isFile_eq_true_iff :
    w.isFile path = .ok true ↔ ∃ bytes, w.stat path = .ok (.file bytes) := by
  unfold isFile test
  cases hstat : w.stat path with
  | ok e => cases e <;> simp [Entry.isFile]
  | error fault =>
      cases fault with
      | noPath flaw => simp
      | refused trouble p => by_cases h : trouble.isAbsence = true <;> simp [h]

theorem isFile_eq_error_iff {fault : Fault} :
    w.isFile path = .error fault ↔ ∃ trouble p, fault = .refused trouble p ∧
      w.stat path = .error (.refused trouble p) ∧ trouble.isAbsence = false := by
  unfold isFile test
  cases hstat : w.stat path with
  | ok e => simp
  | error f =>
      cases f with
      | noPath flaw => simp
      | refused trouble p =>
          by_cases h : trouble.isAbsence = true
          · simp only [h, if_true, reduceCtorEq, false_iff]
            rintro ⟨t, q, -, heq, ht⟩
            cases heq
            rw [h] at ht
            cases ht
          · simp only [h, if_false, Bool.false_eq_true]
            constructor
            · intro heq
              exact ⟨trouble, p, (Except.error.inj heq).symm, rfl, Bool.eq_false_iff.mpr h⟩
            · rintro ⟨t, q, rfl, heq, -⟩
              cases heq
              rfl

/-! ## Entries below a folder -/

/-- There is a folder where relative paths start, and a disk can hold the tree. -/
structure IsProper (w : Workspace) : Prop where
  root : w.root.IsProper
  isGrounded : w.IsGrounded

theorem IsProper.stat (hw : w.IsProper) {e : Entry} (h : w.stat path = .ok e) : e.IsProper := by
  obtain ⟨spot, hlocate, hentry⟩ := stat_eq_ok_iff.mp h
  obtain ⟨-, -, -, hfollow⟩ := locate_eq_ok_iff.mp hlocate
  obtain ⟨hat, -, -⟩ := follow_isPlace (hw.isGrounded.start path) hfollow
  exact (hw.root.at? (hat.symm.trans hentry)).1

/-- Links are followed, so what is found is none. -/
theorem IsProper.isLink_stat (hw : w.IsProper) {e : Entry} (h : w.stat path = .ok e) :
    e.isLink = false := by
  obtain ⟨spot, hlocate, hentry⟩ := stat_eq_ok_iff.mp h
  obtain ⟨-, -, -, hfollow⟩ := locate_eq_ok_iff.mp hlocate
  obtain ⟨-, -, hlink⟩ := follow_isPlace (hw.isGrounded.start path) hfollow
  cases e with
  | link target => exact absurd hentry (hlink rfl target)
  | file bytes => rfl
  | folder cs => rfl

section Below

variable {p : Path} {cs : List (Text × Entry)} {l : Location} {inner : Entry}

theorem isFileName_of_below (hw : w.IsProper) (hstat : w.stat p.text = .ok (.folder cs))
    (hat : (Entry.folder cs).at? l = some inner) : ∀ name ∈ l, IsFileName name :=
  ((hw.stat hstat).at? hat).2

theorem isPlain_descend (hp : ∀ name ∈ p.names, IsPlain name)
    (hl : ∀ name ∈ l, IsFileName name) : ∀ name ∈ (p.descend l).names, IsPlain name :=
  List.forall_mem_append.mpr ⟨hp, fun name hname => (hl name hname).toIsPlain⟩

/-- A disk that can have the path of a folder can have the paths below it. -/
theorem ofText?_descend (hp : ∀ name ∈ p.names, IsPlain name) (hl : ∀ name ∈ l, IsFileName name)
    (hpath : PathFlaw.ofText? p.text = none) : PathFlaw.ofText? (p.descend l).text = none :=
  (ofText?_text_eq_none_iff (isPlain_descend hp hl)).mpr <| List.forall_mem_append.mpr
    ⟨(ofText?_text_eq_none_iff hp).mp hpath, fun name hname => (hl name hname).possible⟩

/-- **What is below a folder and is no link** is found at its path, unless the path is too long. -/
theorem stat_descend (hw : w.IsProper) (hp : ∀ name ∈ p.names, IsPlain name)
    (hstat : w.stat p.text = .ok (.folder cs)) (hat : (Entry.folder cs).at? l = some inner)
    (hlink : inner.isLink = false) :
    w.stat (p.descend l).text = if nameLength (p.descend l).text ≤ pathLimit then .ok inner
      else .error (.refused .nameTooLong (p.descend l).text) := by
  have hl := isFileName_of_below hw hstat hat
  have hplain := isPlain_descend hp hl
  obtain ⟨⟨loc, _, slash⟩, hlocate, rfl⟩ := stat_eq_ok_iff.mp hstat
  obtain ⟨hpath, -, -, hfollow⟩ := locate_eq_ok_iff.mp hlocate
  have hpath' := ofText?_descend hp hl hpath
  split
  · next hlength =>
    obtain ⟨front, hfront, hsplit⟩ := split_text hp
    obtain ⟨front', hfront', hsplit'⟩ := split_text hplain
    have hrootOf : rootOf (p.descend l).text = rootOf p.text :=
      (congrArg Path.root (ofText_text hplain)).trans (congrArg Path.root (ofText_text hp)).symm
    rw [hsplit, follow_front hfront] at hfollow
    obtain ⟨hfolder, left, hmore⟩ := follow_append hfollow rfl
    have hinner : w.root.at? (loc ++ l) = some inner := by
      rw [at?_append, hfolder]
      exact hat
    refine stat_eq_ok_iff.mpr ⟨⟨loc ++ l, some inner, false⟩, locate_eq_ok_iff.mpr
      ⟨hpath', text_isEmpty hplain, Nat.not_lt.mpr hlength, ?_⟩, rfl⟩
    rw [hsplit', follow_front hfront', hrootOf]
    show follow w.root true linkLimit _ (p.names ++ l) = _
    rw [hmore, follow, advance_below hl hinner hlink]
  · next hlength => exact stat_of_long hpath' (Nat.lt_of_not_le hlength)

end Below

end Workspace

end Casebook.Disk

import Casebook.Disk.Change
import Mathlib

/-!
# What is written is there

A file that was written is read from the same path again (`bytes_of_write`), whatever links lead
there: nothing on the way to it is changed by the writing, because a file has nothing in it that a
path could go through. It is assumed that there is a folder where relative paths start, and there
still is after folders were made (`isGrounded_ensureFolders`) and after the writing.
-/

namespace Casebook.Disk

namespace Entry

/-! ## Locations in a tree -/

/-- There is a folder at the location. -/
def IsFolderAt (root : Entry) (l : Location) : Prop := ∃ cs, root.at? l = some (.folder cs)

/-- Two entries are the same, or both are folders. -/
def Alike (o o' : Option Entry) : Prop :=
  o' = o ∨ (∃ cs, o = some (.folder cs)) ∧ ∃ cs, o' = some (.folder cs)

theorem at?_append (root : Entry) (l l' : Location) :
    root.at? (l ++ l') = (root.at? l).bind fun e => e.at? l' := by
  induction l generalizing root with
  | nil => rfl
  | cons name l ih =>
      rw [List.cons_append, at?, at?, Option.bind_assoc]
      exact congrArg _ (funext fun e => ih e)

theorem at?_concat (root : Entry) (l : Location) (name : Text) :
    root.at? (l ++ [name]) = (root.at? l).bind fun e => e.child? name := by
  rw [at?_append]
  refine congrArg _ (funext fun e => ?_)
  exact Option.bind_fun_some (e.child? name)

theorem IsFolderAt.of_append {root : Entry} {l l' : Location} (h : IsFolderAt root (l ++ l')) :
    IsFolderAt root l := by
  obtain ⟨cs, hcs⟩ := h
  rw [at?_append] at hcs
  obtain ⟨e, he, hcs⟩ := Option.bind_eq_some_iff.mp hcs
  cases l' with
  | nil => exact ⟨cs, he.trans hcs⟩
  | cons name l' =>
      -- only a folder has anything in it
      cases e with
      | folder children => exact ⟨children, he⟩
      | file bytes => cases hcs
      | link target => cases hcs

theorem IsFolderAt.dropLast {root : Entry} {l : Location} (h : IsFolderAt root l) :
    IsFolderAt root l.dropLast := by
  cases l using List.reverseRecOn with
  | nil => exact h
  | append_singleton l name =>
      rw [List.dropLast_concat]
      exact h.of_append

theorem IsFolderAt.nil {root : Entry} {l : Location} (h : IsFolderAt root l) :
    IsFolderAt root [] :=
  IsFolderAt.of_append (l := []) h

/-! ## One entry put into a tree -/

theorem child?_putChild (name other : Text) (new : Entry) (cs : List (Text × Entry)) :
    (folder (putChild name new cs)).child? other =
      if other = name then some new else (folder cs).child? other := by
  unfold child? children putChild
  dsimp only
  by_cases hany : cs.any (·.1 == name) = true
  · rw [if_pos hany, List.find?_map]
    have hkeys : ((fun c : Text × Entry => c.1 == other) ∘
        fun c => if (c.1 == name) = true then (name, new) else c) = fun c => c.1 == other := by
      funext c
      by_cases hc : c.1 = name
      · simp [hc]
      · simp [hc]
    rw [hkeys]
    by_cases hother : other = name
    · rw [if_pos hother, hother]
      obtain ⟨c, hc, hname⟩ := List.any_eq_true.mp hany
      have hsome : (cs.find? fun c => c.1 == name).isSome = true :=
        List.find?_isSome.mpr ⟨c, hc, hname⟩
      obtain ⟨found, hfound⟩ := Option.isSome_iff_exists.mp hsome
      rw [hfound, Option.map_some, Option.map_some, if_pos (List.find?_some hfound)]
    · rw [if_neg hother, Option.map_map]
      cases hfound : cs.find? fun c => c.1 == other with
      | none => rfl
      | some found =>
          have hname : ¬ (found.1 == name) = true := by
            have hkey := List.find?_some hfound
            simp only [beq_iff_eq] at hkey ⊢
            rw [hkey]
            exact hother
          rw [Option.map_some, Option.map_some, Function.comp_apply, if_neg hname]
  · rw [if_neg hany, List.find?_append]
    by_cases hother : other = name
    · have hnone : cs.find? (fun c => c.1 == name) = none := by
        rw [List.find?_eq_none]
        intro c hc hname
        exact hany (List.any_eq_true.mpr ⟨c, hc, hname⟩)
      rw [if_pos hother, hother, hnone, Option.none_or]
      simp
    · have hsingle : [(name, new)].find? (fun c => c.1 == other) = none := by
        simp [Ne.symm hother]
      rw [if_neg hother, hsingle, Option.or_none]

theorem eq_folder_of_child? {e inner : Entry} {name : Text} (h : e.child? name = some inner) :
    ∃ cs, e = .folder cs := by
  cases e with
  | folder cs => exact ⟨cs, rfl⟩
  | file bytes => cases h
  | link target => cases h

theorem at?_cons_of_children {e : Entry} (h : e.children = []) (name : Text) (l : Location) :
    e.at? (name :: l) = none := by
  rw [at?, child?, h]
  rfl

theorem children_of_not_isFolderAt {e : Entry} (h : ¬ IsFolderAt e []) : e.children = [] := by
  cases e with
  | folder cs => exact absurd ⟨cs, rfl⟩ h
  | file bytes => rfl
  | link target => rfl

theorem put_nil (e new : Entry) : e.put [] new = new := by
  cases e <;> rfl

theorem put_cons {cs : List (Text × Entry)} {inner : Entry} {name : Text}
    (h : (folder cs).child? name = some inner) (l : Location) (new : Entry) :
    (folder cs).put (name :: l) new = .folder (putChild name (inner.put l new) cs) := by
  have hfound : (cs.find? (·.1 == name)).map Prod.snd = some inner := h
  rw [put, hfound, Option.getD_some]

/-- An entry that is put in a folder is there. -/
theorem at?_put_self {root new : Entry} {l : Location} (h : IsFolderAt root l) (name : Text) :
    (root.put (l ++ [name]) new).at? (l ++ [name]) = some new := by
  obtain ⟨cs, hcs⟩ := h
  induction l generalizing root with
  | nil =>
      obtain rfl := Option.some.inj hcs
      rw [List.nil_append, put, put_nil, at?, child?_putChild, if_pos rfl]
      rfl
  | cons first l ih =>
      obtain ⟨inner, hinner, hrest⟩ := Option.bind_eq_some_iff.mp hcs
      obtain ⟨children, rfl⟩ := eq_folder_of_child? hinner
      rw [List.cons_append, put_cons hinner, at?, child?_putChild, if_pos rfl, Option.bind_some]
      exact ih hrest

/-- Putting an entry that has nothing in it where no folder is leaves everything else. -/
theorem alike_at?_put {root new : Entry} {l : Location} (h : IsFolderAt root l) {name : Text}
    (hnew : new.children = []) (hold : ¬ IsFolderAt root (l ++ [name])) {other : Location}
    (hother : other ≠ l ++ [name]) :
    Alike (root.at? other) ((root.put (l ++ [name]) new).at? other) := by
  obtain ⟨cs, hcs⟩ := h
  induction l generalizing root other with
  | nil =>
      obtain rfl := Option.some.inj hcs
      cases other with
      | nil => exact Or.inr ⟨⟨_, rfl⟩, _, rfl⟩
      | cons first rest =>
          rw [List.nil_append, put, at?, at?, child?_putChild]
          split
          · next heq =>
            subst heq
            -- nothing is below the entry, and nothing was
            obtain ⟨next, rest, rfl⟩ := List.exists_cons_of_ne_nil fun hnil : rest = [] =>
              hother (by rw [hnil, List.nil_append])
            rw [Option.bind_some, put_nil, at?_cons_of_children hnew]
            refine Or.inl ?_
            cases hchild : (folder cs).child? first with
            | none => rfl
            | some inner =>
                have hinner : ¬ IsFolderAt inner [] := by
                  rintro ⟨ds, hds⟩
                  refine hold ⟨ds, ?_⟩
                  rw [List.nil_append, at?, hchild]
                  exact hds
                rw [Option.bind_some, at?_cons_of_children (children_of_not_isFolderAt hinner)]
          · exact Or.inl rfl
  | cons first l ih =>
      obtain ⟨inner, hinner, hrest⟩ := Option.bind_eq_some_iff.mp hcs
      obtain ⟨children, rfl⟩ := eq_folder_of_child? hinner
      cases other with
      | nil => exact Or.inr ⟨⟨_, rfl⟩, _, rfl⟩
      | cons next rest =>
          rw [List.cons_append, put_cons hinner, at?, at?, child?_putChild]
          split
          · next heq =>
            subst heq
            rw [hinner, Option.bind_some, Option.bind_some]
            refine ih ?_ ?_ hrest
            · rintro ⟨ds, hds⟩
              refine hold ⟨ds, ?_⟩
              rw [List.cons_append, at?, hinner]
              exact hds
            · rintro rfl
              exact hother rfl
          · exact Or.inl rfl

end Entry

/-! ## Paths through a changed tree -/

open Entry

/-- Two trees differ in one location only, apart from what folders hold. There the first has nothing
or a file, and the second a file. -/
structure Differ (root root' : Entry) (l : Location) (bytes : List UInt8) : Prop where
  alike : ∀ other, other ≠ l → Alike (root.at? other) (root'.at? other)
  before : root.at? l = none ∨ ∃ before, root.at? l = some (.file before)
  after : root'.at? l = some (.file bytes)

theorem not_isFolderAt {root : Entry} {l : Location}
    (h : root.at? l = none ∨ ∃ bytes, root.at? l = some (.file bytes)) :
    ¬ IsFolderAt root l := by
  rintro ⟨cs, hcs⟩
  rcases h with hnone | ⟨bytes, hfile⟩
  · rw [hnone] at hcs
    cases hcs
  · rw [hfile] at hcs
    cases hcs

/-- The entry under an ordinary name decides how the walk goes on. -/
theorem advance_cons {root : Entry} {here : Location} {name : Text} {rest : List Text}
    (last : Bool) (hidle : isIdle name = false) (hup : name ≠ "..")
    (hlength : nameLength name ≤ nameLimit) :
    advance root last here (name :: rest) =
      match root.at? (here ++ [name]) with
      | none =>
        if rest.all (· == "") then .arrived ⟨here ++ [name], none, !rest.isEmpty⟩
        else .refused .missing
      | some (.folder _) => advance root last (here ++ [name]) rest
      | some (.file bytes) =>
        if rest.isEmpty then .arrived ⟨here ++ [name], some (.file bytes), false⟩
        else .refused .notFolder
      | some (.link target) =>
        if rest.isEmpty && !last then .arrived ⟨here ++ [name], some (.link target), false⟩
        else .link here target rest := by
  have hshort : ¬ nameLength name > nameLimit := Nat.not_lt.mpr hlength
  rw [at?_concat, advance, hidle, if_neg Bool.false_ne_true, if_neg hup]
  exact if_neg hshort

theorem advance_idle {root : Entry} {here : Location} {name : Text} {rest : List Text}
    (last : Bool) (hidle : isIdle name = true) :
    advance root last here (name :: rest) = advance root last here rest := by
  rw [advance, if_pos hidle]

theorem advance_up {root : Entry} {here : Location} {rest : List Text} (last : Bool) :
    advance root last here (".." :: rest) = advance root last here.dropLast rest := by
  rw [advance, if_neg (by decide), if_pos rfl]

theorem advance_long {root : Entry} {here : Location} {name : Text} {rest : List Text}
    (last : Bool) (hidle : isIdle name = false) (hup : name ≠ "..")
    (hlength : ¬ nameLength name ≤ nameLimit) :
    advance root last here (name :: rest) = .refused .nameTooLong := by
  rw [advance, hidle, if_neg Bool.false_ne_true, if_neg hup, if_pos (Nat.lt_of_not_le hlength)]

/-- The place is a folder or lies in one. -/
def IsPlace (root : Entry) (l : Location) : Prop :=
  IsFolderAt root l ∨ ∃ folder name, l = folder ++ [name] ∧ IsFolderAt root folder

/-- Where a walk from a folder can end: at a place, or in the folder of a link. -/
theorem advance_isPlace {root : Entry} {last : Bool} {here : Location} {names : List Text}
    (hhere : IsFolderAt root here) :
    (∀ spot, advance root last here names = .arrived spot →
      spot.entry = root.at? spot.location ∧ IsPlace root spot.location ∧
        (last = true → ∀ target, spot.entry ≠ some (.link target))) ∧
    ∀ folder target rest, advance root last here names = .link folder target rest →
      IsFolderAt root folder := by
  induction names generalizing here with
  | nil =>
      refine ⟨?_, fun folder target rest h => nomatch h⟩
      intro spot h
      obtain rfl := Stage.arrived.inj h
      obtain ⟨cs, hcs⟩ := hhere
      exact ⟨rfl, Or.inl ⟨cs, hcs⟩, fun _ target hlink => nomatch hcs.symm.trans hlink⟩
  | cons name names ih =>
      cases hidle : isIdle name with
      | true =>
          rw [advance_idle last hidle]
          exact ih hhere
      | false =>
          by_cases hup : name = ".."
          · rw [hup, advance_up]
            exact ih hhere.dropLast
          by_cases hlength : nameLength name ≤ nameLimit
          · rw [advance_cons last hidle hup hlength]
            have hplace : IsPlace root (here ++ [name]) := Or.inr ⟨here, name, rfl, hhere⟩
            cases hentry : root.at? (here ++ [name]) with
            | none =>
                dsimp only
                split
                · refine ⟨fun spot h => ?_, fun folder target rest h => nomatch h⟩
                  obtain rfl := Stage.arrived.inj h
                  exact ⟨hentry.symm, hplace, fun _ target hlink => nomatch hlink⟩
                · exact ⟨fun spot h => (nomatch h), fun folder target rest h => nomatch h⟩
            | some e =>
                cases e with
                | folder cs => exact ih ⟨cs, hentry⟩
                | file bytes =>
                    dsimp only
                    split
                    · refine ⟨fun spot h => ?_, fun folder target rest h => nomatch h⟩
                      obtain rfl := Stage.arrived.inj h
                      exact ⟨hentry.symm, hplace, fun _ target hlink => nomatch hlink⟩
                    · exact ⟨fun spot h => (nomatch h), fun folder target rest h => nomatch h⟩
                | link target =>
                    dsimp only
                    split
                    · next hlast =>
                      refine ⟨fun spot h => ?_, fun folder target rest h => nomatch h⟩
                      obtain rfl := Stage.arrived.inj h
                      refine ⟨hentry.symm, hplace, fun htrue => ?_⟩
                      rw [htrue, Bool.not_true, Bool.and_false] at hlast
                      cases hlast
                    · refine ⟨fun spot h => (nomatch h), fun folder target rest h => ?_⟩
                      obtain ⟨rfl, rfl, rfl⟩ := Stage.link.inj h
                      exact hhere
          · rw [advance_long last hidle hup hlength]
            exact ⟨fun spot h => (nomatch h), fun folder target rest h => nomatch h⟩

/-- A walk that comes to the same stage in both trees, and does not end where they differ. -/
theorem stops_elsewhere {stage : Stage} {l : Location} {bytes : List UInt8}
    (h : ∀ spot, stage = .arrived spot → spot.location ≠ l) :
    (∀ spot, stage = .arrived spot → spot.location = l → spot.slash = false →
      stage = .arrived ⟨l, some (.file bytes), false⟩) ∧
    ∀ folder target rest, stage = .link folder target rest → stage = .link folder target rest :=
  ⟨fun spot harrived hl _ => absurd hl (h spot harrived), fun _ _ _ hlink => hlink⟩

/-- A walk that ends where a file was put ends there again, and finds the file; a walk to a link
finds the link again. -/
theorem advance_differ {root root' : Entry} {l : Location} {bytes : List UInt8}
    (h : Differ root root' l bytes) {here : Location} {names : List Text}
    (hhere : IsFolderAt root here) :
    (∀ spot, advance root true here names = .arrived spot → spot.location = l →
      spot.slash = false →
        advance root' true here names = .arrived ⟨l, some (.file bytes), false⟩) ∧
    ∀ folder target rest, advance root true here names = .link folder target rest →
      advance root' true here names = .link folder target rest := by
  induction names generalizing here with
  | nil =>
      refine ⟨?_, fun folder target rest hlink => nomatch hlink⟩
      intro spot harrived hl _
      obtain rfl := Stage.arrived.inj harrived
      exact absurd (hl ▸ hhere) (not_isFolderAt h.before)
  | cons name names ih =>
      cases hidle : isIdle name with
      | true =>
          rw [advance_idle true hidle, advance_idle true hidle]
          exact ih hhere
      | false =>
          by_cases hup : name = ".."
          · rw [hup, advance_up, advance_up]
            exact ih hhere.dropLast
          by_cases hlength : nameLength name ≤ nameLimit
          · rw [advance_cons true hidle hup hlength, advance_cons true hidle hup hlength]
            by_cases hl : here ++ [name] = l
            · -- the walk has come to the file, behind which nothing may follow
              rw [hl, h.after]
              rcases h.before with hnone | ⟨before, hfile⟩
              · rw [hnone]
                dsimp only
                split
                · refine ⟨fun spot harrived _ hslash => ?_, fun _ _ _ hlink => nomatch hlink⟩
                  obtain rfl := Stage.arrived.inj harrived
                  rw [if_pos (by simpa using hslash)]
                · exact ⟨fun _ harrived => (nomatch harrived), fun _ _ _ hlink => nomatch hlink⟩
              · rw [hfile]
                dsimp only
                split
                · exact ⟨fun _ _ _ _ => rfl, fun _ _ _ hlink => nomatch hlink⟩
                · exact ⟨fun _ harrived => (nomatch harrived), fun _ _ _ hlink => nomatch hlink⟩
            · rcases h.alike _ hl with heq | ⟨⟨cs, hcs⟩, cs', hcs'⟩
              · rw [heq]
                cases hentry : root.at? (here ++ [name]) with
                | none =>
                    refine stops_elsewhere fun spot harrived => ?_
                    dsimp only at harrived
                    split at harrived
                    · exact Stage.arrived.inj harrived ▸ hl
                    · cases harrived
                | some e =>
                    cases e with
                    | folder cs => exact ih ⟨cs, hentry⟩
                    | file before =>
                        refine stops_elsewhere fun spot harrived => ?_
                        dsimp only at harrived
                        split at harrived
                        · exact Stage.arrived.inj harrived ▸ hl
                        · cases harrived
                    | link target =>
                        refine stops_elsewhere fun spot harrived => ?_
                        dsimp only at harrived
                        split at harrived
                        · exact Stage.arrived.inj harrived ▸ hl
                        · cases harrived
              · -- both are folders, and the walk goes on in both trees
                rw [hcs, hcs']
                exact ih ⟨cs, hcs⟩
          · rw [advance_long true hidle hup hlength, advance_long true hidle hup hlength]
            exact stops_elsewhere fun spot harrived => nomatch harrived

/-! ## Links -/

/-- Where a link leads is looked for from its folder or from the root. -/
theorem isFolderAt_start {root : Entry} {folder : Location} (h : IsFolderAt root folder)
    (target : Text) : IsFolderAt root (if rootOf target = .relative then folder else []) := by
  split
  · exact h
  · exact h.nil

theorem follow_isPlace {root : Entry} {last : Bool} {links : Nat} {here : Location}
    {names : List Text} (hhere : IsFolderAt root here) {spot : Spot}
    (h : follow root last links here names = .ok spot) :
    spot.entry = root.at? spot.location ∧ IsPlace root spot.location ∧
      (last = true → ∀ target, spot.entry ≠ some (.link target)) := by
  induction links generalizing here names with
  | zero =>
      rw [follow] at h
      split at h
      · next s harrived =>
        obtain rfl := Except.ok.inj h
        exact (advance_isPlace hhere).1 s harrived
      · cases h
      · cases h
  | succ links ih =>
      rw [follow] at h
      split at h
      · next s harrived =>
        obtain rfl := Except.ok.inj h
        exact (advance_isPlace hhere).1 s harrived
      · cases h
      · next folder target rest hlink =>
        exact ih (isFolderAt_start ((advance_isPlace hhere).2 _ _ _ hlink) target) h

theorem follow_differ {root root' : Entry} {l : Location} {bytes : List UInt8}
    (hdiffer : Differ root root' l bytes) {links : Nat} {here : Location} {names : List Text}
    (hhere : IsFolderAt root here) {spot : Spot}
    (h : follow root true links here names = .ok spot) (hl : spot.location = l)
    (hslash : spot.slash = false) :
    follow root' true links here names = .ok ⟨l, some (.file bytes), false⟩ := by
  induction links generalizing here names with
  | zero =>
      rw [follow] at h ⊢
      split at h
      · next s harrived =>
        obtain rfl := Except.ok.inj h
        rw [(advance_differ hdiffer hhere).1 s harrived hl hslash]
      · cases h
      · cases h
  | succ links ih =>
      rw [follow] at h ⊢
      split at h
      · next s harrived =>
        obtain rfl := Except.ok.inj h
        rw [(advance_differ hdiffer hhere).1 s harrived hl hslash]
      · cases h
      · next folder target rest hlink =>
        rw [(advance_differ hdiffer hhere).2 _ _ _ hlink]
        exact ih (isFolderAt_start ((advance_isPlace hhere).2 _ _ _ hlink) target) h

/-! ## Workspaces -/

namespace Workspace

variable {w w' : Workspace} {path : Text}

/-- There is a folder where relative paths start. -/
def IsGrounded (w : Workspace) : Prop := IsFolderAt w.root w.here

theorem locate_eq_ok_iff {last : Bool} {spot : Spot} :
    w.locate last path = .ok spot ↔
      PathFlaw.ofText? path = none ∧ path.isEmpty = false ∧ ¬ nameLength path > pathLimit ∧
        follow w.root last linkLimit (if rootOf path = .relative then w.here else [])
          (Text.split '/' path) = .ok spot := by
  unfold locate
  cases PathFlaw.ofText? path with
  | some flaw => simp
  | none =>
      cases hempty : path.isEmpty with
      | true => simp [Except.mapError]
      | false =>
          by_cases hlength : nameLength path > pathLimit
          · simp [Except.mapError, hlength]
          · simp only [hlength]
            cases follow w.root last linkLimit (if rootOf path = .relative then w.here else [])
              (Text.split '/' path) with
            | error trouble => simp [Except.mapError]
            | ok found => simp [Except.mapError]

theorem IsGrounded.start (hw : w.IsGrounded) (path : Text) :
    IsFolderAt w.root (if rootOf path = .relative then w.here else []) := isFolderAt_start hw path

/-- An entry that has nothing in it and is put where no folder is leaves the folder where relative
paths start. -/
theorem IsGrounded.put (hw : w.IsGrounded) {folder : Location} {name : Text} {new : Entry}
    (hfolder : IsFolderAt w.root folder) (hnew : new.children = [])
    (hold : ¬ IsFolderAt w.root (folder ++ [name])) : (w.put (folder ++ [name]) new).IsGrounded := by
  have hhere : w.here ≠ folder ++ [name] := fun heq => hold (heq ▸ hw)
  rcases alike_at?_put hfolder hnew hold hhere with heq | ⟨-, cs, hcs⟩
  · obtain ⟨cs, hcs⟩ := hw
    exact ⟨cs, heq.trans hcs⟩
  · exact ⟨cs, hcs⟩

/-! ## Making folders -/

theorem isGrounded_make (hw : w.IsGrounded) {new : Entry} (hnew : new.children = [])
    (h : w.make path new = .ok w') : w'.IsGrounded := by
  unfold make at h
  cases hlocate : w.locate false path with
  | error fault =>
      rw [hlocate] at h
      cases h
  | ok spot =>
      obtain ⟨-, -, -, hfollow⟩ := locate_eq_ok_iff.mp hlocate
      obtain ⟨hentry, hplace, -⟩ := follow_isPlace (hw.start path) hfollow
      rw [hlocate] at h
      simp only [Bind.bind, Except.bind] at h
      split at h
      · cases h
      · next hnone =>
        obtain rfl := Except.ok.inj h
        have hno := not_isFolderAt (Or.inl (hentry.symm.trans hnone))
        rcases hplace with hself | ⟨folder, name, hlocation, hfolder⟩
        · exact absurd hself hno
        · rw [hlocation] at hno ⊢
          exact hw.put hfolder hnew hno

theorem isGrounded_ensureFolder (hw : w.IsGrounded) {p : Path}
    {retry : Except Fault Workspace → Except Fault Workspace}
    (hretry : ∀ fault w', retry (.error fault) = .ok w' → w'.IsGrounded)
    (h : w.ensureFolder p retry = .ok w') : w'.IsGrounded := by
  unfold ensureFolder at h
  split at h
  · next made hmade =>
    obtain rfl := Except.ok.inj h
    exact isGrounded_make hw rfl hmade
  · exact hretry _ _ h
  · cases h
  · -- the folder was there already
    cases hfolder : w.isFolder p.text with
    | error fault =>
        rw [hfolder] at h
        cases h
    | ok found =>
        rw [hfolder] at h
        cases found with
        | true => exact Except.ok.inj h ▸ hw
        | false => cases h

/-- Making folders leaves the folder where relative paths start. -/
theorem isGrounded_ensureFolders (hw : w.IsGrounded) {p : Path}
    (h : w.ensureFolders p = .ok w') : w'.IsGrounded := by
  have hid : ∀ (fault : Fault) (v : Workspace), id (.error fault : Except Fault Workspace) = .ok v →
      v.IsGrounded := fun _ _ => nofun
  have hwithin : ∀ (depth : Nat) (w w' : Workspace) (p : Path), w.IsGrounded →
      ensureFoldersWithin depth w p = .ok w' → w'.IsGrounded := by
    intro depth
    induction depth with
    | zero => exact fun w w' p hw h => isGrounded_ensureFolder hw hid h
    | succ depth ih =>
        intro w w' p hw h
        refine isGrounded_ensureFolder hw (fun fault v hretry => ?_) h
        split at hretry
        · cases hretry
        · cases haround : ensureFoldersWithin depth w p.parent with
          | error fault =>
              rw [haround] at hretry
              cases hretry
          | ok around =>
              rw [haround] at hretry
              exact isGrounded_ensureFolder (ih _ _ _ hw haround) hid hretry
  exact hwithin _ _ _ _ hw h

/-! ## Writing a file -/

/-- Where a file is written: in a folder, and not over a folder or link. -/
theorem write_eq_ok {bytes : List UInt8} (hw : w.IsGrounded) (h : w.write path bytes = .ok w') :
    ∃ spot folder name, w.locate true path = .ok spot ∧ spot.slash = false ∧
      spot.location = folder ++ [name] ∧ IsFolderAt w.root folder ∧
      (w.root.at? spot.location = none ∨ ∃ before, w.root.at? spot.location = some (.file before)) ∧
      w' = w.put spot.location (.file bytes) := by
  unfold write at h
  split at h
  · cases hlocate : w.locate true ⟨(path.points.reverse.dropWhile
        (· == Point.char '/')).reverse⟩ with
    | error fault =>
        rw [hlocate] at h
        cases h
    | ok spot =>
        rw [hlocate] at h
        cases h
  · cases hlocate : w.locate true path with
    | error fault =>
        rw [hlocate] at h
        cases h
    | ok spot =>
        rw [hlocate] at h
        obtain ⟨-, -, -, hfollow⟩ := locate_eq_ok_iff.mp hlocate
        obtain ⟨hentry, hplace, hlink⟩ := follow_isPlace (hw.start path) hfollow
        have hfolder : ∀ cs, spot.entry ≠ some (.folder cs) := by
          intro cs hcs
          simp [hcs, Bind.bind, Except.bind] at h
        have hbefore : w.root.at? spot.location = none ∨
            ∃ before, w.root.at? spot.location = some (.file before) := by
          rw [← hentry]
          cases hspot : spot.entry with
          | none => exact Or.inl rfl
          | some e =>
              cases e with
              | folder cs => exact absurd hspot (hfolder cs)
              | link target => exact absurd hspot (hlink rfl target)
              | file before => exact Or.inr ⟨before, rfl⟩
        rcases hplace with hself | ⟨folder, name, hlocation, hin⟩
        · exact absurd hself (not_isFolderAt hbefore)
        · have hput : (if spot.slash = true then .error (.refused .isFolder path)
              else .ok (w.put spot.location (.file bytes)) : Except Fault Workspace) = .ok w' := by
            simp only [Bind.bind, Except.bind] at h
            exact h
          split at hput
          · cases hput
          · next hslash =>
            exact ⟨spot, folder, name, rfl, Bool.eq_false_iff.mpr hslash, hlocation, hin, hbefore,
              (Except.ok.inj hput).symm⟩

/-- **What is written is there.** -/
theorem bytes_of_write (hw : w.IsGrounded) {bytes : List UInt8}
    (h : w.write path bytes = .ok w') : w'.bytes path = .ok bytes ∧ w'.IsGrounded := by
  obtain ⟨spot, folder, name, hlocate, hslash, hlocation, hfolder, hbefore, rfl⟩ :=
    write_eq_ok hw h
  obtain ⟨hflaw, hempty, hlength, hfollow⟩ := locate_eq_ok_iff.mp hlocate
  have hno := not_isFolderAt hbefore
  rw [hlocation] at hno hbefore
  have hdiffer : Differ w.root (w.put (folder ++ [name]) (.file bytes)).root (folder ++ [name])
      bytes :=
    ⟨fun other hother => alike_at?_put hfolder rfl hno hother, hbefore, at?_put_self hfolder name⟩
  rw [hlocation]
  refine ⟨?_, hw.put hfolder rfl hno⟩
  have hfound := follow_differ hdiffer (hw.start path) hfollow hlocation hslash
  have hlocate' : (w.put (folder ++ [name]) (.file bytes)).locate true path =
      .ok ⟨folder ++ [name], some (.file bytes), false⟩ :=
    locate_eq_ok_iff.mpr ⟨hflaw, hempty, hlength, hfound⟩
  unfold Workspace.bytes stat
  rw [hlocate']
  rfl

/-- A file that can be read is there. -/
theorem exists?_of_bytes {bytes : List UInt8} (h : w.bytes path = .ok bytes) :
    w.exists? path = .ok true := by
  unfold Workspace.bytes at h
  unfold exists? test
  cases hstat : w.stat path with
  | error fault =>
      rw [hstat] at h
      cases h
  | ok e => rfl

/-- A file can be written at the path. -/
def IsWritable (w : Workspace) (path : Text) : Prop := ∃ bytes w', w.write path bytes = .ok w'

/-- Whether a file can be written has nothing to do with what is in it. -/
theorem IsWritable.write (h : w.IsWritable path) (bytes : List UInt8) :
    ∃ w', w.write path bytes = .ok w' := by
  obtain ⟨others, w', h⟩ := h
  unfold Workspace.write at h ⊢
  split at h
  · next hends =>
    rw [if_pos hends]
    cases hlocate : w.locate true ⟨(path.points.reverse.dropWhile
        (· == Point.char '/')).reverse⟩ with
    | error fault =>
        rw [hlocate] at h
        cases h
    | ok spot =>
        rw [hlocate] at h
        cases h
  · next hends =>
    rw [if_neg hends]
    cases hlocate : w.locate true path with
    | error fault =>
        rw [hlocate] at h
        cases h
    | ok spot =>
        rw [hlocate] at h
        simp only [Bind.bind, Except.bind] at h ⊢
        split at h
        · cases h
        · split at h
          · cases h
          · next hslash =>
            rw [if_neg hslash]
            exact ⟨_, rfl⟩

end Workspace

end Casebook.Disk

import Casebook.Proofs.Mount.Name

/-!
# Spellings of a path

A path can be written in many ways: with more slashes than one behind a name, with a slash at its
end, with dots, and with detours through a folder and back. All of them have one normal form
(`normalise_of_respelled`), because names that lead back to where they start from leave nothing
behind when two dots are taken back.

Main statement (`stubName?_inescapable`): under a mount root a path has no name, or the empty one,
or one in its normal form, and which it is hangs on the normal form of the path alone.
-/

namespace Casebook.Disk

/-- A point of the text is no slash. -/
def HasName (text : Text) : Prop := ∃ q ∈ text.points, q ≠ Point.char '/'

/-- What leads from a folder back to it: a dot, or a name and two dots behind it. -/
def LeadsBack (part : Text) : Prop :=
  part = "." ∨ ∃ name, IsOrdinary name ∧ part = name ++ ("/" : Text) ++ ".."

/-- Where a name can begin: at the front of a text, or behind a slash. -/
def EndsOpen (text : Text) : Prop := text = "" ∨ ∃ front : Text, text = front ++ "/"

/-- The second text writes the path of the first with something more in it that says nothing.
Slashes count as repeated only behind a name, since two of them in front are a root of their own. -/
inductive Respelled : Text → Text → Prop
  | slash {before : Text} (after : Text) : HasName before →
      Respelled (before ++ "/" ++ after) (before ++ "//" ++ after)
  | trailing {path : Text} : HasName path → Respelled path (path ++ "/")
  | detour {before part after : Text} : EndsOpen before → LeadsBack part →
      Text.begins "/" after = false →
      Respelled (before ++ after) (before ++ part ++ "/" ++ after)

/-! ## Roots -/

/-- What does not begin with a slash has no say in the root of what it follows. -/
theorem rootOf_append_of_not_begins (text : Text) {more : Text}
    (h : Text.begins "/" more = false) : rootOf (text ++ more) = rootOf text := by
  obtain ⟨ps⟩ := text
  obtain ⟨qs⟩ := more
  show rootOf ⟨ps ++ qs⟩ = rootOf ⟨ps⟩
  cases qs with
  | nil => rw [List.append_nil]
  | cons q qs =>
      have hq : q ≠ Point.char '/' := by
        rintro rfl
        cases h
      -- three points at most settle a root, and `q` is none of the slashes among them
      rcases ps with _ | ⟨a, _ | ⟨b, _ | ⟨c, ps⟩⟩⟩
      · simp [rootOf, hq]
      · by_cases ha : a = Point.char '/' <;> simp [rootOf, hq, ha]
      · by_cases ha : a = Point.char '/' <;> by_cases hb : b = Point.char '/' <;>
          simp [rootOf, hq, ha, hb]
      · by_cases ha : a = Point.char '/' <;> by_cases hb : b = Point.char '/' <;>
          by_cases hc : c = Point.char '/' <;> simp [rootOf, ha, hb, hc]

theorem LeadsBack.begins {part : Text} (h : LeadsBack part) (more : Text) :
    Text.begins "/" (part ++ more) = false := by
  rcases h with rfl | ⟨name, hname, rfl⟩
  · rfl
  · obtain ⟨ps⟩ := name
    cases ps with
    | nil => exact absurd rfl hname.ne_empty
    | cons p ps =>
        have hp : p ≠ Point.char '/' := fun heq => hname.isFree (heq ▸ List.mem_cons_self)
        show List.isPrefixOf [Point.char '/'] (p :: _) = false
        rw [List.isPrefixOf_cons_cons, beq_eq_false_iff_ne.mpr (Ne.symm hp), Bool.false_and]

/-! ## Names -/

theorem namesOf_empty : namesOf "" = [] := rfl

theorem namesOf_trailing (text : Text) : namesOf (text ++ "/") = namesOf text := by
  calc namesOf (text ++ "/") = namesOf (text ++ ("/" : Text) ++ "") :=
        congrArg (fun ps => namesOf ⟨ps⟩) (List.append_nil _).symm
    _ = namesOf text := by rw [namesOf_append, namesOf_empty, List.append_nil]

theorem EndsOpen.namesOf_append {text : Text} (h : EndsOpen text) (more : Text) :
    namesOf (text ++ more) = namesOf text ++ namesOf more := by
  rcases h with rfl | ⟨front, rfl⟩
  · rfl
  · rw [Disk.namesOf_append, namesOf_trailing]

theorem LeadsBack.namesOf {part : Text} (h : LeadsBack part) :
    namesOf part = [] ∨ ∃ name : Text, name ≠ ".." ∧ namesOf part = [name, ".."] := by
  rcases h with rfl | ⟨name, hname, rfl⟩
  · exact Or.inl rfl
  · refine Or.inr ⟨name, hname.ne_dots, ?_⟩
    rw [Disk.namesOf_append, hname.isNormalName.namesOf_eq, Text.split_of_isFree hname.isFree]
    rfl

/-- A name and two dots behind it leave nothing. -/
theorem collapse_detour (rooted : Bool) {name : Text} (h : name ≠ "..") (before after : List Text) :
    collapse rooted [] (before ++ ([name, ".."] ++ after)) =
      collapse rooted [] (before ++ after) := by
  have hback : ∀ read, afterName rooted (afterName rooted read name) ".." = read := by
    intro read
    have hname : afterName rooted read name = name :: read := if_neg h
    rw [hname, afterName, if_pos rfl]
    exact if_neg h
  simp only [collapse_eq_foldl, List.foldl_append, List.foldl_cons, List.foldl_nil, hback]

/-! ## Normal forms -/

theorem normalise_congr {p q : Text} (hroot : rootOf p = rootOf q)
    (hnames : collapse (Path.ofText p).isAbsolute [] (namesOf p) =
      collapse (Path.ofText p).isAbsolute [] (namesOf q)) : normalise p = normalise q := by
  have habs : (Path.ofText p).isAbsolute = (Path.ofText q).isAbsolute := by
    unfold Path.isAbsolute Path.ofText
    rw [hroot]
  have hcollapsed : (Path.ofText p).collapsed = (Path.ofText q).collapsed := by
    unfold Path.collapsed
    rw [← habs]
    exact congr (congrArg Path.mk hroot) hnames
  exact congrArg Path.text hcollapsed

theorem Respelled.normalise_eq {p q : Text} (h : Respelled p q) : normalise p = normalise q := by
  cases h with
  | @slash before after hname =>
      have htwo : before ++ ("//" : Text) ++ after =
          before ++ ("/" : Text) ++ (("/" : Text) ++ after) := by
        rw [Text.append_assoc, Text.append_assoc, ← Text.append_assoc "/"]
        rfl
      have hafter : namesOf (("/" : Text) ++ after) = namesOf after :=
        EndsOpen.namesOf_append (Or.inr ⟨"", rfl⟩) after
      apply normalise_congr
      · rw [Text.append_assoc, Text.append_assoc, rootOf_append hname, rootOf_append hname]
      · rw [htwo, namesOf_append, namesOf_append, hafter]
  | trailing hname =>
      apply normalise_congr
      · rw [rootOf_append hname]
      · rw [namesOf_trailing]
  | @detour before part after hopen hback hafter =>
      apply normalise_congr
      · rw [rootOf_append_of_not_begins _ hafter, Text.append_assoc, Text.append_assoc,
          rootOf_append_of_not_begins _ (hback.begins _)]
      · rw [Text.append_assoc before, Text.append_assoc before, hopen.namesOf_append,
          hopen.namesOf_append, namesOf_append]
        rcases hback.namesOf with hnil | ⟨name, hname, hnames⟩
        · rw [hnil, List.nil_append]
        · rw [hnames, collapse_detour _ hname]

/-- **All spellings of a path have one normal form.** -/
theorem normalise_of_respelled {p q : Text} (h : Relation.EqvGen Respelled p q) :
    normalise p = normalise q := by
  induction h with
  | rel p q hpq => exact hpq.normalise_eq
  | refl p => rfl
  | symm p q _ ih => exact ih.symm
  | trans p q r _ _ hpq hqr => exact hpq.trans hqr

end Casebook.Disk

namespace Casebook.Mount

open Disk

section
variable {root path name : Text}

theorem stubName?_congr {other : Text} (h : normalise path = normalise other) :
    stubName? root path = stubName? root other := by
  unfold stubName?
  rw [h]

/-- The root itself has the empty name, however it is spelled, and no other path has. -/
theorem stubName?_eq_empty_iff (h : IsMountRoot root) :
    stubName? root path = some ("" : Text) ↔ normalise path = normalise root := by
  constructor
  · intro hname
    obtain ⟨hroot, names, hnames, hjoined⟩ := (stubName?_eq_some_iff h).mp hname
    have hnil : names = [] := by
      by_contra hne
      have hordinary := isOrdinary_of_eq_append h hroot hnames
      exact (isNormalName_joined hne hordinary).ne_empty hjoined.symm
    rw [hnil, List.append_nil] at hnames
    have hsame : (Path.ofText path).collapsed = (Path.ofText root).collapsed := by
      show Disk.Path.mk _ (Path.ofText path).collapsed.names =
        Disk.Path.mk _ (Path.ofText root).collapsed.names
      rw [hroot, hnames]
    exact congrArg Path.text hsame
  · exact fun hpath => if_pos hpath

/-- What has another name stands behind the root and a slash. -/
theorem stubName?_eq_iff_of_ne (hne : name ≠ "") :
    stubName? root path = some name ↔
      normalise path = normalise root ++ ("/" : Text) ++ name := by
  unfold stubName?
  dsimp only
  split
  · next hpath =>
    rw [hpath]
    constructor
    · intro hname
      exact absurd (Option.some.inj hname).symm hne
    · intro hroot
      have hlength := congrArg Text.length hroot
      rw [Text.length_append, Text.length_append] at hlength
      have hslash : Text.length "/" = 1 := rfl
      omega
  · exact Text.after?_eq_some_iff

theorem stubName?_root_below (h : IsMountRoot root) (hname : IsNormalName name) :
    stubName? root (root ++ ("/" : Text) ++ name) = some name :=
  stubName?_below h (if_pos rfl) hname

end

/-- **No path escapes from the mount root.** A path has no name below the root, the empty one, or
one that is made of ordinary names. It has the empty name if its normal form is that of the root,
and another name exactly if its normal form is that of the root with a slash and the name behind
it. So a name is found under the root as the root is written, all spellings of a path have the same
name, and no two names are found at one place. -/
theorem stubName?_inescapable {root : Text} (h : IsMountRoot root) :
    (∀ path, stubName? root path = none ∨ stubName? root path = some ("" : Text) ∨
      ∃ name, IsNormalName name ∧ stubName? root path = some name) ∧
    (∀ path, stubName? root path = some ("" : Text) ↔ normalise path = normalise root) ∧
    (∀ path name : Text, name ≠ "" → (stubName? root path = some name ↔
      normalise path = normalise root ++ ("/" : Text) ++ name)) ∧
    (∀ name, IsNormalName name → stubName? root (root ++ ("/" : Text) ++ name) = some name) ∧
    (∀ path other, Relation.EqvGen Respelled path other →
      stubName? root path = stubName? root other) ∧
    ∀ name other : Text, IsNormalName name → IsNormalName other → name ≠ other →
      normalise (root ++ ("/" : Text) ++ name) ≠ normalise (root ++ ("/" : Text) ++ other) := by
  refine ⟨fun path => ?_, fun path => stubName?_eq_empty_iff h,
    fun path name hne => stubName?_eq_iff_of_ne hne, fun name => stubName?_root_below h,
    fun path other hpath => stubName?_congr (normalise_of_respelled hpath), ?_⟩
  · cases hname : stubName? root path with
    | none => exact Or.inl rfl
    | some name =>
        rcases isNormalName_of_stubName? h hname with rfl | hnormal
        · exact Or.inr (Or.inl rfl)
        · exact Or.inr (Or.inr ⟨name, hnormal, rfl⟩)
  · intro name other hname hother hne hsame
    have hnames : some name = some other :=
      calc some name = stubName? root (root ++ ("/" : Text) ++ name) :=
            (stubName?_root_below h hname).symm
        _ = stubName? root (root ++ ("/" : Text) ++ other) := stubName?_congr hsame
        _ = some other := stubName?_root_below h hother
    exact hne (Option.some.inj hnames)

/-- A root with two slashes in front, a dot and a detour in it: a file is found there however its
path is spelled, and a folder whose name begins like that of the root is no part of it. -/
theorem stubName?_inescapable_detoured :
    IsMountRoot "//srv/x/../stubs/." ∧
      stubName? "//srv/x/../stubs/." ("//srv/stubs/pkg" ++ "//" ++ "old/../m.pyi") =
        some ("pkg/m.pyi" : Text) ∧
      stubName? "//srv/x/../stubs/." "//srv/stubs2/m.pyi" = none := by
  have hroot : IsMountRoot "//srv/x/../stubs/." := ⟨by decide, by decide⟩
  obtain ⟨-, -, hexact, -, hspelled, -⟩ := stubName?_inescapable hroot
  refine ⟨hroot, ?_, ?_⟩
  · have hdetour : Respelled ("//srv/stubs/pkg/" ++ "m.pyi")
        ("//srv/stubs/pkg/" ++ "old/.." ++ "/" ++ "m.pyi") :=
      .detour (Or.inr ⟨"//srv/stubs/pkg", by decide⟩) (Or.inr ⟨"old", by decide, by decide⟩)
        (by decide)
    have hslash : Respelled ("//srv/stubs/pkg" ++ "/" ++ "old/../m.pyi")
        ("//srv/stubs/pkg" ++ "//" ++ "old/../m.pyi") :=
      .slash "old/../m.pyi" ⟨Point.char 's', by decide, by decide⟩
    have hsame : ("//srv/stubs/pkg/" : Text) ++ "old/.." ++ "/" ++ "m.pyi" =
        "//srv/stubs/pkg" ++ "/" ++ "old/../m.pyi" := by decide
    have hplain : normalise ("//srv/stubs/pkg/" ++ "m.pyi") =
        normalise "//srv/x/../stubs/." ++ ("/" : Text) ++ "pkg/m.pyi" := by decide
    rw [hsame] at hdetour
    rw [← hspelled _ _ (.trans _ _ _ (.rel _ _ hdetour) (.rel _ _ hslash))]
    exact (hexact _ "pkg/m.pyi" (by decide)).mpr hplain
  · have hmounted : normalise "//srv/x/../stubs/." = "//srv/stubs" := by decide
    have hbeside : normalise "//srv/stubs2/m.pyi" = "//srv/stubs2/m.pyi" := by decide
    unfold stubName?
    rw [hmounted, hbeside]
    decide

end Casebook.Mount

import Casebook.Disk.Path
import Casebook.Proofs.Text.Split

/-!
# Normal forms of paths

The normal form of an absolute path writes its root and ordinary names, and reading it gives
the same path back. Main statement (`collapsed_below`): below a path that is not the root itself,
ordinary names stand behind the names of its normal form, and no dots in the path reach
them.
-/

namespace Casebook.Disk

/-- A name that can be written between slashes and is read again. -/
structure IsPlain (name : Text) : Prop where
  ne_empty : name ≠ ""
  ne_dot : name ≠ "."
  isFree : Text.IsFree name

/-- The name of one file or folder: not empty, without slashes, neither one dot nor two. -/
structure IsOrdinary (name : Text) : Prop extends IsPlain name where
  ne_dots : name ≠ ".."

instance (name : Text) : Decidable (IsOrdinary name) :=
  decidable_of_iff (name ≠ "" ∧ name ≠ "." ∧ Point.char '/' ∉ name.points ∧ name ≠ "..")
    ⟨fun h => ⟨⟨h.1, h.2.1, h.2.2.1⟩, h.2.2.2⟩,
      fun h => ⟨h.ne_empty, h.ne_dot, h.isFree, h.ne_dots⟩⟩

/-- A relative path in its normal form: ordinary names between single slashes. -/
def IsNormalName (text : Text) : Prop := ∀ name ∈ Text.split '/' text, IsOrdinary name

instance (text : Text) : Decidable (IsNormalName text) :=
  inferInstanceAs (Decidable (∀ name ∈ Text.split '/' text, IsOrdinary name))

theorem isIdle_iff {name : Text} : isIdle name = true ↔ name = "" ∨ name = "." := by
  simp [isIdle]

theorem IsPlain.isIdle_eq_false {name : Text} (h : IsPlain name) : isIdle name = false := by
  rw [← Bool.not_eq_true, isIdle_iff, not_or]
  exact ⟨h.ne_empty, h.ne_dot⟩

theorem IsOrdinary.isNormalName {name : Text} (h : IsOrdinary name) : IsNormalName name := by
  unfold IsNormalName
  rw [Text.split_of_isFree h.isFree]
  simpa using h

theorem IsNormalName.ne_empty {text : Text} (h : IsNormalName text) : text ≠ "" := by
  rintro rfl
  exact (h "" (by decide)).ne_empty rfl

theorem isNormalName_joined {names : List Text} (hne : names ≠ [])
    (h : ∀ name ∈ names, IsOrdinary name) : IsNormalName (Text.joined "/" names) := by
  unfold IsNormalName
  rw [Text.split_joined hne fun name hname => (h name hname).isFree]
  exact h

/-! ## Reading paths -/

theorem mem_namesOf_iff {text name : Text} :
    name ∈ namesOf text ↔ name ∈ Text.split '/' text ∧ name ≠ "" ∧ name ≠ "." := by
  unfold namesOf
  rw [List.mem_filter, Bool.not_eq_true', ← Bool.not_eq_true, isIdle_iff, not_or]

theorem isPlain_of_mem_namesOf {text name : Text} (h : name ∈ namesOf text) : IsPlain name := by
  obtain ⟨hsplit, hempty, hdot⟩ := mem_namesOf_iff.mp h
  exact ⟨hempty, hdot, Text.isFree_of_mem_split hsplit⟩

theorem IsNormalName.namesOf_eq {text : Text} (h : IsNormalName text) :
    namesOf text = Text.split '/' text := by
  apply List.filter_eq_self.mpr
  intro name hname
  rw [(h name hname).isIdle_eq_false, Bool.not_false]

theorem namesOf_append (text more : Text) :
    namesOf (text ++ ("/" : Text) ++ more) = namesOf text ++ namesOf more := by
  unfold namesOf
  rw [Text.split_append, List.filter_append]

/-- What stands behind the first point that is no slash has no say in the root. -/
theorem rootOf_append {text : Text} (h : ∃ q ∈ text.points, q ≠ Point.char '/') (more : Text) :
    rootOf (text ++ more) = rootOf text := by
  obtain ⟨ps⟩ := text
  obtain ⟨qs⟩ := more
  obtain ⟨q, hq, hne⟩ := h
  show rootOf ⟨ps ++ qs⟩ = rootOf ⟨ps⟩
  rcases ps with _ | ⟨a, _ | ⟨b, _ | ⟨c, ps⟩⟩⟩
  · simp at hq
  · obtain rfl := List.mem_singleton.mp hq
    simp [rootOf, hne]
  · by_cases ha : a = Point.char '/'
    · subst ha
      have hb : b ≠ Point.char '/' := by
        simp only [List.mem_cons, List.not_mem_nil, or_false] at hq
        rcases hq with rfl | rfl <;> [exact absurd rfl hne; exact hne]
      simp [rootOf, hb]
    · simp [rootOf, ha]
  · by_cases ha : a = Point.char '/'
    · subst ha
      by_cases hb : b = Point.char '/'
      · subst hb
        by_cases hc : c = Point.char '/'
        · subst hc
          rfl
        · simp [rootOf, hc]
      · simp [rootOf, hb]
    · simp [rootOf, ha]

theorem ofText_below {text : Text} (h : namesOf text ≠ []) (more : Text) :
    Path.ofText (text ++ ("/" : Text) ++ more) = ⟨rootOf text, namesOf text ++ namesOf more⟩ := by
  -- a name has a point that is no slash, so the root is settled before the text ends
  obtain ⟨name, hname⟩ := List.exists_mem_of_ne_nil _ h
  obtain ⟨hsplit, hempty, -⟩ := mem_namesOf_iff.mp hname
  have hpoint : ∃ q ∈ text.points, q ≠ Point.char '/' := by
    have hpoints : name.points ≠ [] := fun hnil => hempty (congrArg Text.mk hnil)
    obtain ⟨q, hq⟩ := List.exists_mem_of_ne_nil _ hpoints
    refine ⟨q, Text.mem_of_mem_split hsplit hq, ?_⟩
    rintro rfl
    exact Text.isFree_of_mem_split hsplit hq
  unfold Path.ofText
  rw [namesOf_append, Text.append_assoc, rootOf_append hpoint]

/-! ## Taking names back -/

/-- The names read so far, in reverse order, after one more name. -/
def afterName (rooted : Bool) (read : List Text) (name : Text) : List Text :=
  if name = ".." then
    match read with
    | [] => if rooted then [] else [name]
    | last :: before => if last = ".." then name :: read else before
  else name :: read

theorem collapse_eq_foldl (rooted : Bool) (read names : List Text) :
    collapse rooted read names = (names.foldl (afterName rooted) read).reverse := by
  induction names generalizing read with
  | nil => rfl
  | cons name names ih =>
      rw [List.foldl_cons, ← ih]
      unfold afterName
      cases read with
      | nil =>
          rw [collapse]
          split <;> rfl
      | cons last before =>
          rw [collapse]
          dsimp only
          by_cases hname : name = ".."
          · rw [if_pos hname, if_pos hname]
            split <;> rfl
          · rw [if_neg hname, if_neg hname]

theorem collapse_append (rooted : Bool) (names more : List Text) :
    collapse rooted [] (names ++ more) =
      collapse rooted (collapse rooted [] names).reverse more := by
  simp only [collapse_eq_foldl, List.foldl_append, List.reverse_reverse]

theorem mem_afterName {rooted : Bool} {read : List Text} {name n : Text}
    (h : n ∈ afterName rooted read name) : n ∈ read ∨ n = name := by
  unfold afterName at h
  split at h
  · split at h
    · split at h <;> simp_all
    · split at h
      · rcases List.mem_cons.mp h with rfl | h
        · exact Or.inr rfl
        · exact Or.inl h
      · exact Or.inl (List.mem_cons_of_mem _ h)
  · rcases List.mem_cons.mp h with rfl | h
    · exact Or.inr rfl
    · exact Or.inl h

theorem mem_of_mem_collapse {rooted : Bool} {read names : List Text} {n : Text}
    (h : n ∈ collapse rooted read names) : n ∈ read ∨ n ∈ names := by
  induction names generalizing read with
  | nil => exact Or.inl (List.mem_reverse.mp h)
  | cons name names ih =>
      rw [collapse_eq_foldl, List.foldl_cons, ← collapse_eq_foldl] at h
      rcases ih h with h | h
      · rcases mem_afterName h with h | rfl
        · exact Or.inl h
        · exact Or.inr List.mem_cons_self
      · exact Or.inr (List.mem_cons_of_mem name h)

/-- Below a root no two dots are left. -/
theorem dots_not_mem_collapse {read : List Text} (hread : (".." : Text) ∉ read)
    (names : List Text) : (".." : Text) ∉ collapse true read names := by
  induction names generalizing read with
  | nil => rwa [collapse, List.mem_reverse]
  | cons name names ih =>
      rw [collapse_eq_foldl, List.foldl_cons, ← collapse_eq_foldl]
      apply ih
      unfold afterName
      split
      · split
        · simp
        · simp only [List.mem_cons, not_or] at hread
          rw [if_neg (Ne.symm hread.1)]
          exact hread.2
      · next hne =>
        simp only [List.mem_cons, not_or]
        exact ⟨Ne.symm hne, hread⟩

theorem collapse_of_not_mem (rooted : Bool) (read : List Text) {names : List Text}
    (h : (".." : Text) ∉ names) : collapse rooted read names = read.reverse ++ names := by
  induction names generalizing read with
  | nil => simp [collapse]
  | cons name names ih =>
      simp only [List.mem_cons, not_or] at h
      have hname : afterName rooted read name = name :: read := if_neg (Ne.symm h.1)
      rw [collapse_eq_foldl, List.foldl_cons, ← collapse_eq_foldl, hname, ih _ h.2]
      simp

/-! ## Normal forms -/

theorem isPlain_of_mem_collapsed {text name : Text}
    (hname : name ∈ (Path.ofText text).collapsed.names) : IsPlain name := by
  rcases mem_of_mem_collapse hname with hname | hname
  · simp at hname
  · exact isPlain_of_mem_namesOf hname

/-- Below a root the names of a normal form are ordinary. -/
theorem isOrdinary_of_mem_collapsed {text name : Text}
    (habs : (Path.ofText text).isAbsolute = true)
    (h : name ∈ (Path.ofText text).collapsed.names) : IsOrdinary name := by
  refine ⟨isPlain_of_mem_collapsed h, ?_⟩
  rintro rfl
  unfold Path.collapsed at h
  rw [habs] at h
  exact dots_not_mem_collapse (by simp) _ h

theorem namesOf_joined {names : List Text}
    (h : ∀ name ∈ names, IsPlain name) :
    namesOf (Text.joined "/" names) = names := by
  cases names with
  | nil => decide
  | cons name names =>
      unfold namesOf
      rw [Text.split_joined (by simp) fun n hn => (h n hn).isFree]
      apply List.filter_eq_self.mpr
      intro n hn
      rw [(h n hn).isIdle_eq_false, Bool.not_false]

/-- Names that are joined begin with a point of the first of them, which is no slash. -/
theorem exists_points_joined {names : List Text} (hne : names ≠ [])
    (h : ∀ name ∈ names, IsPlain name) :
    ∃ q ps, (Text.joined "/" names).points = q :: ps ∧ q ≠ Point.char '/' := by
  obtain ⟨name, names, rfl⟩ := List.exists_cons_of_ne_nil hne
  obtain ⟨hempty, -, hfree⟩ := h name List.mem_cons_self
  obtain ⟨points⟩ := name
  cases points with
  | nil => exact absurd rfl hempty
  | cons q ps =>
      have hq : q ≠ Point.char '/' := fun heq => hfree (heq ▸ List.mem_cons_self)
      cases names with
      | nil => exact ⟨q, ps, by rw [Text.joined_singleton], hq⟩
      | cons next names => exact ⟨q, _, by rw [Text.joined_cons (by simp)]; rfl, hq⟩

/-- Reading the text of a path gives the path back. -/
theorem ofText_text {p : Path} (h : ∀ name ∈ p.names, IsPlain name) : Path.ofText p.text = p := by
  obtain ⟨root, names⟩ := p
  have hnames : namesOf (Text.joined "/" names) = names := namesOf_joined h
  cases root with
  | relative =>
      cases names with
      | nil => rfl
      | cons name names =>
          obtain ⟨q, ps, hpoints, hq⟩ := exists_points_joined (by simp) h
          have htext : (Path.mk .relative (name :: names)).text =
              Text.joined "/" (name :: names) := rfl
          unfold Path.ofText
          rw [htext, hnames]
          simp [rootOf, hpoints, hq]
  | slash =>
      have htext : (Path.mk .slash names).text = "" ++ ("/" : Text) ++ Text.joined "/" names := rfl
      unfold Path.ofText
      rw [htext, namesOf_append, hnames]
      refine congrArg (Path.mk · names) ?_
      show rootOf ⟨Point.char '/' :: (Text.joined "/" names).points⟩ = .slash
      by_cases hne : names = []
      · rw [hne]
        rfl
      · obtain ⟨q, ps, hpoints, hq⟩ := exists_points_joined hne h
        simp [rootOf, hpoints, hq]
  | twoSlashes =>
      have htext : (Path.mk .twoSlashes names).text =
          "/" ++ ("/" : Text) ++ Text.joined "/" names := by
        show Text.ofString "//" ++ _ = _
        rw [show Text.ofString "//" = "/" ++ ("/" : Text) by decide]
      unfold Path.ofText
      rw [htext, namesOf_append, hnames]
      refine congrArg (Path.mk · names) ?_
      show rootOf ⟨Point.char '/' :: Point.char '/' :: (Text.joined "/" names).points⟩ = .twoSlashes
      by_cases hne : names = []
      · rw [hne]
        rfl
      · obtain ⟨q, ps, hpoints, hq⟩ := exists_points_joined hne h
        simp [rootOf, hpoints, hq]

theorem text_inj {p q : Path} (hp : ∀ name ∈ p.names, IsPlain name)
    (hq : ∀ name ∈ q.names, IsPlain name) : p.text = q.text ↔ p = q := by
  constructor
  · intro h
    rw [← ofText_text hp, h, ofText_text hq]
  · rintro rfl
    rfl

theorem collapsed_text {p : Path} (h : ∀ name ∈ p.names, IsOrdinary name) :
    (Path.ofText p.text).collapsed = p := by
  rw [ofText_text fun name hname => (h name hname).toIsPlain]
  unfold Path.collapsed
  rw [collapse_of_not_mem _ _ fun hmem => (h _ hmem).ne_dots rfl]
  rfl

/-- Taking the normal form again changes nothing. -/
theorem normalise_normalise {text : Text} (habs : (Path.ofText text).isAbsolute = true) :
    normalise (normalise text) = normalise text := by
  exact congrArg Path.text (collapsed_text fun name => isOrdinary_of_mem_collapsed habs)

/-- **Ordinary names below a path stand behind the names of its normal form.** -/
theorem collapsed_below {text name : Text} (hne : (Path.ofText text).collapsed.names ≠ [])
    (h : IsNormalName name) :
    (Path.ofText (text ++ ("/" : Text) ++ name)).collapsed =
      ⟨(Path.ofText text).root, (Path.ofText text).collapsed.names ++ Text.split '/' name⟩ := by
  have hnames : namesOf text ≠ [] := by
    intro hnil
    apply hne
    unfold Path.collapsed Path.ofText
    rw [hnil]
    rfl
  -- without two dots nothing is taken back
  have hdots : (".." : Text) ∉ Text.split '/' name := fun hmem => (h _ hmem).ne_dots rfl
  rw [ofText_below hnames, h.namesOf_eq]
  unfold Path.collapsed Path.ofText
  dsimp only
  rw [collapse_append, collapse_of_not_mem _ _ hdots, List.reverse_reverse]
  rfl

end Casebook.Disk

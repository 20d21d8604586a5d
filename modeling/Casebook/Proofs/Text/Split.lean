import Casebook.Text.Affix
import Casebook.Text.Lines
import Mathlib

/-!
# Putting texts together and taking them apart

Texts are taken apart at slashes into names that are free of them, and exactly such names
come back when they are joined (`split_joined`). A text that begins with another one
is that one and a rest (`after?_eq_some_iff`).
-/

namespace Casebook.Text

/-! ## Appending -/

theorem append_assoc (s t u : Text) : s ++ t ++ u = s ++ (t ++ u) :=
  congrArg Text.mk (List.append_assoc s.points t.points u.points)

theorem append_left_inj {s t u : Text} : s ++ t = s ++ u ↔ t = u := by
  obtain ⟨ps⟩ := s
  obtain ⟨qs⟩ := t
  obtain ⟨rs⟩ := u
  show Text.mk (ps ++ qs) = Text.mk (ps ++ rs) ↔ _
  simp

theorem length_append (s t : Text) : (s ++ t).length = s.length + t.length :=
  List.length_append

theorem ofString_append (s t : String) : ofString (s ++ t) = ofString s ++ ofString t := by
  unfold ofString ofChars
  rw [String.toList_append, List.map_append]
  rfl

theorem isEmpty_iff {t : Text} : t.isEmpty = true ↔ t = Text.ofString "" := by
  obtain ⟨ps⟩ := t
  show ps.isEmpty = true ↔ Text.mk ps = Text.mk []
  simp

theorem isEmpty_eq_false {t : Text} (h : t ≠ Text.ofString "") : t.isEmpty = false := by
  rw [← Bool.not_eq_true, isEmpty_iff]
  exact h

theorem begins_iff {start t : Text} : begins start t = true ↔ ∃ rest, t = start ++ rest := by
  obtain ⟨ps⟩ := start
  obtain ⟨qs⟩ := t
  unfold begins
  rw [List.isPrefixOf_iff_prefix]
  constructor
  · rintro ⟨rs, rfl⟩
    exact ⟨⟨rs⟩, rfl⟩
  · rintro ⟨⟨rs⟩, h⟩
    exact ⟨rs, (congrArg Text.points h).symm⟩

theorem ends_iff {ending t : Text} : ends ending t = true ↔ ∃ stem, t = stem ++ ending := by
  unfold ends
  rw [List.isSuffixOf_iff_suffix]
  constructor
  · rintro ⟨ps, hps⟩
    exact ⟨⟨ps⟩, congrArg Text.mk hps.symm⟩
  · rintro ⟨stem, rfl⟩
    exact ⟨stem.points, rfl⟩

theorem after?_append (start rest : Text) : after? start (start ++ rest) = some rest := by
  unfold after?
  rw [if_pos (begins_iff.mpr ⟨rest, rfl⟩)]
  obtain ⟨ps⟩ := start
  obtain ⟨qs⟩ := rest
  show some (Text.mk ((ps ++ qs).drop ps.length)) = _
  rw [List.drop_left]

theorem after?_eq_some_iff {start t rest : Text} :
    after? start t = some rest ↔ t = start ++ rest := by
  constructor
  · intro h
    exact (append_of_after? h).symm
  · rintro rfl
    exact after?_append start rest

/-! ## Taking apart -/

section
variable {α : Type} [DecidableEq α] {sep : α}

theorem splitAt_eq_splitOn (as : List α) : splitAt sep as = as.splitOn sep := by
  induction as with
  | nil => rfl
  | cons a as ih =>
      rw [splitAt, List.splitOn_cons_eq_if_modifyHead, ih]
      by_cases h : a = sep
      · rw [if_pos h, if_pos (beq_iff_eq.mpr h)]
      · rw [if_neg h, if_neg (by simpa using h)]
        obtain ⟨piece, pieces, hpieces⟩ := List.exists_cons_of_ne_nil (List.splitOn_ne_nil sep as)
        rw [hpieces]
        rfl

theorem splitAt_cons_cases (a : α) (as : List α) :
    (a = sep ∧ splitAt sep (a :: as) = [] :: splitAt sep as) ∨
      (a ≠ sep ∧ ∃ piece pieces, splitAt sep as = piece :: pieces ∧
        splitAt sep (a :: as) = (a :: piece) :: pieces) := by
  by_cases h : a = sep
  · exact Or.inl ⟨h, by rw [splitAt, if_pos h]⟩
  · obtain ⟨piece, pieces, hpieces⟩ := List.exists_cons_of_ne_nil (List.splitOn_ne_nil sep as)
    rw [← splitAt_eq_splitOn] at hpieces
    exact Or.inr ⟨h, piece, pieces, hpieces, by rw [splitAt, if_neg h, hpieces]⟩

theorem not_mem_of_mem_splitAt {as piece : List α} (h : piece ∈ splitAt sep as) : sep ∉ piece := by
  induction as generalizing piece with
  | nil =>
      rw [splitAt, List.mem_singleton] at h
      simp [h]
  | cons a as ih =>
      rcases splitAt_cons_cases a as with ⟨-, heq⟩ | ⟨ha, first, pieces, hrest, heq⟩
      · rw [heq] at h
        rcases List.mem_cons.mp h with rfl | h
        · simp
        · exact ih h
      · rw [heq] at h
        rw [hrest] at ih
        rcases List.mem_cons.mp h with rfl | h
        · simp only [List.mem_cons, not_or]
          exact ⟨Ne.symm ha, ih List.mem_cons_self⟩
        · exact ih (List.mem_cons_of_mem first h)

theorem mem_of_mem_splitAt {as piece : List α} (h : piece ∈ splitAt sep as) {a : α}
    (ha : a ∈ piece) : a ∈ as := by
  induction as generalizing piece with
  | nil =>
      rw [splitAt, List.mem_singleton] at h
      simp [h] at ha
  | cons b as ih =>
      rcases splitAt_cons_cases b as with ⟨-, heq⟩ | ⟨-, first, pieces, hrest, heq⟩
      · rw [heq] at h
        rcases List.mem_cons.mp h with rfl | h
        · simp at ha
        · exact List.mem_cons_of_mem b (ih h ha)
      · rw [heq] at h
        rw [hrest] at ih
        rcases List.mem_cons.mp h with rfl | h
        · rcases List.mem_cons.mp ha with rfl | ha
          · exact List.mem_cons_self
          · exact List.mem_cons_of_mem b (ih List.mem_cons_self ha)
        · exact List.mem_cons_of_mem b (ih (List.mem_cons_of_mem first h) ha)

end

theorem split_of_not_mem {sep : Char} {t : Text} (h : Point.char sep ∉ t.points) :
    split sep t = [t] := by
  unfold split
  rw [splitAt_eq_splitOn, List.splitOn_eq_singleton h]
  rfl

/-- Pieces without the separator come back when they are joined and taken apart. -/
theorem split_joined_of_not_mem {sep : Char} {pieces : List Text} (hne : pieces ≠ [])
    (h : ∀ piece ∈ pieces, Point.char sep ∉ piece.points) :
    split sep (joined (ofChars [sep]) pieces) = pieces := by
  show (splitAt (Point.char sep)
    (List.intercalate [Point.char sep] (pieces.map points))).map Text.mk = pieces
  have hfree : ∀ piece ∈ pieces.map points, Point.char sep ∉ piece := by simpa using h
  rw [splitAt_eq_splitOn, List.splitOn_intercalate _ hfree (by simpa using hne), List.map_map]
  exact List.map_id pieces

/-! ## Names between slashes -/

/-- There is no slash in the text. -/
def IsFree (t : Text) : Prop := Point.char '/' ∉ t.points

theorem split_append (s t : Text) :
    split '/' (s ++ Text.ofString "/" ++ t) = split '/' s ++ split '/' t := by
  obtain ⟨ps⟩ := s
  obtain ⟨qs⟩ := t
  show (splitAt (Point.char '/') (ps ++ [Point.char '/'] ++ qs)).map Text.mk = _
  rw [List.append_assoc, List.singleton_append, splitAt_eq_splitOn,
    List.splitOn_append_cons_self, List.map_append, ← splitAt_eq_splitOn, ← splitAt_eq_splitOn]
  rfl

theorem split_ne_nil (t : Text) : split '/' t ≠ [] := by
  unfold split
  rw [splitAt_eq_splitOn]
  simp

theorem split_of_isFree {t : Text} (h : IsFree t) : split '/' t = [t] := split_of_not_mem h

theorem isFree_of_mem_split {t piece : Text} (h : piece ∈ split '/' t) : IsFree piece := by
  obtain ⟨ps, hps, rfl⟩ := List.mem_map.mp h
  exact not_mem_of_mem_splitAt hps

theorem mem_of_mem_split {t piece : Text} (h : piece ∈ split '/' t) {q : Point}
    (hq : q ∈ piece.points) : q ∈ t.points := by
  obtain ⟨ps, hps, rfl⟩ := List.mem_map.mp h
  exact mem_of_mem_splitAt hps hq

theorem split_joined {names : List Text} (hne : names ≠ []) (h : ∀ name ∈ names, IsFree name) :
    split '/' (joined (Text.ofString "/") names) = names :=
  split_joined_of_not_mem hne h

theorem joined_split (t : Text) : joined (Text.ofString "/") (split '/' t) = t := by
  obtain ⟨ps⟩ := t
  show Text.mk (List.intercalate [Point.char '/']
    (((splitAt (Point.char '/') ps).map Text.mk).map points)) = Text.mk ps
  have hmap : ((splitAt (Point.char '/') ps).map Text.mk).map points =
      splitAt (Point.char '/') ps := by
    rw [List.map_map]
    exact List.map_id _
  rw [hmap, splitAt_eq_splitOn, List.intercalate_splitOn]

theorem joined_singleton {separator : Text} (name : Text) : joined separator [name] = name :=
  congrArg Text.mk (by simp)

theorem joined_cons {separator : Text} {more : List Text} (hmore : more ≠ []) (name : Text) :
    joined separator (name :: more) = name ++ separator ++ joined separator more :=
  congrArg Text.mk (List.intercalate_cons_of_ne_nil (by simpa using hmore))

theorem joined_append {separator : Text} {names more : List Text} (hnames : names ≠ [])
    (hmore : more ≠ []) :
    joined separator (names ++ more) =
      joined separator names ++ separator ++ joined separator more := by
  induction names with
  | nil => exact absurd rfl hnames
  | cons name names ih =>
      cases names with
      | nil => rw [List.singleton_append, joined_cons hmore, joined_singleton]
      | cons next names =>
          have hrest : next :: names ≠ [] := List.cons_ne_nil next names
          rw [List.cons_append, joined_cons (List.append_ne_nil_of_left_ne_nil hrest more),
            ih hrest, joined_cons hrest]
          simp only [append_assoc]

theorem mem_joined {separator : Text} {names : List Text} {q : Point}
    (h : q ∈ (joined separator names).points) :
    q ∈ separator.points ∨ ∃ name ∈ names, q ∈ name.points := by
  induction names with
  | nil => cases h
  | cons name names ih =>
      cases names with
      | nil =>
          rw [joined_singleton] at h
          exact Or.inr ⟨name, List.mem_cons_self, h⟩
      | cons next names =>
          rw [joined_cons (List.cons_ne_nil next names), points_append, points_append,
            List.mem_append, List.mem_append] at h
          rcases h with (h | h) | h
          · exact Or.inr ⟨name, List.mem_cons_self, h⟩
          · exact Or.inl h
          · exact (ih h).imp_right fun ⟨n, hn, hq⟩ => ⟨n, List.mem_cons_of_mem name hn, hq⟩

/-- The first name of a text is the text, or what stands before its first slash. -/
theorem headD_split_eq_iff {t name : Text} :
    (split '/' t).headD (Text.ofString "") = name ↔
      IsFree name ∧ (t = name ∨ ∃ rest, t = name ++ Text.ofString "/" ++ rest) := by
  constructor
  · rintro rfl
    obtain ⟨name, names, hsplit⟩ := List.exists_cons_of_ne_nil (split_ne_nil t)
    rw [hsplit, List.headD_cons]
    refine ⟨isFree_of_mem_split (t := t) (hsplit ▸ List.mem_cons_self), ?_⟩
    have ht := joined_split t
    rw [hsplit] at ht
    cases names with
    | nil =>
        rw [joined_singleton] at ht
        exact Or.inl ht.symm
    | cons next names =>
        refine Or.inr ⟨joined (Text.ofString "/") (next :: names), ?_⟩
        rw [← ht, joined_cons (by simp)]
  · rintro ⟨hfree, rfl | ⟨rest, rfl⟩⟩
    · rw [split_of_isFree hfree, List.headD_cons]
    · rw [split_append, split_of_isFree hfree, List.singleton_append, List.headD_cons]

end Casebook.Text

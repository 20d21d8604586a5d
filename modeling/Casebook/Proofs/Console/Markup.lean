import Casebook.Console.Markup
import Casebook.Proofs.Console.Wrap
import Casebook.Proofs.Outcome

/-!
# What markup leaves of a text

Reading a text as markup drops tags, some backslashes and some controls. It neither adds points nor
changes their order (`shownOf_sublist`).

Main statement (`ofMarkup_eq_plain_iff`): the text is left as it is, without styles, if and only if
there is no tag in it, no backslash right in front of a bracket, and none of these controls.
-/

namespace Casebook.Console

open Text

/-- Nothing is read as markup: there is no tag, and no backslash right in front of a bracket. -/
structure IsUnmarked (ps : List Point) : Prop where
  noTag : ∀ rest ∈ ps.tails, tagAt? rest = none
  noMark : ¬ [Point.char '\\', Point.char '['] <:+: ps

instance : DecidablePred IsUnmarked := fun ps =>
  decidable_of_iff
    ((∀ rest ∈ ps.tails, tagAt? rest = none) ∧ ¬ [Point.char '\\', Point.char '['] <:+: ps)
    ⟨fun h => ⟨h.1, h.2⟩, fun h => ⟨h.1, h.2⟩⟩

theorem isUnmarked_cons {p : Point} {rest : List Point} : IsUnmarked (p :: rest) ↔
    tagAt? (p :: rest) = none ∧ ¬ (p = Point.char '\\' ∧ rest.head? = some (Point.char '[')) ∧
      IsUnmarked rest := by
  have hmark : [Point.char '\\', Point.char '['] <+: p :: rest ↔
      p = Point.char '\\' ∧ rest.head? = some (Point.char '[') := by
    cases rest <;> simp [List.cons_prefix_cons, eq_comm]
  constructor
  · rintro ⟨hnoTag, hnoMark⟩
    rw [List.tails_cons, List.forall_mem_cons] at hnoTag
    rw [List.infix_cons_iff, not_or, hmark] at hnoMark
    exact ⟨hnoTag.1, hnoMark.1, hnoTag.2, hnoMark.2⟩
  · rintro ⟨htag, hno, hnoTag, hnoMark⟩
    constructor
    · rw [List.tails_cons, List.forall_mem_cons]
      exact ⟨htag, hnoTag⟩
    · rw [List.infix_cons_iff, not_or, hmark]
      exact ⟨hno, hnoMark⟩

/-- What a piece shows. -/
def Piece.points : Piece → List Point
  | .shown ps => ps
  | .tag _ _ => []

/-- What the pieces of marked-up text show. -/
def shownOf (position : Nat) (ps : List Point) : List Point :=
  (piecesOf position ps).flatMap Piece.points

/-! ## Tags -/

theorem tagAt?_eq_some {ps tag tail : List Point} (h : tagAt? ps = some (tag, tail)) :
    ps = Point.char '[' :: tag ++ Point.char ']' :: tail := by
  unfold tagAt? at h
  split at h
  · next p ps =>
    split at h
    · cases h
    · split at h
      · next rest heq =>
        cases h
        have hsplit := @List.takeWhile_append_dropWhile _ isTagPoint ps
        rw [heq] at hsplit
        rw [List.cons_append, List.cons_append, hsplit]
      · cases h
  · cases h

/-- A tag begins with a bracket. -/
theorem tagAt?_of_ne {p : Point} (h : p ≠ Point.char '[') (rest : List Point) :
    tagAt? (p :: rest) = none := by
  cases htag : tagAt? (p :: rest) with
  | none => rfl
  | some found =>
      have hsplit := tagAt?_eq_some htag
      rw [List.cons_append, List.cons.injEq] at hsplit
      exact absurd hsplit.1 h

theorem tagAt?_dropWhile {p : Point} {rest : List Point}
    (h : tagAt? ((p :: rest).dropWhile (· = Point.char '\\')) = none) :
    tagAt? (p :: rest) = none := by
  by_cases hp : p = Point.char '\\'
  · subst hp
    exact tagAt?_of_ne (by decide) rest
  · rwa [List.dropWhile_cons_of_neg (by simpa using hp)] at h

theorem takeWhile_eq_replicate (q : Point) (ps : List Point) :
    ps.takeWhile (· = q) = List.replicate (ps.takeWhile (· = q)).length q :=
  List.eq_replicate_of_mem fun p hp => by simpa using List.mem_takeWhile_imp hp

/-- **How a text goes on**: with a tag behind some backslashes, or with one point. A tag is shown if
the number of the backslashes is odd, and a backslash right in front of a bracket is not. -/
theorem shownOf_cons (position : Nat) (p : Point) (rest : List Point) :
    (∃ n tag tail next,
      p :: rest = List.replicate n (Point.char '\\') ++
        (Point.char '[' :: tag ++ Point.char ']' :: tail) ∧
      shownOf position (p :: rest) = List.replicate (n / 2) (Point.char '\\') ++
        ((if n % 2 = 1 then Point.char '[' :: tag ++ [Point.char ']'] else []) ++
          shownOf next tail)) ∨
    (tagAt? (p :: rest) = none ∧
      shownOf position (p :: rest) =
        (if p = Point.char '\\' ∧ rest.head? = some (Point.char '[') then [] else [p]) ++
          shownOf (position + 1) rest) := by
  have hsplit := @List.takeWhile_append_dropWhile _ (· = Point.char '\\') (p :: rest)
  rw [takeWhile_eq_replicate] at hsplit
  unfold shownOf
  rw [piecesOf]
  dsimp only
  generalize ((p :: rest).takeWhile (· = Point.char '\\')).length = n at *
  split
  · next tag tail htag =>
    rw [tagAt?_eq_some htag] at hsplit
    refine Or.inl ⟨n, tag, tail, position + n + tag.length + 2, hsplit.symm, ?_⟩
    split
    · simp only [List.flatMap_cons, Piece.points, List.append_assoc]
    · simp only [List.flatMap_cons, Piece.points, List.nil_append]
  · next htag =>
    refine Or.inr ⟨tagAt?_dropWhile htag, ?_⟩
    rw [List.flatMap_cons]
    simp [Piece.points]

/-! ## What is shown -/

/-- **Markup only drops points.** -/
theorem shownOf_sublist (position : Nat) (ps : List Point) : (shownOf position ps).Sublist ps := by
  induction hlength : ps.length using Nat.strong_induction_on generalizing position ps with
  | _ length ih =>
      cases ps with
      | nil =>
          unfold shownOf
          rw [piecesOf, List.flatMap_nil]
      | cons p rest =>
          subst hlength
          rcases shownOf_cons position p rest with
            ⟨n, tag, tail, next, hsplit, hshown⟩ | ⟨-, hshown⟩
          · have hshorter : tail.length < (p :: rest).length := by
              rw [hsplit]
              simp only [List.length_append, List.length_cons]
              omega
            rw [hshown, hsplit]
            refine .append (List.replicate_sublist_replicate _ |>.mpr (Nat.div_le_self n 2)) ?_
            have htail := ih _ hshorter next tail rfl
            split
            · rw [List.append_assoc]
              exact .append (.refl _) (.cons_cons _ htail)
            · exact (htail.cons _).trans (List.sublist_append_right _ _)
          · have hrest := ih _ (Nat.lt_succ_self _) (position + 1) rest rfl
            rw [hshown]
            split
            · exact hrest.cons p
            · exact hrest.cons_cons p

/-- A text of which nothing is dropped is not marked. -/
theorem isUnmarked_of_shownOf {position : Nat} {ps : List Point} (h : shownOf position ps = ps) :
    IsUnmarked ps := by
  induction ps generalizing position with
  | nil => decide
  | cons p rest ih =>
      rcases shownOf_cons position p rest with ⟨n, tag, tail, next, hsplit, hshown⟩ | ⟨htag, hshown⟩
      · -- of a tag a bracket or a backslash is dropped
        have hle := (shownOf_sublist next tail).length_le
        have hlength := congrArg List.length (hshown.symm.trans (h.trans hsplit))
        simp only [List.length_append, List.length_cons, List.length_replicate] at hlength
        split at hlength
        · simp only [List.length_append, List.length_cons, List.length_nil] at hlength
          omega
        · simp only [List.length_nil] at hlength
          omega
      · rw [h] at hshown
        split at hshown
        · have hle := (shownOf_sublist (position + 1) rest).length_le
          rw [List.nil_append] at hshown
          rw [← hshown, List.length_cons] at hle
          omega
        · next hmark =>
          rw [List.singleton_append, List.cons.injEq] at hshown
          exact isUnmarked_cons.mpr ⟨htag, hmark, ih hshown.2.symm⟩

theorem piecesOf_of_isUnmarked {ps : List Point} (h : IsUnmarked ps) (position : Nat) :
    piecesOf position ps = ps.map fun p => .shown [p] := by
  induction ps generalizing position with
  | nil => rw [piecesOf, List.map_nil]
  | cons p rest ih =>
      obtain ⟨htag, hmark, hrest⟩ := isUnmarked_cons.mp h
      have hafter : tagAt? ((p :: rest).dropWhile (· = Point.char '\\')) = none := by
        have hmem := (List.dropWhile_suffix (· = Point.char '\\') : _ <:+ p :: rest)
        exact h.noTag _ ((List.mem_tails _ _).mpr hmem)
      rw [piecesOf, List.map_cons, ← ih hrest (position + 1)]
      dsimp only
      split
      · next htag' =>
        rw [hafter] at htag'
        cases htag'
      · simp [hmark]

/-! ## Reading pieces -/

namespace Reading

theorem points_of_leave {r r' : Reading} {levels : Nat} {t : OpenTag} {opened : List OpenTag}
    (h : r.leave levels t opened = .ok r') : r'.points = r.points := by
  obtain ⟨span, -, hspan⟩ := bind_eq_ok h
  cases hspan
  rfl

theorem points_of_enter {r r' : Reading} {tag : Text} (h : r.enter tag = .ok r') :
    r'.points = r.points := by
  obtain ⟨name, -, hname⟩ := bind_eq_ok h
  cases hname
  rfl

/-- Tags add nothing to the text. -/
theorem points_of_follow {r r' : Reading} {levels : Nat} {tag : Text} {position : Nat}
    (h : r.follow levels tag position = .ok r') : r'.points = r.points := by
  unfold follow at h
  split at h
  · exact points_of_enter h
  · split at h
    · split at h
      · exact points_of_leave h
      · cases h
    · obtain ⟨written, -, hopened⟩ := bind_eq_ok h
      split at hopened
      · exact points_of_leave hopened
      · cases hopened

/-- **What was read** is what the pieces show, without the controls that are dropped. -/
theorem points_of_foldlM {levels : Nat} {pieces : List Piece} {r r' : Reading}
    (h : pieces.foldlM (step levels) r = .ok r') :
    r'.points.reverse = r.points.reverse ++
      (pieces.flatMap Piece.points).filter (!·.passes isDropped) := by
  induction pieces generalizing r with
  | nil =>
      cases h
      rw [List.flatMap_nil, List.filter_nil, List.append_nil]
  | cons piece pieces ih =>
      rw [List.foldlM_cons] at h
      obtain ⟨next, hstep, hrest⟩ := bind_eq_ok h
      rw [ih hrest, List.flatMap_cons, List.filter_append, ← List.append_assoc]
      congr 1
      cases piece with
      | shown ps =>
          cases hstep
          show ((ps.filter _).reverse ++ r.points).reverse = _
          rw [List.reverse_append, List.reverse_reverse]
          rfl
      | tag body position =>
          rw [points_of_follow hstep]
          exact (List.append_nil _).symm

/-- Reading points one by one. -/
theorem foldlM_shown {levels : Nat} {ps : List Point}
    (h : ∀ p ∈ ps, p.passes isDropped = false) (r : Reading) :
    (ps.map fun p => Piece.shown [p]).foldlM (step levels) r =
      .ok { r with points := ps.reverse ++ r.points, length := r.length + ps.length } := by
  induction ps generalizing r with
  | nil => rfl
  | cons p ps ih =>
      obtain ⟨hp, hps⟩ := List.forall_mem_cons.mp h
      have hadd : r.add [p] = { r with points := p :: r.points, length := r.length + 1 } := by
        unfold add
        rw [List.filter_cons_of_pos (by rw [hp]; rfl)]
        rfl
      rw [List.map_cons, List.foldlM_cons]
      show (ps.map fun p => Piece.shown [p]).foldlM (step levels) (r.add [p]) = _
      rw [hadd, ih hps, List.reverse_cons, List.append_assoc, List.length_cons, Nat.add_assoc,
        Nat.add_comm 1]
      rfl

end Reading

theorem points_of_ofMarkup {levels : Nat} {markup : Text} {t : Styled}
    (h : Styled.ofMarkup levels markup = .ok t) :
    t.points = (shownOf 0 markup.points).filter (!·.passes Reading.isDropped) := by
  obtain ⟨r, hread, hstyled⟩ := bind_eq_ok h
  cases hstyled
  exact Reading.points_of_foldlM hread

/-- **When markup leaves a text as it is.** -/
theorem ofMarkup_eq_plain_iff (levels : Nat) (markup : Text) :
    Styled.ofMarkup levels markup = .ok (.plain markup.points) ↔
      IsUnmarked markup.points ∧
        ∀ p ∈ markup.points, p.passes Reading.isDropped = false := by
  constructor
  · intro h
    have hpoints : markup.points = _ := points_of_ofMarkup h
    -- nothing may be lost on the way, neither by markup nor among the controls
    have hmarkup := shownOf_sublist 0 markup.points
    have hcontrols : ((shownOf 0 markup.points).filter (!·.passes Reading.isDropped)).Sublist
      (shownOf 0 markup.points) := List.filter_sublist
    rw [← hpoints] at hcontrols
    have hall : shownOf 0 markup.points = markup.points := hmarkup.antisymm hcontrols
    rw [hall, eq_comm, List.filter_eq_self] at hpoints
    exact ⟨isUnmarked_of_shownOf hall, fun p hp => by simpa using hpoints p hp⟩
  · rintro ⟨hunmarked, hkept⟩
    unfold Styled.ofMarkup
    rw [piecesOf_of_isUnmarked hunmarked, Reading.foldlM_shown hkept]
    show Except.ok (Styled.mk _ _) = _
    rw [List.append_nil, List.reverse_reverse]
    simp [Styled.plain]

end Casebook.Console

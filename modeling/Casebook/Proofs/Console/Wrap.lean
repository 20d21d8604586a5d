import Casebook.Console.Wrap
import Casebook.Proofs.Text.Split
import Casebook.Proofs.Text.Width

/-!
# Wrapping loses blanks only

A text without styles, tabs, joiners and selectors is cut into lines and these into pieces of a
limited width. What does not fit into the width are blanks at the end of a piece.

Main statement (`wrap_plain`): every line of the text is shown piece by piece, in order, and each
piece is shown as it is but for blanks at its end.
-/

namespace Casebook.Console

open Text

/-- A text without styles. -/
def Styled.plain (ps : List Point) : Styled := ⟨ps, []⟩

/-! ## Blanks at the end -/

theorem trimEnd_points (ps : List Point) :
    (Text.trimEnd ⟨ps⟩).points = ps.rdropWhile isBlankPoint := rfl

/-- Without the blanks at its end the line fits into the limit. -/
def Fits (limit : Nat) (line : List Point) : Prop :=
  cellsOf (line.rdropWhile isBlankPoint) ≤ limit

theorem rdropWhile_append_of_all {a b : List Point} (h : ∀ p ∈ b, isBlankPoint p = true) :
    (a ++ b).rdropWhile isBlankPoint = a.rdropWhile isBlankPoint := by
  unfold List.rdropWhile
  rw [List.reverse_append, List.dropWhile_append, if_pos]
  rw [List.isEmpty_iff, List.dropWhile_eq_nil_iff]
  exact fun p hp => h p (List.mem_reverse.mp hp)

theorem rdropWhile_append_of_any {a b : List Point} (h : ¬ ∀ p ∈ b, isBlankPoint p = true) :
    (a ++ b).rdropWhile isBlankPoint = a ++ b.rdropWhile isBlankPoint := by
  unfold List.rdropWhile
  rw [List.reverse_append, List.dropWhile_append, if_neg, List.reverse_append, List.reverse_reverse]
  rw [List.isEmpty_iff, List.dropWhile_eq_nil_iff]
  exact fun hall => h fun p hp => hall p (List.mem_reverse.mpr hp)

/-- A line is what is left without the blanks at its end, and these blanks. -/
theorem exists_blanks (line : List Point) : ∃ blanks, (∀ p ∈ blanks, isBlankPoint p = true) ∧
    line = line.rdropWhile isBlankPoint ++ blanks := by
  refine ⟨line.rtakeWhile isBlankPoint, fun p hp => List.mem_rtakeWhile_imp hp, ?_⟩
  exact (List.rdropWhile_append_rtakeWhile ..).symm

theorem fits_of_cells {limit : Nat} {line : List Point} (h : cellsOf line ≤ limit) :
    Fits limit line := by
  obtain ⟨blanks, -, hsplit⟩ := exists_blanks line
  have hcells := congrArg cellsOf hsplit
  rw [cellsOf_append] at hcells
  unfold Fits
  omega

theorem Fits.append {limit : Nat} {a b : List Point} (ha : Fits limit a)
    (hb : cellsOf a + cellsOf (b.rdropWhile isBlankPoint) ≤ limit) : Fits limit (a ++ b) := by
  unfold Fits
  by_cases hall : ∀ p ∈ b, isBlankPoint p = true
  · rw [rdropWhile_append_of_all hall]
    exact ha
  · rw [rdropWhile_append_of_any hall, cellsOf_append]
    exact hb

/-! ## Laying out -/

/-- There is a line, if an empty one. -/
theorem layOut_ne_nil (limit used : Nat) (line : List Point) (ws : List (List Point)) :
    layOut limit used line ws ≠ [] := by
  induction ws generalizing used line with
  | nil => exact List.cons_ne_nil _ _
  | cons w ws ih =>
      rw [layOut]
      dsimp only
      split
      · exact ih _ _
      · split
        · exact List.append_ne_nil_of_right_ne_nil _ (ih _ _)
        · exact List.append_ne_nil_of_right_ne_nil _ (ih _ _)

section

variable {limit : Nat}

/-- No piece of a folded word is wider than the limit. -/
theorem cellsOf_of_mem_fold (hlimit : 2 ≤ limit) {ss piece : List Sign}
    (hss : ∀ s ∈ ss, s.IsPlain) {used : Nat}
    (hused : cellsOf (piece.reverse.flatMap Sign.points) = used) (hle : used ≤ limit) :
    ∀ l ∈ fold limit used piece ss, cellsOf l ≤ limit := by
  induction ss generalizing used piece with
  | nil =>
      intro l hl
      rw [List.mem_singleton.mp hl, hused]
      exact hle
  | cons s ss ih =>
      obtain ⟨hs, hss⟩ := List.forall_mem_cons.mp hss
      have hcells := hs.cells_le
      rw [fold]
      split
      · -- the sign begins a piece
        refine List.forall_mem_cons.mpr ⟨by rw [hused]; exact hle, ih hss ?_ (by omega)⟩
        rw [List.reverse_singleton, List.flatMap_singleton, ← hs.cells_eq]
      · refine ih hss ?_ (by omega)
        rw [List.reverse_cons, List.flatMap_append, List.flatMap_singleton, cellsOf_append, hused,
          ← hs.cells_eq]

/-- **The lines that words are laid out in** fit into the limit, without the blanks at their
ends. -/
theorem fits_of_mem_layOut (hlimit : 2 ≤ limit) {ws : List (List Point)}
    (hws : ∀ w ∈ ws, ∀ p ∈ w, IsLone p) {used : Nat} {line : List Point}
    (hused : cellsOf line = used) (hline : Fits limit line) :
    ∀ l ∈ layOut limit used line ws, Fits limit l := by
  induction ws generalizing used line with
  | nil =>
      intro l hl
      rw [List.mem_singleton.mp hl]
      exact hline
  | cons w ws ih =>
      obtain ⟨hw, hws⟩ := List.forall_mem_cons.mp hws
      have hneeded : width (Text.trimEnd ⟨w⟩).points = cellsOf (w.rdropWhile isBlankPoint) := by
        rw [trimEnd_points]
        exact width_eq_cellsOf fun p hp => hw p ((List.rdropWhile_prefix ..).subset hp)
      have hbefore : ∀ l ∈ (if line.isEmpty then [] else [line]), Fits limit l := by
        intro l hl
        split at hl
        · cases hl
        · rw [List.mem_singleton.mp hl]
          exact hline
      rw [layOut]
      dsimp only
      rw [hneeded, width_eq_cellsOf hw]
      split
      · next hfits =>
        refine ih hws (by rw [cellsOf_append, hused]) (hline.append ?_)
        rw [hused]
        exact hfits
      · split
        · -- the word is folded, and its last piece begins a line
          have hpieces : ∀ l ∈ fold limit 0 [] (signs w), cellsOf l ≤ limit :=
            cellsOf_of_mem_fold hlimit (isPlain_of_mem_signs hw) rfl (Nat.zero_le _)
          have hne := fold_ne_nil limit 0 [] (signs w)
          have hlone : ∀ l ∈ fold limit 0 [] (signs w), ∀ p ∈ l, IsLone p := by
            intro l hl p hp
            refine hw p ?_
            have hflat := flatten_fold limit 0 [] (signs w)
            rw [signs_points] at hflat
            have hmem : p ∈ (fold limit 0 [] (signs w)).flatten :=
              List.mem_flatten.mpr ⟨l, hl, hp⟩
            rw [hflat] at hmem
            exact hmem
          have hlast : (fold limit 0 [] (signs w)).getLastD [] ∈ fold limit 0 [] (signs w) := by
            rw [List.getLastD_eq_getLast?, List.getLast?_eq_some_getLast hne]
            exact List.getLast_mem hne
          intro l hl
          rw [List.append_assoc, List.mem_append, List.mem_append] at hl
          rcases hl with hl | hl | hl
          · exact hbefore l hl
          · exact fits_of_cells (hpieces l (List.dropLast_subset _ hl))
          · have hwidth := width_eq_cellsOf (hlone _ hlast)
            exact ih hws hwidth.symm (fits_of_cells (hpieces _ hlast)) l hl
        · next hshort =>
          intro l hl
          rcases List.mem_append.mp hl with hl | hl
          · exact hbefore l hl
          · exact ih hws rfl (Nat.not_lt.mp hshort) l hl

end

/-! ## Cutting -/

theorem part_plain (ps : List Point) (first last : Nat) :
    (Styled.plain ps).part first last = Styled.plain ((ps.drop first).take (last - first)) := by
  show Styled.mk ((ps.take last).drop first) [] = _
  rw [List.drop_take]
  rfl

/-- The parts between the ends of pieces are the pieces. -/
theorem parts_eq_pieces {whole : List Point} {pieces : List (List Point)} (hne : pieces ≠ [])
    (first : Nat) (hdrop : whole.drop first = pieces.flatten) :
    ((first :: cutOffsets first pieces ++ [whole.length]).zip
      (cutOffsets first pieces ++ [whole.length])).map
        (fun b => (Styled.plain whole).part b.1 b.2) = pieces.map Styled.plain := by
  induction pieces generalizing first with
  | nil => exact absurd rfl hne
  | cons piece pieces ih =>
      cases pieces with
      | nil =>
          rw [List.flatten_singleton] at hdrop
          show [(Styled.plain whole).part first whole.length] = [Styled.plain piece]
          rw [part_plain, hdrop, ← hdrop, List.take_of_length_le (by simp)]
      | cons next pieces =>
          rw [List.flatten_cons] at hdrop
          have hrest : whole.drop (first + piece.length) = (next :: pieces).flatten := by
            rw [← List.drop_drop, hdrop, List.drop_left]
          show (Styled.plain whole).part first (first + piece.length) :: _ = _
          rw [part_plain, Nat.add_sub_cancel_left, hdrop, List.take_left, List.map_cons,
            ← ih (by simp) (first + piece.length) hrest]
          rfl

/-- **A text is cut into its pieces** at their ends. -/
theorem divide_pieces {pieces : List (List Point)} (hne : pieces ≠ []) :
    (Styled.plain pieces.flatten).divide (cutOffsets 0 pieces) = pieces.map Styled.plain := by
  unfold Styled.divide
  split
  · next hempty =>
    match pieces, hne with
    | [piece], _ => rw [List.flatten_singleton, List.map_singleton]
    | piece :: next :: pieces, _ => cases hempty
  · exact parts_eq_pieces hne 0 List.drop_zero

/-- The places of a separator, counted from an offset. -/
def placesFrom (sep : Point) (first : Nat) (ps : List Point) : List Nat :=
  ((ps.zipIdx first).filter fun (q, _) => q = sep).map Prod.snd

theorem placesFrom_cons (sep : Point) (first : Nat) (p : Point) (ps : List Point) :
    placesFrom sep first (p :: ps) =
      if p = sep then first :: placesFrom sep (first + 1) ps
      else placesFrom sep (first + 1) ps := by
  unfold placesFrom
  rw [List.zipIdx_cons]
  by_cases h : p = sep
  · rw [List.filter_cons_of_pos (by simpa using h), if_pos h, List.map_cons]
  · rw [List.filter_cons_of_neg (by simpa using h), if_neg h]

/-- The parts between separators, where `line` was read since the last one. -/
theorem parts_eq_splitAt {sep : Point} {whole line ps : List Point} {start first : Nat}
    (hline : whole.drop start = line ++ ps) (hfirst : first = start + line.length) :
    ((start :: (placesFrom sep first ps).map (· + 1)).zip
      (placesFrom sep first ps ++ [whole.length])).map
        (fun b => (Styled.plain whole).part b.1 b.2) =
      ((splitAt sep ps).modifyHead (line ++ ·)).map Styled.plain := by
  induction ps generalizing line start first with
  | nil =>
      rw [List.append_nil] at hline
      show [(Styled.plain whole).part start whole.length] = [Styled.plain (line ++ [])]
      rw [part_plain, hline, ← hline, List.take_of_length_le (by simp), List.append_nil]
  | cons p ps ih =>
      subst hfirst
      rw [placesFrom_cons]
      rcases @splitAt_cons_cases _ _ sep p ps with
        ⟨hp, hsplit⟩ | ⟨hp, piece, pieces, hrest, hsplit⟩
      · -- the line ends here, and the next one begins behind the separator
        have hnext : whole.drop (start + line.length + 1) = [] ++ ps := by
          rw [Nat.add_assoc, ← List.drop_drop, hline, List.nil_append, List.drop_append]
          simp
        have htail := @ih [] (start + line.length + 1) _ hnext rfl
        rw [List.length_nil, Nat.add_zero] at htail
        rw [if_pos hp, hsplit, List.map_cons, List.cons_append, List.zip_cons_cons, List.map_cons,
          part_plain, Nat.add_sub_cancel_left, hline, List.take_left, htail, List.modifyHead_cons,
          List.map_cons, List.append_nil]
        cases splitAt sep ps <;> rfl
      · have hlonger : whole.drop start = (line ++ [p]) ++ ps := by
          rw [hline, List.append_assoc, List.singleton_append]
        have hnext := @ih (line ++ [p]) start (start + line.length + 1) hlonger
          (by rw [List.length_append, List.length_singleton, Nat.add_assoc])
        rw [if_neg hp, hsplit, hnext, hrest, List.modifyHead_cons, List.modifyHead_cons,
          List.append_assoc, List.singleton_append]

/-- **A text is split at its separators.** -/
theorem split_plain (ps : List Point) (sep : Point) :
    (Styled.plain ps).split sep = (splitAt sep ps).map Styled.plain := by
  have hplaces : (Styled.plain ps).offsetsOf sep = placesFrom sep 0 ps := rfl
  have hparts := @parts_eq_splitAt sep ps [] ps 0 0 rfl rfl
  have hsame : (splitAt sep ps).modifyHead ([] ++ ·) = splitAt sep ps := by
    cases splitAt sep ps <;> rfl
  rw [hsame] at hparts
  unfold Styled.split
  rw [hplaces]
  dsimp only
  split
  · next hempty =>
    rw [List.isEmpty_iff] at hempty
    rw [hempty] at hparts
    rw [← hparts]
    show [Styled.plain ps] = [(Styled.plain ps).part 0 ps.length]
    rw [part_plain]
    simp
  · exact hparts

/-! ## What is shown of a piece -/

/-- A tab. -/
def tab : Point := Point.char '\t'

theorem placesFrom_of_not_mem {sep : Point} {ps : List Point} (h : sep ∉ ps) (first : Nat) :
    placesFrom sep first ps = [] := by
  induction ps generalizing first with
  | nil => rfl
  | cons p ps ih =>
      obtain ⟨hp, hps⟩ := not_or.mp fun hmem => h (List.mem_cons.mpr hmem)
      rw [placesFrom_cons, if_neg (Ne.symm hp), ih hps]

/-- Without tabs nothing is filled up. -/
theorem expandTabs_plain {ps : List Point} (h : tab ∉ ps) :
    expandTabs (.plain ps) = .plain ps := by
  have hplaces : (Styled.plain ps).offsetsOf (Point.char '\t') = [] := placesFrom_of_not_mem h 0
  have hlast : (Styled.plain ps).points.getLast? ≠ some (Point.char '\t') := fun hlast =>
    h (List.mem_of_getLast? hlast)
  unfold expandTabs
  rw [hplaces]
  show (⟨[], []⟩ : Styled) ++ (addToStop 0 (Styled.plain ps)).2 = _
  unfold addToStop
  rw [if_neg hlast]
  rfl

/-- A piece is shown within a limit: as it is but for blanks at its end, and only a piece that is
too long loses any. -/
structure Shows (limit : Nat) (piece shown : List Point) : Prop where
  fits : width shown ≤ limit
  ending : ∃ kept lost added, piece = kept ++ lost ∧ shown = kept ++ added ∧
    ∀ p ∈ lost ++ added, isBlankPoint p = true
  whole : piece.length ≤ limit → width piece ≤ limit → shown = piece

section

variable {limit : Nat}

/-- What is cut off are blanks, if the rest fits. A blank of two cells of which one fits is cut in
half. -/
theorem cropSigns_of_fits {ss : List Sign} (hss : ∀ s ∈ ss, s.IsPlain) {kept blanks : List Point}
    (hsplit : ss.flatMap Sign.points = kept ++ blanks)
    (hblanks : ∀ p ∈ blanks, isBlankPoint p = true) (hkept : cellsOf kept ≤ limit) :
    ∃ added, cropSigns limit ss = kept ++ added ∧ (∀ p ∈ added, isBlankPoint p = true) := by
  induction ss generalizing limit kept blanks with
  | nil =>
      rw [List.flatMap_nil] at hsplit
      obtain ⟨rfl, rfl⟩ := List.append_eq_nil_iff.mp hsplit.symm
      exact ⟨[], rfl, by simp⟩
  | cons s ss ih =>
      obtain ⟨hs, hss⟩ := List.forall_mem_cons.mp hss
      rw [List.flatMap_cons] at hsplit
      rw [cropSigns]
      rcases List.append_eq_append_iff.mp hsplit with ⟨more, hmore, hrest⟩ | ⟨front, hfront, hrest⟩
      · -- the sign is kept
        have hcells : cellsOf kept = s.cells + cellsOf more := by
          rw [hmore, cellsOf_append, hs.cells_eq]
        have hroom : cellsOf more ≤ limit - s.cells := by omega
        obtain ⟨added, hadded, hall⟩ := ih hss hrest hblanks hroom
        rw [if_pos (by omega)]
        exact ⟨added, by rw [hadded, hmore, List.append_assoc], hall⟩
      · have hmore : ∀ p ∈ ss.flatMap Sign.points, isBlankPoint p = true := fun p hp =>
          hblanks p (by rw [hrest]; exact List.mem_append_right _ hp)
        have hfrontBlank : ∀ p ∈ front, isBlankPoint p = true := fun p hp =>
          hblanks p (by rw [hrest]; exact List.mem_append_left _ hp)
        split
        · next hfits =>
          obtain ⟨added, hadded, hall⟩ := ih hss (show _ = [] ++ _ from rfl) hmore (Nat.zero_le _)
          refine ⟨front ++ added, by rw [hadded, hfront, List.append_assoc]; rfl, fun p hp => ?_⟩
          exact (List.mem_append.mp hp).elim (hfrontBlank p) (hall p)
        · next hwide =>
          -- nothing that is kept is in a sign that does not fit
          have hnil : kept = [] := by
            by_contra hne
            have hcells := hs.cells_of_front hfront hne
            omega
          subst hnil
          split
          · exact ⟨[Point.char ' '], rfl, by decide⟩
          · exact ⟨[], rfl, by simp⟩

theorem cellsOf_cropSigns {ss : List Sign} (hss : ∀ s ∈ ss, s.IsPlain) :
    cellsOf (cropSigns limit ss) ≤ limit := by
  induction ss generalizing limit with
  | nil => exact Nat.zero_le _
  | cons s ss ih =>
      obtain ⟨hs, hss⟩ := List.forall_mem_cons.mp hss
      rw [cropSigns]
      split
      · have hrest := @ih (limit - s.cells) hss
        rw [cellsOf_append, ← hs.cells_eq]
        omega
      · split
        · next hpos => exact hpos
        · exact Nat.zero_le _

theorem isLone_of_isBlankPoint {p : Point} (h : isBlankPoint p = true) : IsLone p := by
  constructor
  · rintro rfl
    exact absurd h (by decide)
  · rintro rfl
    exact absurd h (by decide)

theorem crop_plain (ps : List Point) :
    (Styled.plain ps).crop limit = .plain (Console.crop limit ps) := by
  unfold Styled.crop Styled.keep Styled.plain
  dsimp only
  split <;> rfl

/-- The blanks that are dropped leave what is in front of them. -/
theorem dropExcess_plain (ps : List Point) : ∃ blanks, (∀ p ∈ blanks, isBlankPoint p = true) ∧
    dropExcess limit (.plain ps) = .plain (ps.rdropWhile isBlankPoint ++ blanks) ∧
    (ps.length ≤ limit → ps.rdropWhile isBlankPoint ++ blanks = ps) := by
  have hkeep : ∀ n, (Styled.plain ps).keep n = .plain (ps.take n) := by
    intro n
    unfold Styled.keep
    split
    · next hle =>
      rw [List.take_of_length_le (show ps.length ≤ n from hle)]
    · rfl
  have hsplit : ps.rdropWhile isBlankPoint ++ ps.rtakeWhile isBlankPoint = ps :=
    List.rdropWhile_append_rtakeWhile ..
  have hcount : (ps.reverse.takeWhile isBlankPoint).length =
      (ps.rtakeWhile isBlankPoint).length := by
    unfold List.rtakeWhile
    rw [List.length_reverse]
  have hlength := congrArg List.length hsplit
  rw [List.length_append] at hlength
  let n := ps.length - min (ps.rtakeWhile isBlankPoint).length (ps.length - limit)
  refine ⟨(ps.rtakeWhile isBlankPoint).take (n - (ps.rdropWhile isBlankPoint).length),
    fun p hp => List.mem_rtakeWhile_imp (List.mem_of_mem_take hp), ?_, fun hle => ?_⟩
  · unfold dropExcess
    dsimp only
    rw [hkeep]
    show Styled.plain (ps.take (ps.length - min (ps.reverse.takeWhile isBlankPoint).length
      (ps.length - limit))) = _
    rw [hcount]
    show Styled.plain (ps.take n) = _
    conv_lhs => rw [← hsplit]
    rw [List.take_append, List.take_of_length_le (show _ ≤ n by omega)]
  · rw [List.take_of_length_le (show _ ≤ n - _ by omega), hsplit]

/-- **A piece that fits** is shown as it is but for blanks at its end. -/
theorem shows_of_fits {piece : List Point} (hlone : ∀ p ∈ piece, IsLone p) (h : Fits limit piece) :
    ∃ shown, (dropExcess limit (.plain piece)).crop limit = .plain shown ∧
      Shows limit piece shown := by
  obtain ⟨blanks, hblanks, hdrop, hwhole⟩ := @dropExcess_plain limit piece
  obtain ⟨lost, hlost, hsplit⟩ := exists_blanks piece
  have hlone' : ∀ p ∈ piece.rdropWhile isBlankPoint ++ blanks, IsLone p := by
    intro p hp
    rcases List.mem_append.mp hp with hp | hp
    · exact hlone p ((List.rdropWhile_prefix ..).subset hp)
    · exact isLone_of_isBlankPoint (hblanks p hp)
  have hsigns := isPlain_of_mem_signs hlone'
  rw [hdrop, crop_plain]
  refine ⟨_, rfl, ?_⟩
  unfold crop
  split
  · next hfits =>
    exact ⟨hfits, ⟨_, lost, blanks, hsplit, rfl, fun p hp =>
      (List.mem_append.mp hp).elim (hlost p) (hblanks p)⟩, fun hle _ => hwhole hle⟩
  · next hwide =>
    obtain ⟨added, hadded, hall⟩ := cropSigns_of_fits hsigns (signs_points _) hblanks h
    refine ⟨?_, ⟨_, lost, added, hsplit, hadded, fun p hp =>
      (List.mem_append.mp hp).elim (hlost p) (hall p)⟩, fun hle hwidth => ?_⟩
    · rw [width_eq_cellsOf]
      · exact cellsOf_cropSigns hsigns
      · rw [hadded]
        intro p hp
        rcases List.mem_append.mp hp with hp | hp
        · exact hlone p ((List.rdropWhile_prefix ..).subset hp)
        · exact isLone_of_isBlankPoint (hall p hp)
    · rw [hwhole hle] at hwide
      exact absurd hwidth hwide

/-! ## Lines -/

/-- A line is shown in rows: it is cut into pieces, and each row shows one. -/
def ShowsLine (limit : Nat) (line : List Point) (rows : List (List Point)) : Prop :=
  ∃ pieces, pieces.flatten = line ∧ List.Forall₂ (Shows limit) pieces rows

/-- Each of some pieces is shown. -/
theorem shows_pieces {pieces : List (List Point)} (hlone : ∀ l ∈ pieces, ∀ p ∈ l, IsLone p)
    (h : ∀ l ∈ pieces, Fits limit l) : ∃ rows,
      (pieces.map Styled.plain).map (fun l => (dropExcess limit l).crop limit) =
        rows.map Styled.plain ∧ List.Forall₂ (Shows limit) pieces rows := by
  induction pieces with
  | nil => exact ⟨[], rfl, .nil⟩
  | cons piece pieces ih =>
      obtain ⟨hpiece, hpieces⟩ := List.forall_mem_cons.mp hlone
      obtain ⟨hfits, hfitsAll⟩ := List.forall_mem_cons.mp h
      obtain ⟨shown, hshown, hshows⟩ := shows_of_fits hpiece hfits
      obtain ⟨rows, hrows, hall⟩ := ih hpieces hfitsAll
      exact ⟨shown :: rows, by rw [List.map_cons, List.map_cons, List.map_cons, hshown, hrows],
        .cons hshows hall⟩

/-- **One line** is shown piece by piece. -/
theorem wrapLine_plain (hlimit : 2 ≤ limit) {line : List Point} (hlone : ∀ p ∈ line, IsLone p)
    (htab : tab ∉ line) : ∃ rows, wrapLine limit (.plain line) = rows.map Styled.plain ∧
      ShowsLine limit line rows := by
  have hwords : ∀ w ∈ words line, ∀ p ∈ w, IsLone p := fun w hw p hp => hlone p (by
    rw [← flatten_words line]
    exact List.mem_flatten.mpr ⟨w, hw, hp⟩)
  have hflat : (layOut limit 0 [] (words line)).flatten = line := by
    rw [flatten_layOut, flatten_words, List.nil_append]
  have hempty : Fits limit [] := fits_of_cells (Nat.zero_le limit)
  have hfits : ∀ l ∈ layOut limit 0 [] (words line), Fits limit l :=
    fits_of_mem_layOut hlimit hwords rfl hempty
  have hne := layOut_ne_nil limit 0 [] (words line)
  generalize hpieces : layOut limit 0 [] (words line) = pieces at *
  have hpiecesLone : ∀ l ∈ pieces, ∀ p ∈ l, IsLone p := fun l hl p hp => hlone p (by
    rw [← hflat]
    exact List.mem_flatten.mpr ⟨l, hl, hp⟩)
  obtain ⟨rows, hrows, hall⟩ := shows_pieces hpiecesLone hfits
  refine ⟨rows, ?_, pieces, hflat, hall⟩
  unfold wrapLine
  rw [expandTabs_plain htab]
  show ((Styled.plain line).divide (cutOffsets 0 (layOut limit 0 [] (words line)))).map _ = _
  rw [hpieces, ← hflat, divide_pieces hne, hrows]

/-- **A text is shown line by line**, each line piece by piece. -/
theorem wrap_plain (hlimit : 2 ≤ limit) {ps : List Point} (hlone : ∀ p ∈ ps, IsLone p)
    (htab : tab ∉ ps) : ∃ rows : List (List (List Point)),
      wrap limit (.plain ps) = rows.flatten.map Styled.plain ∧
      List.Forall₂ (ShowsLine limit) (splitAt (Point.char '\n') ps) rows := by
  have hlines : ∀ line ∈ splitAt (Point.char '\n') ps, (∀ p ∈ line, IsLone p) ∧ tab ∉ line :=
    fun line hline => ⟨fun p hp => hlone p (mem_of_mem_splitAt hline hp), fun hp =>
      htab (mem_of_mem_splitAt hline hp)⟩
  unfold wrap
  rw [split_plain]
  generalize splitAt (Point.char '\n') ps = lines at hlines
  induction lines with
  | nil => exact ⟨[], rfl, .nil⟩
  | cons line lines ih =>
      obtain ⟨⟨hline, htabLine⟩, hrest⟩ := List.forall_mem_cons.mp hlines
      obtain ⟨rows, hrows, hshows⟩ := wrapLine_plain hlimit hline htabLine
      obtain ⟨more, hmore, hall⟩ := ih hrest
      refine ⟨rows :: more, ?_, .cons hshows hall⟩
      rw [List.map_cons, List.flatMap_cons, hrows, hmore, List.flatten_cons, List.map_append]

end

end Casebook.Console

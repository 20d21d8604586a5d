import Casebook.Proofs.Sequence.Patch

/-!
# The text of a patch

A patch is read by its text alone (`readPatch`): below the two lines that name the sides, a
line between `@@` says what the lines with signs below it cover. Main statement
(`patchText_exact`): the text is empty exactly for equal lists, and otherwise reads as hunks
that are a patch of the two lists.
-/

namespace Casebook.Sequence

/-! ## Reading -/

/-- The number that a text of digits writes. -/
def number? (t : Text) : Option Nat :=
  match t.chars? with
  | some cs => if cs ≠ [] ∧ cs.all Char.isDigit then some (Text.digitsValue cs) else none
  | none => none

/-- The places that a range covers: a single line by its number, lines by the number of the
first and how many they are, and no line by the number of the line before. -/
def range? (t : Text) : Option (Nat × Nat) :=
  match Text.split ',' t with
  | [line] => do
    let line ← number? line
    return (line - 1, line)
  | [line, count] => do
    let line ← number? line
    let count ← number? count
    return if count = 0 then (line, line) else (line - 1, line - 1 + count)
  | _ => none

/-- What the line above a hunk says that the hunk covers on each side. -/
def covered? (line : Text) : Option ((Nat × Nat) × (Nat × Nat)) :=
  match Text.split ' ' line with
  | [opening, left, right, closing] => do
    guard (opening = Text.ofString "@@" ∧ closing = Text.ofString "@@")
    return (← range? (← Text.after? "-" left), ← range? (← Text.after? "+" right))
  | _ => none

/-- A line of a hunk: its sign, and the line itself. -/
def signed? (line : Text) : Option (Sign × Text) :=
  match line.points with
  | .char ' ' :: rest => some (.both, ⟨rest⟩)
  | .char '-' :: rest => some (.removed, ⟨rest⟩)
  | .char '+' :: rest => some (.added, ⟨rest⟩)
  | _ => none

/-- The hunks of lines, and the lines with signs before the first of them. -/
def readHunks : List Text → Option (List (Sign × Text) × List Hunk)
  | [] => some ([], [])
  | line :: lines => do
    let (pending, hs) ← readHunks lines
    match signed? line with
    | some signed => return (signed :: pending, hs)
    | none =>
      let ((left, leftEnd), (right, rightEnd)) ← covered? line
      return ([], ⟨left, leftEnd, right, rightEnd, pending⟩ :: hs)

/-- The hunks of a patch. -/
def readPatch (t : Text) : Option (List Hunk) :=
  match Text.split '\n' t with
  | left :: right :: lines => do
    guard (left = Text.ofString "--- expected" ∧ right = Text.ofString "+++ actual")
    match ← readHunks lines with
    | ([], hs) => return hs
    | _ => none
  | _ => none

/-! ## Numbers and ranges -/

theorem ofString_repr (n : Nat) : Text.ofString n.repr = Text.ofChars (Nat.toDigits 10 n) := by
  rw [Text.ofString, Nat.repr_eq_ofList_toDigits, String.toList_ofList]

@[simp]
theorem number?_repr (n : Nat) : number? (Text.ofString n.repr) = some n := by
  obtain ⟨hne, hdigits, -⟩ := Text.isNumeral_toDigits n
  rw [ofString_repr, number?, Text.chars?_ofChars]
  dsimp only
  rw [if_pos ⟨hne, List.all_eq_true.mpr hdigits⟩, Text.digitsValue_toDigits]

/-- In a number there are digits only. -/
theorem not_mem_repr {c : Char} (hc : c.isDigit = false) (n : Nat) :
    Point.char c ∉ (Text.ofString n.repr).points := by
  rw [ofString_repr]
  simp only [Text.ofChars, List.mem_map, Point.char.injEq, exists_eq_right]
  intro hmem
  rw [(Text.isNumeral_toDigits n).isDigit c hmem] at hc
  cases hc

theorem range?_line (line : Nat) : range? (.ofString line.repr) = some (line - 1, line) := by
  rw [range?, Text.split_of_not_mem (not_mem_repr rfl line)]
  simp

theorem range?_count (line count : Nat) :
    range? (.ofString (line.repr ++ "," ++ count.repr)) =
      some (if count = 0 then (line, line) else (line - 1, line - 1 + count)) := by
  have hpieces : Text.ofString (line.repr ++ "," ++ count.repr) =
      Text.joined (.ofChars [',']) [.ofString line.repr, .ofString count.repr] := by
    rw [Text.ofString_append, Text.ofString_append, Text.joined_cons (by simp),
      Text.joined_singleton]
    rfl
  have hsplit : Text.split ','
      (Text.joined (.ofChars [',']) [.ofString line.repr, .ofString count.repr]) =
      [.ofString line.repr, .ofString count.repr] :=
    Text.split_joined_of_not_mem (by simp)
      (by simpa using ⟨not_mem_repr rfl line, not_mem_repr rfl count⟩)
  rw [range?, hpieces, hsplit]
  simp

theorem range?_rangeText {start stop : Nat} (h : start ≤ stop) :
    range? (.ofString (rangeText start stop)) = some (start, stop) := by
  unfold rangeText
  dsimp only
  split
  · next hone =>
    refine (range?_line (start + 1)).trans ?_
    rw [Nat.add_sub_cancel, show start + 1 = stop by omega]
  · split
    · next hnone =>
      have htext : s!"{start},0" = start.repr ++ "," ++ Nat.repr 0 := by
        rw [String.append_assoc]
        rfl
      rw [htext, range?_count, if_pos rfl, show start = stop by omega]
    · next hmany =>
      refine (range?_count (start + 1) (stop - start)).trans ?_
      rw [if_neg hmany, Nat.add_sub_cancel, Nat.add_sub_cancel' h]

/-- In a range there are digits and a comma at most. -/
theorem not_mem_rangeText {c : Char} (hdigit : c.isDigit = false) (hcomma : c ≠ ',')
    (start stop : Nat) : Point.char c ∉ (Text.ofString (rangeText start stop)).points := by
  have hcount (line count : Nat) :
      Point.char c ∉ (Text.ofString (line.repr ++ "," ++ count.repr)).points := by
    rw [Text.ofString_append, Text.ofString_append, Text.points_append, Text.points_append,
      List.mem_append, List.mem_append]
    rintro ((hline | hsep) | hcount)
    · exact not_mem_repr hdigit line hline
    · exact hcomma (by simpa [Text.ofString, Text.ofChars] using hsep)
    · exact not_mem_repr hdigit count hcount
  unfold rangeText
  dsimp only
  split
  · exact not_mem_repr hdigit (start + 1)
  · split
    · have htext : s!"{start},0" = start.repr ++ "," ++ Nat.repr 0 := by
        rw [String.append_assoc]
        rfl
      rw [htext]
      exact hcount start 0
    · exact hcount (start + 1) (stop - start)

/-! ## Lines -/

def Sign.mark : Sign → Char
  | .both => ' '
  | .removed => '-'
  | .added => '+'

/-- A line of a hunk as it is written. -/
def written (line : Sign × Text) : Text := .ofChars [line.1.mark] ++ line.2

/-- The line above a hunk, as its pieces. -/
def coverPieces (h : Hunk) : List Text :=
  [.ofString "@@", .ofString "-" ++ .ofString (rangeText h.left h.leftEnd),
    .ofString "+" ++ .ofString (rangeText h.right h.rightEnd), .ofString "@@"]

theorem not_mem_coverPieces {c : Char} (hdigit : c.isDigit = false)
    (hc : c ∉ ['@', '-', '+', ',']) (h : Hunk) :
    ∀ piece ∈ coverPieces h, Point.char c ∉ piece.points := by
  obtain ⟨hat, hminus, hplus, hcomma⟩ : c ≠ '@' ∧ c ≠ '-' ∧ c ≠ '+' ∧ c ≠ ',' := by simpa using hc
  have hmark {d : Char} (hd : c ≠ d) (start stop : Nat) : Point.char c ∉
      (Text.ofChars [d] ++ Text.ofString (rangeText start stop)).points := by
    rw [Text.points_append, List.mem_append]
    rintro (hmem | hmem)
    · exact hd (by simpa [Text.ofChars] using hmem)
    · exact not_mem_rangeText hdigit hcomma start stop hmem
  have hends : Point.char c ∉ (Text.ofString "@@").points := by
    simpa [Text.ofString, Text.ofChars] using hat
  intro piece hpiece
  simp only [coverPieces, List.mem_cons, List.not_mem_nil, or_false] at hpiece
  rcases hpiece with rfl | rfl | rfl | rfl
  · exact hends
  · exact hmark hminus h.left h.leftEnd
  · exact hmark hplus h.right h.rightEnd
  · exact hends

theorem signed?_written (line : Sign × Text) : signed? (written line) = some line := by
  obtain ⟨sign, line⟩ := line
  cases sign <;> rfl

theorem hunkLines_eq (as bs : List Text) (ss : List Segment) :
    hunkLines as bs ss = Text.joined (.ofChars [' ']) (coverPieces (hunkOf as bs ss)) ::
      (hunkOf as bs ss).lines.map written := by
  have hlines : Segment.lines as bs = fun s => (s.signed as bs).map written := by
    funext s
    unfold Segment.lines Segment.signed
    split
    · simp only [List.map_map]
      rfl
    · simp only [List.map_append, List.map_map]
      rfl
  rw [hunkLines, hlines, ← List.map_flatMap]
  refine congrArg (· :: _) ?_
  have hopening : Text.ofString "@@ -" = .ofString "@@" ++ .ofChars [' '] ++ .ofString "-" := rfl
  have hmiddle : Text.ofString " +" = .ofChars [' '] ++ .ofString "+" := rfl
  have hclosing : Text.ofString " @@" = .ofChars [' '] ++ .ofString "@@" := rfl
  rw [coverPieces, Text.joined_cons (by simp), Text.joined_cons (by simp),
    Text.joined_cons (by simp), Text.joined_singleton]
  simp only [Text.ofString_append, toString, hopening, hmiddle, hclosing, Text.append_assoc]
  rfl

theorem covered?_pieces {h : Hunk} (hleft : h.left ≤ h.leftEnd) (hright : h.right ≤ h.rightEnd) :
    covered? (Text.joined (.ofChars [' ']) (coverPieces h)) =
      some ((h.left, h.leftEnd), (h.right, h.rightEnd)) := by
  have hsplit : Text.split ' ' (Text.joined (.ofChars [' ']) (coverPieces h)) = coverPieces h :=
    Text.split_joined_of_not_mem (by simp [coverPieces]) (not_mem_coverPieces rfl (by decide) h)
  rw [covered?, hsplit, coverPieces]
  simp [Text.after?_append, range?_rangeText hleft, range?_rangeText hright]

theorem signed?_pieces (h : Hunk) :
    signed? (Text.joined (.ofChars [' ']) (coverPieces h)) = none := by
  rw [coverPieces, Text.joined_cons (by simp)]
  rfl

/-! ## The whole patch -/

theorem readHunks_written {lines : List Text} {pending : List (Sign × Text)} {hs : List Hunk}
    (h : readHunks lines = some (pending, hs)) (signed : List (Sign × Text)) :
    readHunks (signed.map written ++ lines) = some (signed ++ pending, hs) := by
  induction signed with
  | nil => exact h
  | cons line signed ih =>
      rw [List.map_cons, List.cons_append, readHunks, ih]
      simp [signed?_written]

theorem readHunks_hunkLines {as bs : List Text} {hunks : List (List Segment)}
    (h : ∀ ss ∈ hunks, (hunkOf as bs ss).Fits as bs) :
    readHunks (hunks.flatMap (hunkLines as bs)) = some ([], hunks.map (hunkOf as bs)) := by
  induction hunks with
  | nil => rfl
  | cons ss hunks ih =>
      obtain ⟨hfits, hrest⟩ := List.forall_mem_cons.mp h
      have hbelow := readHunks_written (ih hrest) (hunkOf as bs ss).lines
      rw [List.flatMap_cons, hunkLines_eq, List.cons_append, readHunks, hbelow]
      simp [signed?_pieces, covered?_pieces hfits.left_le hfits.right_le]

theorem mem_of_mem_slice {α : Type} {xs : List α} {start stop : Nat} {x : α}
    (h : x ∈ slice xs start stop) : x ∈ xs :=
  List.mem_of_mem_take (List.mem_of_mem_drop h)

/-- The lines of a hunk are lines of the lists. -/
theorem Hunk.Fits.mem {as bs : List Text} {h : Hunk} (hfits : h.Fits as bs) {line : Sign × Text}
    (hline : line ∈ h.lines) : line.2 ∈ as ++ bs := by
  by_cases hsign : line.1 = .added
  · have hmade : line.2 ∈ h.made :=
      List.mem_map_of_mem (List.mem_filter.mpr ⟨hline, by simp [hsign]⟩)
    rw [hfits.made_eq] at hmade
    exact List.mem_append_right as (mem_of_mem_slice hmade)
  · have hkept : line.2 ∈ h.kept :=
      List.mem_map_of_mem (List.mem_filter.mpr ⟨hline, by simpa using hsign⟩)
    rw [hfits.kept_eq] at hkept
    exact List.mem_append_left bs (mem_of_mem_slice hkept)

/-- There is no line feed in what is written of a hunk if there is none in the lists. -/
theorem not_mem_hunkLines {as bs : List Text} {ss : List Segment}
    (hfree : ∀ line ∈ as ++ bs, Point.char '\n' ∉ line.points)
    (hfits : (hunkOf as bs ss).Fits as bs) :
    ∀ line ∈ hunkLines as bs ss, Point.char '\n' ∉ line.points := by
  rw [hunkLines_eq, List.forall_mem_cons]
  constructor
  · intro hmem
    rcases Text.mem_joined hmem with hsep | ⟨piece, hpiece, hmem⟩
    · simp [Text.ofChars] at hsep
    · exact not_mem_coverPieces rfl (by decide) _ piece hpiece hmem
  · intro text htext hmem
    obtain ⟨line, hline, rfl⟩ := List.mem_map.mp htext
    rw [written, Text.points_append, List.mem_append] at hmem
    rcases hmem with hmark | hmem
    · obtain ⟨sign, line⟩ := line
      cases sign <;> simp [Text.ofChars, Sign.mark] at hmark
    · exact hfree _ (hfits.mem hline) hmem

/-- The lines of a patch that is not empty. -/
theorem patchText_eq {expected actual : List Text} (hne : expected ≠ actual) :
    patchText expected actual = Text.joined (.ofChars ['\n'])
      (.ofString "--- expected" :: .ofString "+++ actual" ::
        (hunks expected actual).flatMap (hunkLines expected actual)) := by
  obtain ⟨hunk, hs, hcons⟩ :=
    List.exists_cons_of_ne_nil (mt (hunks_eq_nil_iff expected actual).mp hne)
  rw [patchText, patch, hcons]
  rfl

/-- **Patches.** The text of the patch is empty exactly if the lists are equal. If they are not,
and there is no line feed in any line, the text reads as hunks, and these are a patch of the two
lists. -/
theorem patchText_exact (expected actual : List Text) :
    (patchText expected actual = Text.ofString "" ↔ expected = actual) ∧
      ((∀ line ∈ expected ++ actual, Point.char '\n' ∉ line.points) → expected ≠ actual →
        ∃ hs, hs ≠ [] ∧ readPatch (patchText expected actual) = some hs ∧
          IsPatch expected actual 0 0 hs) := by
  have hpatch := isPatch_hunks expected actual
  constructor
  · constructor
    · intro hempty
      by_contra hne
      rw [patchText_eq hne, Text.joined_cons (by simp)] at hempty
      cases hempty
    · rintro rfl
      rw [patchText, patch, hunks_self]
      rfl
  · intro hfree hne
    refine ⟨_, ?_, ?_, hpatch⟩
    · simpa [hunks_eq_nil_iff] using hne
    · have hfits : ∀ ss ∈ hunks expected actual, (hunkOf expected actual ss).Fits expected actual :=
        fun ss hss => hpatch.fits _ (List.mem_map_of_mem hss)
      have hlines : ∀ line ∈ Text.ofString "--- expected" :: .ofString "+++ actual" ::
          (hunks expected actual).flatMap (hunkLines expected actual),
          Point.char '\n' ∉ line.points := by
        refine List.forall_mem_cons.mpr ⟨by decide, List.forall_mem_cons.mpr ⟨by decide, ?_⟩⟩
        intro line hline
        obtain ⟨ss, hss, hline⟩ := List.mem_flatMap.mp hline
        exact not_mem_hunkLines hfree (hfits ss hss) line hline
      rw [readPatch, patchText_eq hne, Text.split_joined_of_not_mem (by simp) hlines]
      simp [readHunks_hunkLines hfits]

end Casebook.Sequence

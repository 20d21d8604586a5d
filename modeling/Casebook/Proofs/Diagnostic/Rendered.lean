import Casebook.Proofs.Diagnostic.Located

/-!
# Diagnostics, written and read

A diagnostic is written as one line of text, and that line is cut again where it was put together,
although the message may hold whatever marks a file, a place, a severity or a code elsewhere. For
that its file must not hold a colon, and a message without a code must not end like one. Main
statement: `ofLines_render`.
-/

namespace Casebook.Diagnostic

open Disk

/-! ## The code -/

/-- A code behind a message is taken off it. -/
theorem splitCode_code {message code : Text} (h : IsCode code) :
    splitCode (message ++ ("  [" ++ code ++ ("]" : Text))) = (message, some code) := by
  obtain ⟨ps⟩ := message
  obtain ⟨cs⟩ := code
  have hpass : ∀ p ∈ cs.reverse, Point.passes isCodeChar p = true := fun p hp =>
    h.passes p (List.mem_reverse.mp hp)
  have hpoints : (Text.mk ps ++ ("  [" ++ Text.mk cs ++ ("]" : Text))).points.reverse =
      Point.char ']' :: (cs.reverse ++
        Point.char '[' :: Point.char ' ' :: Point.char ' ' :: ps.reverse) := by
    show (ps ++ (([Point.char ' ', Point.char ' ', Point.char '['] ++ cs) ++
      [Point.char ']'])).reverse = _
    simp
  have htake : (cs.reverse ++ Point.char '[' :: Point.char ' ' :: Point.char ' ' ::
      ps.reverse).takeWhile (Point.passes isCodeChar) = cs.reverse := by
    rw [List.takeWhile_append_of_pos hpass, List.takeWhile_cons_of_neg (by decide), List.append_nil]
  have hdrop : (cs.reverse ++ Point.char '[' :: Point.char ' ' :: Point.char ' ' ::
      ps.reverse).dropWhile (Point.passes isCodeChar) =
        Point.char '[' :: Point.char ' ' :: Point.char ' ' :: ps.reverse := by
    rw [List.dropWhile_append_of_pos hpass, List.dropWhile_cons_of_neg (by decide)]
  have hne : ¬ cs.isEmpty = true := fun hempty => h.ne_empty (Text.isEmpty_iff.mp hempty)
  unfold splitCode
  simp only [hpoints, htake, hdrop, List.reverse_reverse]
  exact if_neg hne

/-- A message that does not end in a code is left as it is. -/
theorem splitCode_eq_none {body : Text}
    (h : ∀ message code : Text, IsCode code → body ≠ message ++ ("  [" ++ code ++ ("]" : Text))) :
    splitCode body = (body, none) := by
  rcases splitCode_cases body with hnone | ⟨message, code, -, hcode, heq⟩
  · exact hnone
  · exact absurd heq (h message code hcode)

/-! ## The file -/

section
variable {here root file : Text}

/-- Taken below the folder `here`, the file lies strictly below the mount root; both are compared in
their normal forms. -/
def IsMounted (here root file : Text) : Prop :=
  ∃ name : Text, name ≠ "" ∧ normalise (joinText here file) = normalise root ++ ("/" : Text) ++ name

/-- What is mounted is what has a name below the root. -/
theorem isMounted_iff_stubName? :
    IsMounted here root file ↔ ∃ name : Text, name ≠ "" ∧
      Mount.stubName? root (joinText here file) = some name := by
  unfold IsMounted Mount.stubName?
  dsimp only
  generalize normalise (joinText here file) = path
  refine exists_congr fun name => and_congr_right fun hne => ?_
  split
  · next heq =>
    refine iff_of_false ?_ fun hname => hne (Option.some.inj hname).symm
    rintro rfl
    have hlength := congrArg Text.length heq
    rw [Text.length_append, Text.length_append] at hlength
    have hslash : Text.length "/" = 1 := rfl
    omega
  · rw [Text.after?_eq_some_iff]

/-- Below a root that can have files mounted at it, being mounted is a matter of the names of paths. -/
theorem isMounted_iff (hroot : Mount.IsMountRoot root) :
    IsMounted here root file ↔ ∃ name : Text, LiesBelow here root file name := by
  rw [isMounted_iff_stubName?]
  refine exists_congr fun name => ⟨?_, ?_⟩
  · rintro ⟨hne, hname⟩
    exact liesBelow_of_stubName? hroot hname hne
  · intro h
    obtain ⟨hname, hne⟩ := stubName?_of_liesBelow hroot h
    exact ⟨hne, hname⟩

theorem reportedFile_of_not_isMounted (h : ¬ IsMounted here root file) :
    reportedFile here root file = file := by
  rw [isMounted_iff_stubName?] at h
  unfold reportedFile
  split
  · next name hname =>
    by_cases hempty : name.isEmpty = true
    · exact if_pos hempty
    · exact absurd ⟨name, fun heq => hempty (Text.isEmpty_iff.mpr heq), hname⟩ h
  · rfl

end

section
variable {file : Text} {place : Place} {severity : Severity} {body : Text}

theorem exists_tailText_eq (place : Place) (severity : Severity) (body : Text) :
    ∃ rest, tailText place severity body = ":" ++ rest := by
  cases place with
  | nowhere => exact ⟨_, severityText_eq_append severity body⟩
  | line line => exact ⟨_, tailText_line line severity body⟩
  | column line column => exact ⟨_, tailText_column line column severity body⟩

/-- A file without a colon ends where the first colon is, so there is no shorter one. -/
theorem isLeastSplit_of_not_mem (hne : file ≠ "") (hcolon : Point.char ':' ∉ file.points)
    (hplace : place.IsNumeric) :
    IsLeastSplit (file ++ tailText place severity body) file place severity body := by
  refine ⟨⟨rfl, hne, hplace⟩, ?_⟩
  intro file' place' severity' body' hsplit
  obtain ⟨rest, hrest⟩ := exists_tailText_eq place' severity' body'
  have hpoints : file.points ++ (tailText place severity body).points =
      file'.points ++ Point.char ':' :: rest.points := by
    have heq := hsplit.eq_append
    rw [hrest] at heq
    exact congrArg Text.points heq
  rcases List.append_eq_append_iff.mp hpoints with ⟨more, hfile, -⟩ | ⟨more, hfile, hmore⟩
  · show file.points.length ≤ file'.points.length
    rw [hfile, List.length_append]
    exact Nat.le_add_right _ _
  · cases more with
    | nil =>
        rw [List.append_nil] at hfile
        exact Nat.le_of_eq (congrArg List.length hfile)
    | cons p more =>
        obtain ⟨rfl, -⟩ := List.cons.inj hmore
        exact absurd (hfile ▸ by simp) hcolon

end

/-! ## The place -/

/-- The digits that a number is written with. -/
def digitsOf (n : Int) : List Char := Nat.toDigits 10 n.toNat

/-- A number that can be written and read again. -/
structure IsWritable (n : Int) : Prop where
  nonneg : 0 ≤ n
  not_huge : Text.isHuge n = false

/-- The place that a diagnostic is written with. -/
def place (d : Diagnostic) : Place :=
  match d.line, d.column with
  | none, _ => .nowhere
  | some l, none => .line (digitsOf l)
  | some l, some c => .column (digitsOf l) (digitsOf c)

theorem digitsOf_spec {n : Int} (h : IsWritable n) :
    Text.IsNumeral (digitsOf n) ∧ Int.ofNat (Text.digitsValue (digitsOf n)) = n ∧
      (digitsOf n).length ≤ Text.numeralLimit := by
  obtain ⟨m, rfl⟩ := Int.eq_ofNat_of_zero_le h.nonneg
  exact ⟨Text.isNumeral_toDigits m, congrArg Int.ofNat (Text.digitsValue_toDigits m),
    Text.length_toDigits_le h.not_huge⟩

theorem isNumeric_of_isDecimal {place : Place} (h : place.IsDecimal) : place.IsNumeric := by
  intro digits hdigits
  obtain ⟨hne, hdigit, -⟩ := h digits hdigits
  exact ⟨hne, fun c hc => Text.isDigit_of_ascii (hdigit c hc)⟩

/-- A diagnostic that can be read again: its file is not empty, has no colon and no line feed in it and
is not mounted, its numbers can be written, and a column has a line; its message is one line; and it
has a code, or its message does not end like one with a code. -/
structure IsRenderable (here root : Text) (d : Diagnostic) : Prop where
  file : ∃ file, d.file = some file ∧ file ≠ "" ∧ Point.char ':' ∉ file.points ∧
    Point.char '\n' ∉ file.points ∧ ¬ IsMounted here root file
  line : ∀ n ∈ d.line, IsWritable n
  column : ∀ n ∈ d.column, d.line.isSome = true ∧ IsWritable n
  message : Point.char '\n' ∉ d.message.points
  code : (∃ code, d.code = some code ∧ IsCode code) ∨
    d.code = none ∧ ∀ front code : Text, IsCode code →
      d.message ≠ front ++ ("  [" ++ code ++ ("]" : Text))

section
variable {here root : Text} {d : Diagnostic}

/-- The place has the numbers of the diagnostic, and their digits can be read. -/
theorem IsRenderable.place_spec (h : d.IsRenderable here root) :
    d.place.IsDecimal ∧ d.place.IsShort ∧ numberOf d.place.line? = d.line ∧
      numberOf d.place.column? = d.column := by
  have hline := h.line
  have hcolumn := h.column
  unfold place
  cases hl : d.line with
  | none =>
      have hnone : d.column = none := by
        cases hc : d.column with
        | none => rfl
        | some c =>
            obtain ⟨hsome, -⟩ := hcolumn c hc
            rw [hl] at hsome
            cases hsome
      rw [hnone]
      exact ⟨fun _ hdigits => (List.not_mem_nil hdigits).elim,
        fun _ hdigits => (List.not_mem_nil hdigits).elim, rfl, rfl⟩
  | some l =>
      obtain ⟨hnumeral, hvalue, hshort⟩ := digitsOf_spec (hline l hl)
      cases hc : d.column with
      | none =>
          exact ⟨List.forall_mem_singleton.mpr hnumeral, List.forall_mem_singleton.mpr hshort,
            congrArg some hvalue, rfl⟩
      | some c =>
          obtain ⟨hnumeral', hvalue', hshort'⟩ := digitsOf_spec (hcolumn c hc).2
          exact ⟨List.forall_mem_cons.mpr ⟨hnumeral, List.forall_mem_singleton.mpr hnumeral'⟩,
            List.forall_mem_cons.mpr ⟨hshort, List.forall_mem_singleton.mpr hshort'⟩,
            congrArg some hvalue, congrArg some hvalue'⟩

/-- The message and its code are taken apart again. -/
theorem IsRenderable.splitCode_eq (h : d.IsRenderable here root) :
    splitCode (d.message ++ d.codeText) = (d.message, d.code) := by
  unfold codeText
  rcases h.code with ⟨code, hcode, hiscode⟩ | ⟨hnone, hends⟩
  · rw [hcode]
    dsimp only
    rw [if_neg fun hempty => hiscode.ne_empty (Text.isEmpty_iff.mp hempty)]
    exact splitCode_code hiscode
  · rw [hnone]
    have hbody : d.message ++ ("" : Text) = d.message := congrArg Text.mk (List.append_nil _)
    dsimp only
    rw [hbody]
    exact splitCode_eq_none hends

theorem not_mem_points_append {p : Point} {s t : Text} :
    p ∉ (s ++ t).points ↔ p ∉ s.points ∧ p ∉ t.points := by
  rw [Text.points_append, List.mem_append, not_or]

theorem feed_not_mem_text {place : Place} (h : place.IsDecimal) :
    Point.char '\n' ∉ place.text.points := by
  unfold Place.text
  rw [List.mem_flatMap]
  rintro ⟨digits, hdigits, hmem⟩
  rcases List.mem_cons.mp hmem with hcolon | hmem
  · exact absurd (Point.char.inj hcolon) (by decide)
  · obtain ⟨c, hc, heq⟩ := List.mem_map.mp hmem
    have hdigit := (h digits hdigits).isDigit c hc
    rw [Point.char.inj heq] at hdigit
    exact absurd hdigit (by decide)

theorem IsRenderable.feed_not_mem_codeText (h : d.IsRenderable here root) :
    Point.char '\n' ∉ d.codeText.points := by
  unfold codeText
  rcases h.code with ⟨code, hcode, hiscode⟩ | ⟨hnone, -⟩
  · rw [hcode]
    dsimp only
    split
    · exact List.not_mem_nil
    · rw [not_mem_points_append, not_mem_points_append]
      refine ⟨⟨by decide, fun hmem => ?_⟩, by decide⟩
      exact absurd (hiscode.passes _ hmem) (by decide)
  · rw [hnone]
    exact List.not_mem_nil

/-- It is written on one line. -/
theorem IsRenderable.one_line (h : d.IsRenderable here root) {file : Text}
    (hfile : Point.char '\n' ∉ file.points) :
    Point.char '\n' ∉ (file ++ tailText d.place d.severity (d.message ++ d.codeText)).points := by
  have hname : ∀ severity : Severity, Point.char '\n' ∉ (Text.ofString severity.name).points := by
    intro severity
    cases severity <;> decide
  unfold tailText severityText
  simp only [not_mem_points_append]
  exact ⟨hfile, feed_not_mem_text h.place_spec.1, by decide, hname d.severity, by decide, h.message,
    h.feed_not_mem_codeText⟩

theorem kindOf_none_eq_iff {file : Text} {line : Option Int} {severity : Severity}
    {code : Option Text} : kindOf none file line severity code = .moduleResolution ↔
      ∃ c ∈ moduleCodes, code = some c := by
  unfold kindOf
  cases code with
  | none => simp
  | some c =>
      dsimp only
      by_cases hc : c ∈ moduleCodes
      · rw [if_pos (List.contains_iff_mem.mpr hc)]
        exact iff_of_true rfl ⟨c, hc, rfl⟩
      · rw [if_neg fun hcontains => hc (List.contains_iff_mem.mp hcontains)]
        refine iff_of_false (fun heq => nomatch heq) ?_
        rintro ⟨c', hc', heq⟩
        exact hc (Option.some.inj heq ▸ hc')

/-- **A diagnostic that is written is read again**, all but its kind, which is that of its code. -/
theorem ofLines_render (h : d.IsRenderable here root) :
    ∃ kind, ofLines here root [d.render] = .ok [{ d with kind }] ∧
      (kind = .moduleResolution ↔ ∃ code ∈ moduleCodes, d.code = some code) := by
  obtain ⟨file, hfile, hne, hcolon, hfeed, hmounted⟩ := h.file
  obtain ⟨hdecimal, hshort, hline, hcolumn⟩ := h.place_spec
  have hrender : d.render = file ++ tailText d.place d.severity (d.message ++ d.codeText) := by
    refine render_eq hdecimal hfile ?_ ?_ rfl
    · exact hline.symm.trans (getElem?_numbers d.place 0).symm
    · exact hcolumn.symm.trans (getElem?_numbers d.place 1).symm
  have hcut : cut? d.render =
      some (file, .of d.place d.severity (d.message ++ d.codeText)) := by
    rw [hrender, cut?_eq_some_iff (h.one_line hfeed)]
    exact ⟨_, _, _, isLeastSplit_of_not_mem hne hcolon (isNumeric_of_isDecimal hdecimal), rfl⟩
  have hread := ofLine_of_cut? here root none hcut ⟨fun digits hdigits =>
    hshort digits (List.mem_of_getElem? hdigits), fun digits hdigits =>
    hshort digits (List.mem_of_getElem? hdigits)⟩
  refine ⟨kindOf none file d.line d.severity d.code, ?_, kindOf_none_eq_iff⟩
  have hsame : ofCut here root none file (.of d.place d.severity (d.message ++ d.codeText)) =
      { d with kind := kindOf none file d.line d.severity d.code } := by
    unfold ofCut Tail.of
    dsimp only
    rw [reportedFile_of_not_isMounted hmounted, hline, hcolumn, h.splitCode_eq, ← hfile]
  rw [hsame] at hread
  unfold ofLines ofLinesAfter
  rw [hread]
  rfl

end

/-- A diagnostic whose message looks like the rest of one. -/
def misleading : Diagnostic :=
  ⟨some "m.d/a b", some 12, some 0, .note, "7:1: error: c  [x]  [y]", some "import-untyped", .checking⟩

theorem ofLines_render_misleading : IsRenderable "/here" "/here/m" misleading ∧
    ofLines "/here" "/here/m" [misleading.render] =
      .ok [{ misleading with kind := .moduleResolution }] := by
  have hwritable : ∀ n : Nat, n < 100 → IsWritable n := by
    intro n hn
    have hbound : 100 ≤ Text.numeralBound := by
      have hlimit : 2 ≤ Text.numeralLimit := by decide
      unfold Text.numeralBound
      generalize Text.numeralLimit = limit at hlimit ⊢
      exact Nat.pow_le_pow_right (n := 10) (by decide) hlimit
    exact ⟨Int.natCast_nonneg n, decide_eq_false (by rw [Int.natAbs_natCast]; omega)⟩
  have hmounted : ¬ IsMounted "/here" "/here/m" "m.d/a b" := by
    rw [isMounted_iff_stubName?]
    rintro ⟨name, -, hname⟩
    have hnone : Mount.stubName? "/here/m" (joinText "/here" "m.d/a b") = none := by decide
    cases hnone.symm.trans hname
  have hcode : IsCode "import-untyped" := ⟨by decide, by decide⟩
  have hline : ∀ n ∈ misleading.line, IsWritable n := fun n hn =>
    Option.some.inj hn ▸ hwritable 12 (by decide)
  have hcolumn : ∀ n ∈ misleading.column, misleading.line.isSome = true ∧ IsWritable n :=
    fun n hn => ⟨rfl, Option.some.inj hn ▸ hwritable 0 (by decide)⟩
  have h : IsRenderable "/here" "/here/m" misleading :=
    ⟨⟨"m.d/a b", rfl, by decide, by decide, by decide, hmounted⟩, hline, hcolumn, by decide,
      Or.inl ⟨_, rfl, hcode⟩⟩
  obtain ⟨kind, hread, hkind⟩ := ofLines_render h
  obtain rfl := hkind.mpr ⟨"import-untyped", by decide, rfl⟩
  exact ⟨h, hread⟩

end Casebook.Diagnostic

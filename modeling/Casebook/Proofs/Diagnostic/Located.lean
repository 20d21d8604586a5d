import Casebook.Proofs.Diagnostic.Cut
import Casebook.Proofs.Mount.Name
import Casebook.Proofs.Text.Digit

/-!
# Located messages, read and written

What a message says where is not lost when it is read: the diagnostic of a located message is
written as the message itself, or as the message with the name of the stub file in place of the
file if the file is mounted. Main statement: `ofLines_located`, for every list of messages of one
line each.
-/

namespace Casebook.Diagnostic

open Disk

/-! ## The file -/

/-- Taken below the folder `here`, the file is strictly below the mount root, and `name` leads
there from the root. -/
def LiesBelow (here root file name : Text) : Prop :=
  (Path.ofText (joinText here file)).root = (Path.ofText root).root ∧
    ∃ names, names ≠ [] ∧ (Path.ofText (joinText here file)).collapsed.names =
      (Path.ofText root).collapsed.names ++ names ∧ name = Text.joined "/" names

section
variable {here root file name : Text}

theorem stubName?_of_liesBelow (hroot : Mount.IsMountRoot root)
    (h : LiesBelow here root file name) :
    Mount.stubName? root (joinText here file) = some name ∧ name ≠ "" := by
  obtain ⟨heq, names, hne, hnames, rfl⟩ := h
  refine ⟨(Mount.stubName?_eq_some_iff hroot).mpr ⟨heq, names, hnames, rfl⟩, ?_⟩
  exact (isNormalName_joined hne (Mount.isOrdinary_of_eq_append hroot heq hnames)).ne_empty

theorem liesBelow_of_stubName? (hroot : Mount.IsMountRoot root)
    (h : Mount.stubName? root (joinText here file) = some name) (hne : name ≠ "") :
    LiesBelow here root file name := by
  obtain ⟨heq, names, hnames, rfl⟩ := (Mount.stubName?_eq_some_iff hroot).mp h
  refine ⟨heq, names, ?_, hnames, rfl⟩
  rintro rfl
  exact hne rfl

theorem reportedFile_of_liesBelow (hroot : Mount.IsMountRoot root)
    (h : LiesBelow here root file name) : reportedFile here root file = name := by
  obtain ⟨hname, hne⟩ := stubName?_of_liesBelow hroot h
  unfold reportedFile
  rw [hname]
  exact if_neg fun hempty => hne (Text.isEmpty_iff.mp hempty)

theorem reportedFile_of_not_liesBelow (hroot : Mount.IsMountRoot root)
    (h : ∀ name, ¬ LiesBelow here root file name) : reportedFile here root file = file := by
  unfold reportedFile
  split
  · next name hname =>
    split
    · rfl
    · next hne =>
      exact absurd (liesBelow_of_stubName? hroot hname fun hempty =>
        hne (Text.isEmpty_iff.mpr hempty)) (h name)
  · rfl

end

/-! ## The code -/

/-- A text that may stand in brackets behind a message. -/
structure IsCode (code : Text) : Prop where
  ne_empty : code ≠ ""
  passes : ∀ p ∈ code.points, p.passes isCodeChar = true

theorem splitCode_cases (body : Text) : splitCode body = (body, none) ∨
    ∃ message code : Text, splitCode body = (message, some code) ∧ IsCode code ∧
      body = message ++ ("  [" ++ code ++ ("]" : Text)) := by
  obtain ⟨ps⟩ := body
  unfold splitCode
  dsimp only
  split
  · next rest hrest =>
    split
    · next message hmessage =>
      split
      · exact Or.inl rfl
      · next hne =>
        refine Or.inr ⟨_, _, rfl, ⟨fun hempty => hne (Text.isEmpty_iff.mpr hempty), ?_⟩, ?_⟩
        · intro p hp
          exact List.mem_takeWhile_imp (List.mem_reverse.mp hp)
        -- the points in reverse are the bracket, the code in reverse and what is before it
        have hps : ps = (Point.char ']' :: (rest.takeWhile (Point.passes isCodeChar) ++
            rest.dropWhile (Point.passes isCodeChar))).reverse := by
          rw [List.takeWhile_append_dropWhile, ← hrest, List.reverse_reverse]
        rw [hmessage] at hps
        refine congrArg Text.mk (hps.trans ?_)
        rw [List.reverse_cons, List.reverse_append]
        simp only [List.reverse_cons, List.append_assoc]
        rfl
    · exact Or.inl rfl
  · exact Or.inl rfl

/-- Taking a code off a message and writing it behind the message again changes nothing. -/
theorem splitCode_append {d : Diagnostic} {body : Text}
    (h : splitCode body = (d.message, d.code)) : d.message ++ d.codeText = body := by
  unfold codeText
  rcases splitCode_cases body with hnone | ⟨message, code, hsome, hcode', rfl⟩
  · obtain ⟨hmessage, hcode⟩ := Prod.mk.inj (h.symm.trans hnone)
    rw [hmessage, hcode]
    exact congrArg Text.mk (List.append_nil _)
  · obtain ⟨hmessage, hcode⟩ := Prod.mk.inj (h.symm.trans hsome)
    rw [hmessage, hcode]
    exact congrArg (message ++ ·) (if_neg fun hempty => hcode'.ne_empty (Text.isEmpty_iff.mp hempty))

/-! ## The place -/

/-- The numbers of a place. -/
def Place.numbers (p : Place) : List Int :=
  p.numerals.map fun digits => Int.ofNat (Text.digitsValue digits)

/-- The numbers of a place are written as they are spelled. -/
def Place.IsDecimal (p : Place) : Prop := ∀ digits ∈ p.numerals, Text.IsNumeral digits

theorem ofString_toString {digits : List Char} (h : Text.IsNumeral digits) :
    Text.ofString (toString (Int.ofNat (Text.digitsValue digits))) = Text.ofChars digits := by
  show Text.ofChars (Nat.repr (Text.digitsValue digits)).toList = _
  rw [Nat.repr_eq_ofList_toDigits, String.toList_ofList, Text.toDigits_digitsValue h]

/-- File, line and column are written in front of the severity as they stand in the message. -/
theorem location_eq {d : Diagnostic} {file : Text} {place : Place} (hplace : place.IsDecimal)
    (hfile : d.file = some file) (hline : d.line = place.numbers[0]?)
    (hcolumn : d.column = place.numbers[1]?) : d.location = file ++ (place.text ++ (": " : Text)) := by
  unfold location
  rw [hfile, hline, hcolumn]
  cases place with
  | nowhere => rfl
  | line line =>
      have hnumeral := ofString_toString (hplace line List.mem_cons_self)
      show file ++ Text.ofString (":" ++ toString (Int.ofNat (Text.digitsValue line)) ++ ": ") = _
      simp only [Text.ofString_append, hnumeral, Place.text_line]
  | column line column =>
      have hnumeral := ofString_toString (hplace line List.mem_cons_self)
      have hnumeral' := ofString_toString (hplace column (List.mem_cons_of_mem _ List.mem_cons_self))
      show file ++ Text.ofString (":" ++ toString (Int.ofNat (Text.digitsValue line)) ++ ":" ++
        toString (Int.ofNat (Text.digitsValue column)) ++ ": ") = _
      simp only [Text.ofString_append, hnumeral, hnumeral', Place.text_column, Text.append_assoc]

theorem render_eq {d : Diagnostic} {file body : Text} {place : Place} (hplace : place.IsDecimal)
    (hfile : d.file = some file) (hline : d.line = place.numbers[0]?)
    (hcolumn : d.column = place.numbers[1]?) (hbody : d.message ++ d.codeText = body) :
    d.render = file ++ tailText place d.severity body := by
  unfold render
  rw [location_eq hplace hfile hline hcolumn, ← hbody]
  unfold tailText severityText
  simp only [Text.append_assoc]

/-! ## One message -/

/-- The numerals of a place are short enough to be read. -/
def Place.IsShort (p : Place) : Prop := ∀ digits ∈ p.numerals, digits.length ≤ Text.numeralLimit

/-- What a diagnostic is to say about a message. -/
structure IsReading (here root message : Text) (d : Diagnostic) : Prop where
  located_iff : d.file.isSome = true ↔
    ∃ file place severity body, IsSplit message file place severity body
  below : ∀ file place severity body name, IsLeastSplit message file place severity body →
    LiesBelow here root file name →
      d.file = some name ∧ (place.IsDecimal → d.render = name ++ tailText place severity body)
  elsewhere : ∀ file place severity body, IsLeastSplit message file place severity body →
    (∀ name, ¬ LiesBelow here root file name) →
      d.file = some file ∧ (place.IsDecimal → d.render = message)
  bare : (¬ ∃ file place severity body, IsSplit message file place severity body) →
    d.file = none ∧ d.line = none ∧ d.column = none ∧ d.code = none ∧ d.message = message

theorem Place.ext {place place' : Place} (hline : place.line? = place'.line?)
    (hcolumn : place.column? = place'.column?) : place = place' := by
  cases place <;> cases place' <;> cases hline <;> cases hcolumn <;> rfl

/-- There is one split with the shortest file. -/
theorem IsLeastSplit.unique {message file file' : Text} {place place' : Place}
    {severity severity' : Severity} {body body' : Text}
    (h : IsLeastSplit message file place severity body)
    (h' : IsLeastSplit message file' place' severity' body') :
    file = file' ∧ place = place' ∧ severity = severity' ∧ body = body' := by
  have hlength : file.length = file'.length :=
    Nat.le_antisymm (h.length_le _ _ _ _ h'.toIsSplit) (h'.length_le _ _ _ _ h.toIsSplit)
  have heq := h.eq_append.symm.trans h'.eq_append
  obtain ⟨ps⟩ := file
  obtain ⟨qs⟩ := file'
  obtain ⟨rfl, htail⟩ := List.append_inj (congrArg Text.points heq) hlength
  have htail' : tailText place' severity' body' = tailText place severity body :=
    congrArg Text.mk htail.symm
  have hread := tail?_eq_some_iff.mpr ⟨place, severity, body, h.isNumeric, htail', rfl⟩
  rw [tail?_eq_some_iff.mpr ⟨place', severity', body', h'.isNumeric, rfl, rfl⟩] at hread
  obtain ⟨hline, hcolumn, rfl, rfl⟩ := Tail.mk.inj (Option.some.inj hread)
  exact ⟨rfl, Place.ext hline.symm hcolumn.symm, rfl, rfl⟩

theorem readNumber?_eq_ok {digits? : Option (List Char)}
    (hshort : ∀ digits ∈ digits?, digits.length ≤ Text.numeralLimit) :
    (digits?.map fun digits => (do return some (Int.ofNat (← Text.readNumeral digits)) :
      Except Text.LongNumeral (Option Int))).getD (.ok none) =
      .ok (digits?.map fun digits => Int.ofNat (Text.digitsValue digits)) := by
  cases digits? with
  | none => rfl
  | some digits =>
      have hread : Text.readNumeral digits = .ok (Text.digitsValue digits) :=
        if_pos (hshort digits rfl)
      show (do return some (Int.ofNat (← Text.readNumeral digits)) :
        Except Text.LongNumeral (Option Int)) = _
      rw [hread]
      rfl

/-- The number that digits write, if there are any. -/
def numberOf (digits? : Option (List Char)) : Option Int :=
  digits?.map fun digits => Int.ofNat (Text.digitsValue digits)

theorem getElem?_numbers (place : Place) (i : Nat) :
    place.numbers[i]? = numberOf place.numerals[i]? := List.getElem?_map

/-- The numerals of a tail are short enough to be read. -/
structure Tail.IsShort (tail : Tail) : Prop where
  line : ∀ digits ∈ tail.line, digits.length ≤ Text.numeralLimit
  column : ∀ digits ∈ tail.column, digits.length ≤ Text.numeralLimit

/-- What is read of a message that is cut. -/
def ofCut (here root : Text) (before : Option Diagnostic) (file : Text) (tail : Tail) :
    Diagnostic where
  file := some (reportedFile here root file)
  line := numberOf tail.line
  column := numberOf tail.column
  severity := tail.severity
  message := (splitCode tail.body).1
  code := (splitCode tail.body).2
  kind := kindOf before (reportedFile here root file) (numberOf tail.line) tail.severity
    (splitCode tail.body).2

theorem ofLine_of_cut? {message file : Text} {tail : Tail} (here root : Text)
    (before : Option Diagnostic) (hcut : cut? message = some (file, tail)) (hshort : tail.IsShort) :
    ofLine here root before message = .ok (ofCut here root before file tail) := by
  unfold ofLine
  rw [hcut]
  dsimp only
  rw [readNumber?_eq_ok hshort.line, readNumber?_eq_ok hshort.column]
  rfl

/-- What is read of a message that is located: the numbers of its place, its severity and its
body, and the name of its file. -/
theorem ofLine_of_isLeastSplit {message file : Text} {place : Place} {severity : Severity}
    {body : Text} (here root : Text) (before : Option Diagnostic)
    (hline : Point.char '\n' ∉ message.points)
    (h : IsLeastSplit message file place severity body) (hshort : place.IsShort) :
    ∃ d, ofLine here root before message = .ok d ∧ d.file = some (reportedFile here root file) ∧
      d.line = place.numbers[0]? ∧ d.column = place.numbers[1]? ∧ d.severity = severity ∧
      d.message ++ d.codeText = body := by
  have hcut := (cut?_eq_some_iff hline).mpr ⟨place, severity, body, h, rfl⟩
  have hnumber : ∀ i : Nat, ∀ digits ∈ place.numerals[i]?, digits.length ≤ Text.numeralLimit :=
    fun i digits hdigits => hshort digits (List.mem_of_getElem? hdigits)
  exact ⟨_, ofLine_of_cut? here root before hcut ⟨hnumber 0, hnumber 1⟩, rfl,
    (getElem?_numbers place 0).symm, (getElem?_numbers place 1).symm, rfl, splitCode_append rfl⟩

theorem ofLine_of_not_isSplit {here root message : Text} (before : Option Diagnostic)
    (hline : Point.char '\n' ∉ message.points)
    (h : ¬ ∃ file place severity body, IsSplit message file place severity body) :
    ofLine here root before message = .ok (.bare message) := by
  have hcut : cut? message = none := by
    refine Option.eq_none_iff_forall_ne_some.mpr ?_
    rintro ⟨file, tail⟩ hsome
    obtain ⟨place, severity, body, hleast, -⟩ := (cut?_eq_some_iff hline).mp hsome
    exact h ⟨file, place, severity, body, hleast.toIsSplit⟩
  unfold ofLine
  rw [hcut]

/-- A message that can be read: it is one line, and no numeral of its place is too long. -/
structure IsReadable (message : Text) : Prop where
  one_line : Point.char '\n' ∉ message.points
  isShort : ∀ file place severity body, IsLeastSplit message file place severity body →
    place.IsShort

theorem length_le_of_mem_numerals {place : Place} {digits : List Char}
    (h : digits ∈ place.numerals) : digits.length ≤ place.text.length := by
  cases place with
  | nowhere => cases h
  | line line =>
      obtain rfl := List.mem_singleton.mp h
      rw [Place.text_line, Text.length_append]
      exact Nat.le_add_left_of_le (Nat.le_of_eq (List.length_map _).symm)
  | column line column =>
      have hline : line.length = (Text.ofChars line).length := (List.length_map _).symm
      have hcolumn : column.length = (Text.ofChars column).length := (List.length_map _).symm
      simp only [Place.text_column, Text.length_append]
      rcases List.mem_pair.mp h with rfl | rfl <;> omega

theorem isReadable_of_length_le {message : Text} (hline : Point.char '\n' ∉ message.points)
    (hlength : message.length ≤ Text.numeralLimit) : IsReadable message := by
  refine ⟨hline, fun file place severity body hleast digits hdigits => ?_⟩
  have hle := length_le_of_mem_numerals hdigits
  rw [hleast.eq_append] at hlength
  unfold tailText at hlength
  simp only [Text.length_append] at hlength
  omega

/-- Whatever was reported before it, a message is read. -/
theorem ofLine_isReading {here root message : Text} (hroot : Mount.IsMountRoot root)
    (h : IsReadable message) (before : Option Diagnostic) :
    ∃ d, ofLine here root before message = .ok d ∧ IsReading here root message d := by
  by_cases hsplit : ∃ file place severity body, IsSplit message file place severity body
  · obtain ⟨_, _, _, _, hany⟩ := hsplit
    obtain ⟨file, place, severity, body, hleast⟩ := exists_isLeastSplit hany
    obtain ⟨d, hd, hfile, hnumber, hnumber', rfl, hbody⟩ :=
      ofLine_of_isLeastSplit here root before h.one_line hleast (h.isShort _ _ _ _ hleast)
    refine ⟨d, hd, ?_, ?_, ?_, fun hnone => absurd ⟨_, _, _, _, hany⟩ hnone⟩
    · rw [hfile]
      exact iff_of_true rfl ⟨_, _, _, _, hany⟩
    · intro file' place' severity' body' name hleast' hname
      obtain ⟨rfl, rfl, rfl, rfl⟩ := hleast'.unique hleast
      rw [reportedFile_of_liesBelow hroot hname] at hfile
      exact ⟨hfile, fun hplace => render_eq hplace hfile hnumber hnumber' hbody⟩
    · intro file' place' severity' body' hleast' hname
      obtain ⟨rfl, rfl, rfl, rfl⟩ := hleast'.unique hleast
      rw [reportedFile_of_not_liesBelow hroot hname] at hfile
      refine ⟨hfile, fun hplace => ?_⟩
      rw [hleast'.eq_append]
      exact render_eq hplace hfile hnumber hnumber' hbody
  · refine ⟨_, ofLine_of_not_isSplit before h.one_line hsplit, ?_, ?_, ?_, ?_⟩
    · exact iff_of_false (fun hlocated => nomatch hlocated) hsplit
    · intro file place severity body name hleast
      exact absurd ⟨_, _, _, _, hleast.toIsSplit⟩ hsplit
    · intro file place severity body hleast
      exact absurd ⟨_, _, _, _, hleast.toIsSplit⟩ hsplit
    · intro _
      exact ⟨rfl, rfl, rfl, rfl, rfl⟩

/-! ## All messages -/

theorem ofLinesAfter_isReading {here root : Text} (hroot : Mount.IsMountRoot root)
    {messages : List Text} (h : ∀ message ∈ messages, IsReadable message)
    (before : Option Diagnostic) : ∃ ds, ofLinesAfter here root before messages = .ok ds ∧
      List.Forall₂ (IsReading here root) messages ds := by
  induction messages generalizing before with
  | nil => exact ⟨[], rfl, .nil⟩
  | cons message messages ih =>
      have hfirst : ∃ d, ofLine here root before message = .ok d ∧
          IsReading here root message d :=
        ofLine_isReading hroot (h message List.mem_cons_self) before
      obtain ⟨d, hd, hreading⟩ := hfirst
      obtain ⟨ds, hds, hreadings⟩ := ih (fun m hm => h m (List.mem_cons_of_mem _ hm))
        (if d.isLocatedError then some d else before)
      refine ⟨d :: ds, ?_, .cons hreading hreadings⟩
      unfold ofLinesAfter
      rw [hd]
      show (do let ds ← ofLinesAfter here root _ messages; return d :: ds) = _
      rw [hds]
      rfl

/-- **Messages are read without loss**: each of them is located if and only if it can be split,
where its shortest file ends, and the diagnostic is written as the message again, or with the name
below the mount root in place of the file. -/
theorem ofLines_located {here root : Text} (hroot : Mount.IsMountRoot root) {messages : List Text}
    (h : ∀ message ∈ messages, IsReadable message) :
    ∃ ds, ofLines here root messages = .ok ds ∧ List.Forall₂ (IsReading here root) messages ds :=
  ofLinesAfter_isReading hroot h none

/-- A file with a colon in its name below the root, a message that looks like two, and a message
without a place. -/
def mixedMessages : List Text :=
  ["/m/./a: b.py:3: error: c: note: d  [x]  [y]", "e.py:7:0: note: 7:1: error: f", "g: error"]

theorem ofLines_located_mixed :
    Mount.IsMountRoot "/m" ∧ (∀ message ∈ mixedMessages, IsReadable message) ∧
      ∃ ds, ofLines "/here" "/m" mixedMessages = .ok ds ∧
        List.Forall₂ (IsReading "/here" "/m") mixedMessages ds := by
  have hroot : Mount.IsMountRoot "/m" := ⟨by decide, by decide⟩
  have hshort : ∀ message ∈ mixedMessages,
      Point.char '\n' ∉ message.points ∧ message.length ≤ Text.numeralLimit := by decide
  have hreadable : ∀ message ∈ mixedMessages, IsReadable message := fun message hmem =>
    isReadable_of_length_le (hshort message hmem).1 (hshort message hmem).2
  exact ⟨hroot, hreadable, ofLines_located hroot hreadable⟩

example : (ofLines "/here" "/m" ["/m/./a: b.py:3: error: c: note: d  [x]  [y]", "e: error"]).map
    (List.map render) =
      .ok ["a: b.py:3: error: c: note: d  [x]  [y]", "error: e: error"] := by
  decide

end Casebook.Diagnostic

import Casebook.Proofs.Diagnostic.Rendered

/-!
# What kind a diagnostic is of

Messages are read one after the other, and all that is carried from one to the next is the last
located error. It matters for notes without a code only, which are of its kind if they are about the
same line. Main statement: `ofLines_kinds`.

A message is read unless a numeral in it is too long. Then none of the messages is
(`long_numeral_refused`).
-/

namespace Casebook.Diagnostic

variable {here root message : Text} {before : Option Diagnostic}

/-! ## One message -/

/-- No numeral of the message is too long to be read. -/
def IsLegible (message : Text) : Prop :=
  ∀ file tail, cut? message = some (file, tail) → tail.IsShort

/-- What a legible message is read as. -/
def reading (here root : Text) (before : Option Diagnostic) (message : Text) : Diagnostic :=
  match cut? message with
  | none => bare message
  | some (file, tail) => ofCut here root before file tail

theorem ofLine_of_isLegible (h : IsLegible message) :
    ofLine here root before message = .ok (reading here root before message) := by
  unfold reading
  cases hcut : cut? message with
  | none =>
      unfold ofLine
      rw [hcut]
  | some cut =>
      obtain ⟨file, tail⟩ := cut
      exact ofLine_of_cut? here root before hcut (h file tail hcut)

theorem readNumber?_of_long {digits : List Char} (h : Text.numeralLimit < digits.length) :
    (((some digits).map fun digits => (do return some (Int.ofNat (← Text.readNumeral digits)) :
      Except Text.LongNumeral (Option Int))).getD (.ok none)) = .error ⟨digits.length⟩ := by
  have hread : Text.readNumeral digits = .error ⟨digits.length⟩ := if_neg (Nat.not_le.mpr h)
  show (do return some (Int.ofNat (← Text.readNumeral digits)) :
    Except Text.LongNumeral (Option Int)) = _
  rw [hread]
  rfl

/-- The first numeral that is too long is what is reported. -/
theorem ofLine_of_long_line {file : Text} {tail : Tail} (hcut : cut? message = some (file, tail))
    {digits : List Char} (hline : tail.line = some digits) (h : Text.numeralLimit < digits.length) :
    ofLine here root before message = .error ⟨digits.length⟩ := by
  unfold ofLine
  rw [hcut]
  dsimp only
  rw [hline, readNumber?_of_long h]
  rfl

theorem ofLine_of_long_column {file : Text} {tail : Tail} (hcut : cut? message = some (file, tail))
    (hline : ∀ digits ∈ tail.line, digits.length ≤ Text.numeralLimit)
    {digits : List Char} (hcolumn : tail.column = some digits)
    (h : Text.numeralLimit < digits.length) :
    ofLine here root before message = .error ⟨digits.length⟩ := by
  unfold ofLine
  rw [hcut]
  dsimp only
  rw [readNumber?_eq_ok hline, hcolumn, readNumber?_of_long h]
  rfl

/-- **A message is read exactly if it is legible**, whatever came before it. -/
theorem ofLine_isOk_iff :
    (∃ d, ofLine here root before message = .ok d) ↔ IsLegible message := by
  constructor
  · rintro ⟨d, hd⟩ file tail hcut
    have hline : ∀ digits ∈ tail.line, digits.length ≤ Text.numeralLimit := by
      intro digits hdigits
      by_contra hlong
      cases hd.symm.trans (ofLine_of_long_line hcut hdigits (Nat.not_le.mp hlong))
    refine ⟨hline, ?_⟩
    intro digits hdigits
    by_contra hlong
    cases hd.symm.trans (ofLine_of_long_column hcut hline hdigits (Nat.not_le.mp hlong))
  · intro h
    exact ⟨_, ofLine_of_isLegible h⟩

/-- What came before makes a difference to the kind only. -/
theorem reading_eq (here root : Text) (before : Option Diagnostic) (message : Text) :
    reading here root before message =
      { reading here root none message with kind := (reading here root before message).kind } := by
  unfold reading
  split <;> rfl

/-- The diagnostic is about an import that was not resolved, because of its code or because it is a
note without one that belongs to such an error. -/
def IsAboutImport (before : Option Diagnostic) (d : Diagnostic) : Prop :=
  d.file.isSome = true ∧ ((∃ code ∈ moduleCodes, d.code = some code) ∨
    d.severity = .note ∧ d.code = none ∧ ∃ error, before = some error ∧ error.file = d.file ∧
      error.line = d.line ∧ error.kind = .moduleResolution)

/-- Without a code, a note about the line of the last located error is of the kind of that error, and
everything else is about what was checked. -/
theorem kindOf_cases (before : Option Diagnostic) (file : Text) (line : Option Int)
    (severity : Severity) :
    (∃ error, before = some error ∧ severity = .note ∧ error.file = some file ∧ error.line = line ∧
      kindOf before file line severity none = error.kind) ∨
    (∀ error, before = some error → ¬ (severity = .note ∧ error.file = some file ∧
      error.line = line)) ∧ kindOf before file line severity none = .checking := by
  unfold kindOf
  cases before with
  | none => exact Or.inr ⟨by simp, rfl⟩
  | some error =>
      dsimp only
      by_cases hsame : (severity == .note && error.file == some file && error.line == line) = true
      · rw [if_pos hsame]
        simp only [Bool.and_eq_true, beq_iff_eq] at hsame
        exact Or.inl ⟨error, rfl, hsame.1.1, hsame.1.2, hsame.2, rfl⟩
      · rw [if_neg hsame]
        simp only [Bool.and_eq_true, beq_iff_eq, and_assoc] at hsame
        exact Or.inr ⟨fun _ herror => Option.some.inj herror ▸ hsame, rfl⟩

theorem kindOf_eq_iff {file : Text} {line : Option Int} {severity : Severity}
    {code : Option Text} : kindOf before file line severity code = .moduleResolution ↔
      (∃ c ∈ moduleCodes, code = some c) ∨ severity = .note ∧ code = none ∧
        ∃ error, before = some error ∧ error.file = some file ∧ error.line = line ∧
          error.kind = .moduleResolution := by
  cases code with
  | some c =>
      have hcode : kindOf before file line severity (some c) =
          kindOf none file line severity (some c) := rfl
      rw [hcode, kindOf_none_eq_iff]
      simp
  | none =>
      rcases kindOf_cases before file line severity with
        ⟨error, rfl, rfl, hfile, hline, hkind⟩ | ⟨hother, hkind⟩
      · rw [hkind]
        simp [hfile, hline]
      · rw [hkind]
        refine iff_of_false (fun heq => nomatch heq) ?_
        rintro (⟨c, -, hc⟩ | ⟨hnote, -, error, herror, hfile, hline, -⟩)
        · cases hc
        · exact hother error herror ⟨hnote, hfile, hline⟩

theorem kind_reading_iff :
    (reading here root before message).kind = .moduleResolution ↔
      IsAboutImport before (reading here root before message) := by
  unfold reading
  split
  · exact iff_of_false (fun heq => nomatch heq) fun h => nomatch h.1
  · unfold IsAboutImport ofCut
    rw [kindOf_eq_iff]
    simp

/-- Only notes without a code depend on what came before. -/
theorem kindOf_eq_or {file : Text} {line : Option Int} {severity : Severity} {code : Option Text} :
    kindOf before file line severity code = kindOf none file line severity code ∨
      severity = .note ∧ code = none ∧ ∃ error, before = some error ∧ error.file = some file ∧
        error.line = line ∧ kindOf before file line severity code = error.kind := by
  cases code with
  | some c => exact Or.inl rfl
  | none =>
      rcases kindOf_cases before file line severity with
        ⟨error, herror, hnote, hfile, hline, hkind⟩ | ⟨-, hkind⟩
      · exact Or.inr ⟨hnote, rfl, error, herror, hfile, hline, hkind⟩
      · exact Or.inl hkind

/-! ## The last located error -/

/-- The last located error of some diagnostics. -/
def lastError (ds : List Diagnostic) : Option Diagnostic := ds.reverse.find? isLocatedError

theorem lastError_cons (d : Diagnostic) (ds : List Diagnostic) :
    lastError (d :: ds) = (lastError ds).or (if d.isLocatedError then some d else none) := by
  unfold lastError
  rw [List.reverse_cons, List.find?_append, List.find?_singleton]

theorem or_lastError_cons (d : Diagnostic) (ds : List Diagnostic) (before : Option Diagnostic) :
    (lastError (d :: ds)).or before =
      (lastError ds).or (if d.isLocatedError then some d else before) := by
  rw [lastError_cons, Option.or_assoc]
  split <;> rfl

/-- What messages are read as if all of them are legible. -/
def readings (here root : Text) (before : Option Diagnostic) : List Text → List Diagnostic
  | [] => []
  | message :: messages =>
    let d := reading here root before message
    d :: readings here root (if d.isLocatedError then some d else before) messages

theorem readings_cons (here root : Text) (before : Option Diagnostic) (message : Text)
    (messages : List Text) : readings here root before (message :: messages) =
      reading here root before message :: readings here root
        (if (reading here root before message).isLocatedError then
          some (reading here root before message) else before) messages := rfl

theorem ofLinesAfter_of_isLegible {messages : List Text} (h : ∀ message ∈ messages, IsLegible message)
    (before : Option Diagnostic) :
    ofLinesAfter here root before messages = .ok (readings here root before messages) := by
  induction messages generalizing before with
  | nil => rfl
  | cons message messages ih =>
      obtain ⟨hfirst, hrest⟩ := List.forall_mem_cons.mp h
      unfold ofLinesAfter
      rw [ofLine_of_isLegible hfirst]
      show (do let ds ← ofLinesAfter here root _ messages; return _ :: ds) = _
      rw [ih hrest]
      rfl

theorem isLegible_of_ofLinesAfter {messages : List Text} {ds : List Diagnostic}
    (h : ofLinesAfter here root before messages = .ok ds) :
    ∀ message ∈ messages, IsLegible message := by
  induction messages generalizing before ds with
  | nil => exact fun _ hmem => (List.not_mem_nil hmem).elim
  | cons message messages ih =>
      unfold ofLinesAfter at h
      cases hfirst : ofLine here root before message with
      | error e =>
          rw [hfirst] at h
          cases h
      | ok d =>
          rw [hfirst] at h
          change (do let ds ← ofLinesAfter here root _ messages; return d :: ds) = _ at h
          cases hrest : ofLinesAfter here root (if d.isLocatedError then some d else before) messages with
          | error e =>
              rw [hrest] at h
              cases h
          | ok rest => exact List.forall_mem_cons.mpr ⟨ofLine_isOk_iff.mp ⟨d, hfirst⟩, ih hrest⟩

/-- **Each message is read after the last located error before it.** -/
theorem getElem?_readings (messages : List Text) (before : Option Diagnostic) (i : Nat) :
    (readings here root before messages)[i]? = messages[i]?.map
      (reading here root ((lastError ((readings here root before messages).take i)).or before)) := by
  induction messages generalizing before i with
  | nil => rfl
  | cons message messages ih =>
      rw [readings_cons]
      cases i with
      | zero => rfl
      | succ i =>
          rw [List.getElem?_cons_succ, List.getElem?_cons_succ, List.take_succ_cons,
            or_lastError_cons]
          exact ih _ i

/-- What follows other messages is read after the last located error of theirs. -/
theorem readings_append (ms ns : List Text) (before : Option Diagnostic) :
    readings here root before (ms ++ ns) = readings here root before ms ++
      readings here root ((lastError (readings here root before ms)).or before) ns := by
  induction ms generalizing before with
  | nil => rfl
  | cons message ms ih =>
      rw [List.cons_append, readings_cons, readings_cons, or_lastError_cons, ih, List.cons_append]

theorem length_readings (messages : List Text) (before : Option Diagnostic) :
    (readings here root before messages).length = messages.length := by
  induction messages generalizing before with
  | nil => rfl
  | cons message messages ih =>
      rw [readings_cons, List.length_cons, List.length_cons, ih]

/-- Each diagnostic is that of its message alone, but for the kind. -/
theorem forall₂_readings {messages : List Text} (h : ∀ message ∈ messages, IsLegible message)
    (before : Option Diagnostic) :
    List.Forall₂ (fun message d => ∃ kind, ofLines here root [message] = .ok [{ d with kind }])
      messages (readings here root before messages) := by
  induction messages generalizing before with
  | nil => exact .nil
  | cons message messages ih =>
      obtain ⟨hfirst, hrest⟩ := List.forall_mem_cons.mp h
      rw [readings_cons]
      refine .cons ⟨(reading here root none message).kind, ?_⟩ (ih hrest _)
      rw [reading_eq here root before message]
      exact ofLinesAfter_of_isLegible (List.forall_mem_singleton.mpr hfirst) none

/-! ## With and without what came before -/

/-- A diagnostic is the same but for its kind, which may be that of the last error before all of
them, if it is a note without a code and no other located error is in front of it. -/
structure Inherits (last : Option Diagnostic) (front : List Diagnostic) (d inherited : Diagnostic) :
    Prop where
  same : inherited = { d with kind := inherited.kind }
  of_ne : inherited.kind ≠ d.kind → d.file.isSome = true ∧ d.severity = .note ∧ d.code = none ∧
    (∀ e ∈ front, e.isLocatedError = false) ∧ ∃ error, last = some error ∧ error.file = d.file ∧
      error.line = d.line ∧ inherited.kind = error.kind

theorem inherits_refl (last : Option Diagnostic) (front : List Diagnostic) (d : Diagnostic) :
    Inherits last front d d := ⟨rfl, fun h => absurd rfl h⟩

theorem inherits_reading (here root : Text) (last : Option Diagnostic) (message : Text) :
    Inherits last [] (reading here root none message) (reading here root last message) := by
  refine ⟨reading_eq here root last message, fun hne => ?_⟩
  unfold reading at hne ⊢
  split at hne
  · exact absurd rfl hne
  · rcases kindOf_eq_or with hkind | ⟨hnote, hcode, error, hlast, hfile, hline, hkind⟩
    · exact absurd hkind hne
    · exact ⟨rfl, hnote, hcode, fun _ hmem => (List.not_mem_nil hmem).elim, error, hlast, hfile,
        hline, hkind⟩

/-- A located error is read the same after any other one. -/
theorem reading_of_isLocatedError {last : Option Diagnostic}
    (h : (reading here root none message).isLocatedError = true) :
    reading here root last message = reading here root none message := by
  obtain ⟨hsame, hne⟩ := inherits_reading here root last message
  by_cases hkind : (reading here root last message).kind = (reading here root none message).kind
  · rw [hsame, hkind]
  · obtain ⟨-, hnote, -⟩ := hne hkind
    unfold isLocatedError at h
    rw [hnote, Bool.and_eq_true] at h
    exact absurd h.2 (by decide)

theorem isLocatedError_reading (here root : Text) (last : Option Diagnostic) (message : Text) :
    (reading here root last message).isLocatedError =
      (reading here root none message).isLocatedError := by
  rw [reading_eq here root last message]
  rfl

/-- **Messages that follow others** are read as they are alone, but for notes in front of their first
located error. -/
theorem inherits_readings (messages : List Text) (last : Option Diagnostic) {i : Nat}
    {d inherited : Diagnostic} (h : (readings here root none messages)[i]? = some d)
    (h' : (readings here root last messages)[i]? = some inherited) :
    Inherits last ((readings here root none messages).take i) d inherited := by
  induction messages generalizing i with
  | nil => cases h
  | cons message messages ih =>
      rw [readings_cons] at h h' ⊢
      cases i with
      | zero =>
          cases h
          cases h'
          exact inherits_reading here root last message
      | succ i =>
          rw [List.getElem?_cons_succ] at h h'
          rw [isLocatedError_reading] at h'
          by_cases herror : (reading here root none message).isLocatedError = true
          · -- from here on both are read after this error
            rw [if_pos herror] at h h'
            rw [reading_of_isLocatedError herror] at h'
            cases h.symm.trans h'
            exact inherits_refl _ _ _
          · rw [if_neg herror] at h h' ⊢
            obtain ⟨hsame, hne⟩ := ih h h'
            refine ⟨hsame, fun hkind => ?_⟩
            obtain ⟨hfile, hnote, hcode, hfront, hlast⟩ := hne hkind
            rw [Bool.not_eq_true] at herror
            exact ⟨hfile, hnote, hcode, List.forall_mem_cons.mpr ⟨herror, hfront⟩, hlast⟩

/-! ## All messages -/

/-- **What a list of messages is read as.** They are read exactly if all of them are legible; there is
one diagnostic for each, in order, and all but its kind is what the message alone is read as. The kind
is determined by the code, or by the last located error before a note without one. And of two lists
one after the other, the second is read as it is alone, but for such notes in front of its first
located error, which may be of the kind of the last located error of the first list. -/
theorem ofLines_kinds (here root : Text) (messages : List Text) :
    ((∃ ds, ofLines here root messages = .ok ds) ↔ ∀ message ∈ messages, IsLegible message) ∧
    ∀ ds, ofLines here root messages = .ok ds →
      List.Forall₂ (fun message d => ∃ kind, ofLines here root [message] = .ok [{ d with kind }])
        messages ds ∧
      (∀ i d, ds[i]? = some d →
        (d.kind = .moduleResolution ↔ IsAboutImport (lastError (ds.take i)) d)) ∧
      ∀ ms ns, messages = ms ++ ns → ∃ front back alone, ds = front ++ back ∧
        ofLines here root ms = .ok front ∧ ofLines here root ns = .ok alone ∧
        back.length = alone.length ∧ ∀ i d inherited, alone[i]? = some d → back[i]? = some inherited →
          Inherits (lastError front) (alone.take i) d inherited := by
  have hread : ∀ {ms : List Text}, (∀ message ∈ ms, IsLegible message) →
      ofLines here root ms = .ok (readings here root none ms) :=
    fun h => ofLinesAfter_of_isLegible h none
  refine ⟨⟨fun ⟨ds, hds⟩ => isLegible_of_ofLinesAfter hds, fun h => ⟨_, hread h⟩⟩, fun ds hds => ?_⟩
  have hlegible := isLegible_of_ofLinesAfter hds
  cases hds.symm.trans (hread hlegible)
  refine ⟨forall₂_readings hlegible none, fun i d hd => ?_, fun ms ns hsplit => ?_⟩
  · rw [getElem?_readings, Option.or_none] at hd
    obtain ⟨message, -, rfl⟩ := Option.map_eq_some_iff.mp hd
    exact kind_reading_iff
  · subst hsplit
    obtain ⟨hms, hns⟩ := List.forall_mem_append.mp hlegible
    refine ⟨_, _, _, readings_append ms ns none, hread hms, hread hns, ?_, ?_⟩
    · rw [length_readings, length_readings]
    · intro i d inherited hd hinherited
      rw [Option.or_none] at hinherited
      exact inherits_readings ns _ hd hinherited

/-- A note is of the kind of the error about its line, also behind a message without a place. -/
example : (ofLines "/here" "/m" ["a:3: error: e  [import]", "b", "a:3: note: n", "a:4: note: o"]).map
    (List.map kind) = .ok [.moduleResolution, .checking, .moduleResolution, .checking] := by
  decide

/-! ## Numerals that are too long -/

/-- A line number that is too long keeps a message from being read, and with it all others. -/
theorem ofLines_of_long_line {file body : Text} {digits : List Char} {severity : Severity}
    {messages : List Text} (hne : file ≠ "") (hcolon : Point.char ':' ∉ file.points)
    (hdigits : ∀ c ∈ digits, Text.isDigit c = true) (hlong : Text.numeralLimit < digits.length)
    (hline : Point.char '\n' ∉ (file ++ tailText (.line digits) severity body).points) :
    ofLines here root ((file ++ tailText (.line digits) severity body) :: messages) =
      .error ⟨digits.length⟩ := by
  have hnonempty : digits ≠ [] := List.ne_nil_of_length_pos (Nat.zero_lt_of_lt hlong)
  have hnumeric : (Place.line digits).IsNumeric :=
    List.forall_mem_singleton.mpr ⟨hnonempty, hdigits⟩
  have hcut := (cut?_eq_some_iff hline).mpr
    ⟨_, _, _, isLeastSplit_of_not_mem hne hcolon hnumeric, rfl⟩
  unfold ofLines ofLinesAfter
  rw [ofLine_of_long_line hcut rfl hlong]
  rfl

/-- Seven, with more zeros in front of it than can be read. -/
def longSeven : List Char := List.replicate Text.numeralLimit '0' ++ ['7']

theorem mem_longSeven {c : Char} (h : c ∈ longSeven) : c = '0' ∨ c = '7' := by
  rcases List.mem_append.mp h with h | h
  · exact Or.inl (List.eq_of_mem_replicate h)
  · exact Or.inr (List.mem_singleton.mp h)

theorem length_longSeven : longSeven.length = 4301 := by
  unfold longSeven
  rw [List.length_append, List.length_replicate]
  rfl

/-- A message about line seven, with too many digits. -/
def longMessage : Text := "a:" ++ (Text.ofChars longSeven ++ (": error: x" : Text))

theorem ofLines_longMessage (here root : Text) :
    ofLines here root [longMessage] = .error ⟨4301⟩ := by
  have htext : longMessage =
      "a" ++ tailText (.line longSeven) .error "x" := by
    rw [tailText_line]
    rfl
  have hdigits : ∀ c ∈ longSeven, Text.isDigit c = true := by
    intro c hc
    rcases mem_longSeven hc with rfl | rfl <;> decide
  have hfeed : Point.char '\n' ∉ (Text.ofChars longSeven).points := by
    intro hmem
    obtain ⟨c, hc, heq⟩ := List.mem_map.mp hmem
    rcases mem_longSeven hc with rfl | rfl <;> cases heq
  have hline : Point.char '\n' ∉ ("a" ++ tailText (.line longSeven) .error "x" : Text).points := by
    rw [← htext]
    unfold longMessage
    rw [not_mem_points_append, not_mem_points_append]
    exact ⟨by decide, hfeed, by decide⟩
  rw [htext, ← length_longSeven]
  refine ofLines_of_long_line (by decide) (by decide) hdigits ?_ hline
  rw [length_longSeven]
  decide

/-- **A message about a line is not read**, and nothing is, if the number is too long. -/
theorem long_numeral_refused :
    ofLines "/here" "/m" ["a:" ++ (Text.ofChars longSeven ++ (": error: x" : Text))] =
      .error ⟨4301⟩ := ofLines_longMessage "/here" "/m"

end Casebook.Diagnostic

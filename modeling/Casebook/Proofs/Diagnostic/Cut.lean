import Casebook.Diagnostic.Message
import Casebook.Proofs.Text.Split

/-!
# Cutting checker messages

`IsSplit` says what a located message looks like: a file, a place, a severity and a body, in this
order. What stands behind a file determines place, severity and body (`tail?_eq_some_iff`), so the
only freedom is where the file ends. Main statement (`cut?_eq_some_iff`): a message of one line is
cut at the end of the shortest file that a split of it has.
-/

namespace Casebook.Diagnostic

/-- What a located message may have between its file and its severity: nothing, a line, or a line
and a column, in digits. -/
inductive Place
  | nowhere
  | line (line : List Char)
  | column (line column : List Char)
deriving Repr, DecidableEq

namespace Place

def numerals : Place → List (List Char)
  | nowhere => []
  | line l => [l]
  | column l c => [l, c]

/-- A colon stands in front of each number. -/
def text (p : Place) : Text := ⟨p.numerals.flatMap fun digits => ':' :: digits.map Point.char⟩

/-- The numbers are written in digits. -/
def IsNumeric (p : Place) : Prop :=
  ∀ digits ∈ p.numerals, digits ≠ [] ∧ ∀ c ∈ digits, Text.isDigit c = true

instance (p : Place) : Decidable p.IsNumeric :=
  inferInstanceAs (Decidable (∀ digits ∈ p.numerals,
    digits ≠ [] ∧ ∀ c ∈ digits, Text.isDigit c = true))

def line? (p : Place) : Option (List Char) := p.numerals[0]?

def column? (p : Place) : Option (List Char) := p.numerals[1]?

theorem text_line (line : List Char) : (Place.line line).text = ":" ++ Text.ofChars line := by
  show Text.mk (Point.char ':' :: (line.map Point.char ++ [])) = _
  rw [List.append_nil]
  rfl

theorem text_column (line column : List Char) :
    (Place.column line column).text =
      ":" ++ (Text.ofChars line ++ (":" ++ Text.ofChars column)) := by
  show Text.mk (Point.char ':' :: (line.map Point.char ++
    Point.char ':' :: (column.map Point.char ++ []))) = _
  rw [List.append_nil]
  rfl

end Place

/-! ## Behind the file -/

/-- A text that does not begin with a digit. -/
def NoDigitFirst (t : Text) : Prop := ∀ p, t.points.head? = some p → p.passes Text.isDigit = false

theorem noDigitFirst_colon (t : Text) : NoDigitFirst (":" ++ t) := by
  intro p hp
  obtain rfl := Option.some.inj hp
  decide

/-- Every text is a run of digits and a rest that does not go on with a digit. -/
theorem exists_digits (t : Text) : ∃ digits rest, t = Text.ofChars digits ++ rest ∧
    (∀ c ∈ digits, Text.isDigit c = true) ∧ NoDigitFirst rest := by
  obtain ⟨ps⟩ := t
  induction ps with
  | nil => exact ⟨[], ⟨[]⟩, rfl, by simp, fun p hp => by cases hp⟩
  | cons p ps ih =>
      cases hp : p.passes Text.isDigit with
      | false =>
          refine ⟨[], ⟨p :: ps⟩, rfl, by simp, fun q hq => ?_⟩
          obtain rfl := Option.some.inj hq
          exact hp
      | true =>
          obtain ⟨digits, rest, heq, hdigits, hrest⟩ := ih
          cases p with
          | half half => cases hp
          | char c =>
              refine ⟨c :: digits, rest, ?_, List.forall_mem_cons.mpr ⟨hp, hdigits⟩, hrest⟩
              exact congrArg (fun t : Text => Text.mk (.char c :: t.points)) heq

/-- All digits behind a colon are read as one number. -/
theorem numberAt?_append {digits : List Char} (hdigits : ∀ c ∈ digits, Text.isDigit c = true)
    {rest : Text} (hrest : NoDigitFirst rest) :
    numberAt? (":" ++ (Text.ofChars digits ++ rest)) =
      if digits = [] then none else some (digits, rest) := by
  obtain ⟨ps⟩ := rest
  have hpass : ∀ p ∈ digits.map Point.char, p.passes Text.isDigit = true := by
    simpa [Point.passes] using hdigits
  have hstop : ps.takeWhile (Point.passes Text.isDigit) = [] ∧
      ps.dropWhile (Point.passes Text.isDigit) = ps := by
    cases ps with
    | nil => exact ⟨rfl, rfl⟩
    | cons p ps =>
        have hp : ¬ p.passes Text.isDigit = true := by simp [hrest p rfl]
        exact ⟨List.takeWhile_cons_of_neg hp, List.dropWhile_cons_of_neg hp⟩
  have htake : (Text.ofChars digits ++ ⟨ps⟩).points.takeWhile (Point.passes Text.isDigit) =
      digits.map Point.char := by
    show (digits.map Point.char ++ ps).takeWhile _ = _
    rw [List.takeWhile_append_of_pos hpass, hstop.1, List.append_nil]
  have hdrop : (Text.ofChars digits ++ ⟨ps⟩).points.dropWhile (Point.passes Text.isDigit) = ps := by
    show (digits.map Point.char ++ ps).dropWhile _ = _
    rw [List.dropWhile_append_of_pos hpass, hstop.2]
  have hchars : (digits.map Point.char).filterMap Point.char? = digits := by
    rw [List.filterMap_map]
    exact List.filterMap_some
  unfold numberAt?
  rw [Text.after?_append, Option.bind_some]
  dsimp only
  rw [htake, hdrop, hchars]
  cases digits with
  | nil => rfl
  | cons d ds => rfl

theorem numberAt?_eq_none_of_after {t : Text} (h : Text.after? ":" t = none) :
    numberAt? t = none := by
  unfold numberAt?
  rw [h]
  rfl

/-- What a text is like where a number is read, and where none is read. -/
theorem numberAt?_cases (t : Text) :
    (∃ digits rest, numberAt? t = some (digits, rest) ∧ digits ≠ [] ∧
      (∀ c ∈ digits, Text.isDigit c = true) ∧ t = ":" ++ (Text.ofChars digits ++ rest)) ∨
    numberAt? t = none := by
  cases hafter : Text.after? ":" t with
  | none => exact Or.inr (numberAt?_eq_none_of_after hafter)
  | some behind =>
      obtain rfl := Text.after?_eq_some_iff.mp hafter
      obtain ⟨digits, rest, rfl, hdigits, hrest⟩ := exists_digits behind
      rw [numberAt?_append hdigits hrest]
      by_cases hne : digits = []
      · exact Or.inr (if_pos hne)
      · exact Or.inl ⟨digits, rest, if_neg hne, hne, hdigits, rfl⟩

/-- What stands from the severity on. -/
def severityText (severity : Severity) (body : Text) : Text :=
  ": " ++ (severity.name ++ (": " ++ body))

theorem severityText_eq_append (severity : Severity) (body : Text) :
    severityText severity body = ":" ++ (" " ++ (severity.name ++ (": " ++ body))) := by
  rw [← Text.append_assoc]
  rfl

theorem numberAt?_severityText (severity : Severity) (body : Text) :
    numberAt? (severityText severity body) = none := by
  have hrest : NoDigitFirst (" " ++ (severity.name ++ (": " ++ body))) := by
    intro p hp
    obtain rfl := Option.some.inj hp
    decide
  have hnone : ∀ c ∈ ([] : List Char), Text.isDigit c = true := by simp
  rw [severityText_eq_append]
  exact numberAt?_append hnone hrest

theorem severity_eq_of_head : ∀ s t : Severity,
    (Text.ofString s.name).points.head? = (Text.ofString t.name).points.head? → s = t := by
  intro s t
  cases s <;> cases t <;> decide

theorem points_name_ne_nil (s : Severity) : (Text.ofString s.name).points ≠ [] := by
  cases s <;> decide

/-- No severity begins like another one. -/
theorem after?_name (s severity : Severity) (body : Text) :
    Text.after? (s.name ++ ": ") (severity.name ++ (": " ++ body)) =
      if s = severity then some body else none := by
  split
  · next heq =>
    rw [heq, ← Text.append_assoc]
    exact Text.after?_append _ body
  · next hne =>
    refine if_neg fun hbegins => hne ?_
    obtain ⟨rest, hrest⟩ := Text.begins_iff.mp hbegins
    have hpoints : (Text.ofString severity.name).points ++ (": " ++ body : Text).points =
        (Text.ofString s.name).points ++ ((": " : Text) ++ rest).points := by
      rw [Text.append_assoc] at hrest
      exact congrArg Text.points hrest
    have hhead := congrArg List.head? hpoints
    rw [List.head?_append_of_ne_nil _ (points_name_ne_nil severity),
      List.head?_append_of_ne_nil _ (points_name_ne_nil s)] at hhead
    exact (severity_eq_of_head severity s hhead).symm

theorem severityAt?_eq_some_iff {t body : Text} {severity : Severity} :
    severityAt? t = some (severity, body) ↔ t = severityText severity body := by
  unfold severityAt?
  constructor
  · intro h
    obtain ⟨behind, hbehind, hfind⟩ := Option.bind_eq_some_iff.mp h
    obtain ⟨s, -, hs⟩ := List.exists_of_findSome?_eq_some hfind
    obtain ⟨rest, hrest, heq⟩ := Option.map_eq_some_iff.mp hs
    obtain ⟨rfl, rfl⟩ := Prod.mk.inj heq
    rw [← Text.append_of_after? hbehind, ← Text.append_of_after? hrest, Text.append_assoc]
    rfl
  · rintro rfl
    unfold severityText
    rw [Text.after?_append, Option.bind_some]
    simp only [after?_name]
    cases severity <;> rfl

/-! ## The tail -/

/-- What is read of the tail of a message. -/
def Tail.of (place : Place) (severity : Severity) (body : Text) : Tail :=
  ⟨place.line?, place.column?, severity, body⟩

/-- What follows the file of a located message. -/
def tailText (place : Place) (severity : Severity) (body : Text) : Text :=
  place.text ++ severityText severity body

theorem noDigitFirst_severityText (severity : Severity) (body : Text) :
    NoDigitFirst (severityText severity body) := by
  rw [severityText_eq_append]
  exact noDigitFirst_colon _

theorem tailText_nowhere (severity : Severity) (body : Text) :
    tailText .nowhere severity body = severityText severity body := rfl

theorem tailText_line (line : List Char) (severity : Severity) (body : Text) :
    tailText (.line line) severity body =
      ":" ++ (Text.ofChars line ++ severityText severity body) := by
  unfold tailText
  rw [Place.text_line, Text.append_assoc]

theorem tailText_column (line column : List Char) (severity : Severity) (body : Text) :
    tailText (.column line column) severity body =
      ":" ++ (Text.ofChars line ++ (":" ++ (Text.ofChars column ++ severityText severity body))) := by
  unfold tailText
  rw [Place.text_column]
  simp only [Text.append_assoc]

/-- **The tail of a message can be read in one way only.** -/
theorem tail?_eq_some_iff {t : Text} {tail : Tail} :
    tail? t = some tail ↔ ∃ place severity body, place.IsNumeric ∧
      t = tailText place severity body ∧ tail = .of place severity body := by
  constructor
  · intro h
    unfold tail? at h
    rcases numberAt?_cases t with ⟨line, behind, hline, hne, hdigits, rfl⟩ | hnone
    · rw [hline] at h
      dsimp only at h
      rcases numberAt?_cases behind with ⟨column, rest, hcolumn, hne', hdigits', rfl⟩ | hnone
      · rw [hcolumn] at h
        obtain ⟨⟨severity, body⟩, hseverity, rfl⟩ := Option.map_eq_some_iff.mp h
        obtain rfl := severityAt?_eq_some_iff.mp hseverity
        refine ⟨.column line column, severity, body, ?_, (tailText_column ..).symm, rfl⟩
        exact List.forall_mem_cons.mpr ⟨⟨hne, hdigits⟩, List.forall_mem_singleton.mpr ⟨hne', hdigits'⟩⟩
      · rw [hnone] at h
        obtain ⟨⟨severity, body⟩, hseverity, rfl⟩ := Option.map_eq_some_iff.mp h
        obtain rfl := severityAt?_eq_some_iff.mp hseverity
        refine ⟨.line line, severity, body, ?_, (tailText_line ..).symm, rfl⟩
        exact List.forall_mem_singleton.mpr ⟨hne, hdigits⟩
    · rw [hnone] at h
      obtain ⟨⟨severity, body⟩, hseverity, rfl⟩ := Option.map_eq_some_iff.mp h
      obtain rfl := severityAt?_eq_some_iff.mp hseverity
      exact ⟨.nowhere, severity, body, by decide, rfl, rfl⟩
  · rintro ⟨place, severity, body, hnumeric, rfl, rfl⟩
    have hseverity : severityAt? (severityText severity body) = some (severity, body) :=
      severityAt?_eq_some_iff.mpr rfl
    have hrest := noDigitFirst_severityText severity body
    unfold tail?
    cases place with
    | nowhere =>
        rw [tailText_nowhere, numberAt?_severityText]
        dsimp only
        rw [hseverity]
        rfl
    | line line =>
        obtain ⟨hne, hdigits⟩ := hnumeric line List.mem_cons_self
        rw [tailText_line, numberAt?_append hdigits hrest, if_neg hne]
        dsimp only
        rw [numberAt?_severityText, hseverity]
        rfl
    | column line column =>
        obtain ⟨hne, hdigits⟩ := hnumeric line List.mem_cons_self
        obtain ⟨hne', hdigits'⟩ := hnumeric column (List.mem_cons_of_mem _ List.mem_cons_self)
        rw [tailText_column, numberAt?_append hdigits (noDigitFirst_colon _), if_neg hne]
        dsimp only
        rw [numberAt?_append hdigits' hrest, if_neg hne']
        dsimp only
        rw [hseverity]
        rfl

/-! ## The cut -/

/-- The message is a file, a place, a severity and a body. -/
structure IsSplit (message file : Text) (place : Place) (severity : Severity) (body : Text) :
    Prop where
  eq_append : message = file ++ tailText place severity body
  ne_empty : file ≠ ""
  isNumeric : place.IsNumeric

/-- The split of a message with the shortest file. -/
structure IsLeastSplit (message file : Text) (place : Place) (severity : Severity) (body : Text) :
    Prop extends IsSplit message file place severity body where
  length_le : ∀ file' place' severity' body', IsSplit message file' place' severity' body' →
    file.length ≤ file'.length

/-- What follows some points is cut where the first tail begins. -/
theorem cutFrom?_eq_some_iff {read ps : List Point} {file : Text} {tail : Tail} :
    cutFrom? read ps = some (file, tail) ↔
      ∃ part rest, part ≠ [] ∧ ps = part ++ rest ∧ file = ⟨read.reverse ++ part⟩ ∧
        tail? ⟨rest⟩ = some tail ∧
        ∀ part' rest', part' ≠ [] → ps = part' ++ rest' → (tail? ⟨rest'⟩).isSome = true →
          part.length ≤ part'.length := by
  induction ps generalizing read with
  | nil =>
      refine iff_of_false (fun h => nomatch h) ?_
      rintro ⟨part, rest, hne, heq, -⟩
      exact hne (List.append_eq_nil_iff.mp heq.symm).1
  | cons p ps ih =>
      cases htail : tail? ⟨ps⟩ with
      | some first =>
          have hcut : cutFrom? read (p :: ps) = some (⟨(p :: read).reverse⟩, first) := by
            rw [cutFrom?, htail]
          rw [hcut]
          constructor
          · intro h
            obtain ⟨rfl, rfl⟩ := Prod.mk.inj (Option.some.inj h)
            refine ⟨[p], ps, by simp, rfl, by simp, htail, fun part' rest' hne _ _ => ?_⟩
            exact List.length_pos_of_ne_nil hne
          · rintro ⟨part, rest, hne, heq, rfl, hrest, hleast⟩
            -- the first point alone is a file, so no longer one is the shortest
            have hone := hleast [p] ps (by simp) rfl (by rw [htail]; rfl)
            obtain ⟨q, rfl⟩ := List.length_eq_one_iff.mp
              (Nat.le_antisymm hone (List.length_pos_of_ne_nil hne))
            obtain ⟨rfl, rfl⟩ := List.cons.inj heq
            rw [htail] at hrest
            rw [Option.some.inj hrest, List.reverse_cons]
      | none =>
          have hcut : cutFrom? read (p :: ps) = cutFrom? (p :: read) ps := by
            rw [cutFrom?, htail]
          rw [hcut, ih]
          constructor
          · rintro ⟨part, rest, hne, rfl, rfl, hrest, hleast⟩
            refine ⟨p :: part, rest, by simp, rfl, by simp, hrest, ?_⟩
            intro part' rest' hne' heq hsome
            cases part' with
            | nil => exact absurd rfl hne'
            | cons q part' =>
                obtain ⟨rfl, hbehind⟩ := List.cons.inj heq
                by_cases hnil : part' = []
                · have hps : part ++ rest = rest' := by
                    subst hnil
                    exact hbehind
                  rw [← hps, htail] at hsome
                  cases hsome
                · exact Nat.succ_le_succ (hleast part' rest' hnil hbehind hsome)
          · rintro ⟨part, rest, hne, heq, rfl, hrest, hleast⟩
            cases part with
            | nil => exact absurd rfl hne
            | cons q part =>
                obtain ⟨rfl, rfl⟩ := List.cons.inj heq
                have hnil : part ≠ [] := by
                  rintro rfl
                  have hno : tail? ⟨rest⟩ = none := htail
                  rw [hrest] at hno
                  cases hno
                refine ⟨part, rest, hnil, rfl, by simp, hrest, fun part' rest' hne' heq' hsome => ?_⟩
                have hle := hleast (p :: part') rest' (by simp) (by rw [heq']; rfl) hsome
                exact Nat.le_of_succ_le_succ hle

theorem singleLine?_of_not_mem {message : Text} (h : Point.char '\n' ∉ message.points) :
    singleLine? message = some message := by
  have hlast : ¬ message.points.getLast? = some (Point.char '\n') := fun hlast =>
    h (List.mem_of_getLast? hlast)
  have hcontains : ¬ message.points.contains (Point.char '\n') = true := by
    rw [List.contains_iff_mem]
    exact h
  unfold singleLine?
  dsimp only
  rw [if_neg hlast, if_neg hcontains]

/-- **A message of one line is cut where it has its shortest file**, and a message is cut if it
has any split. -/
theorem cut?_eq_some_iff {message file : Text} {tail : Tail}
    (h : Point.char '\n' ∉ message.points) :
    cut? message = some (file, tail) ↔ ∃ place severity body,
      IsLeastSplit message file place severity body ∧ tail = .of place severity body := by
  unfold cut?
  rw [singleLine?_of_not_mem h, Option.bind_some, cutFrom?_eq_some_iff]
  constructor
  · rintro ⟨part, rest, hne, heq, rfl, hrest, hleast⟩
    obtain ⟨place, severity, body, hnumeric, htext, rfl⟩ := tail?_eq_some_iff.mp hrest
    refine ⟨place, severity, body, ⟨⟨?_, ?_, hnumeric⟩, ?_⟩, rfl⟩
    · rw [← htext]
      exact congrArg Text.mk heq
    · intro hempty
      exact hne (congrArg Text.points hempty)
    · rintro ⟨part'⟩ place' severity' body' ⟨heq', hne', hnumeric'⟩
      refine hleast part' (tailText place' severity' body').points ?_ (congrArg Text.points heq') ?_
      · rintro rfl
        exact hne' rfl
      · exact Option.isSome_iff_exists.mpr
          ⟨_, tail?_eq_some_iff.mpr ⟨place', severity', body', hnumeric', rfl, rfl⟩⟩
  · rintro ⟨place, severity, body, ⟨⟨heq, hne, hnumeric⟩, hleast⟩, rfl⟩
    obtain ⟨part⟩ := file
    refine ⟨part, (tailText place severity body).points, ?_, congrArg Text.points heq, rfl,
      tail?_eq_some_iff.mpr ⟨place, severity, body, hnumeric, rfl, rfl⟩, ?_⟩
    · rintro rfl
      exact hne rfl
    · intro part' rest' hne' heq' hsome
      obtain ⟨tail', htail'⟩ := Option.isSome_iff_exists.mp hsome
      obtain ⟨place', severity', body', hnumeric', htext', -⟩ := tail?_eq_some_iff.mp htail'
      refine hleast ⟨part'⟩ place' severity' body' ⟨?_, ?_, hnumeric'⟩
      · rw [← htext']
        exact congrArg Text.mk heq'
      · intro hempty
        exact hne' (congrArg Text.points hempty)

/-- A message that has a split has one with the shortest file. -/
theorem exists_isLeastSplit {message file : Text} {place : Place} {severity : Severity}
    {body : Text} (h : IsSplit message file place severity body) :
    ∃ file place severity body, IsLeastSplit message file place severity body := by
  induction hn : file.length using Nat.strongRecOn generalizing file place severity body with
  | ind n ih =>
      by_cases hleast : ∃ file' place' severity' body',
          IsSplit message file' place' severity' body' ∧ file'.length < n
      · obtain ⟨file', place', severity', body', hsplit, hlt⟩ := hleast
        exact ih _ hlt hsplit rfl
      · refine ⟨file, place, severity, body, h, fun file' place' severity' body' hsplit => ?_⟩
        by_contra hlt
        exact hleast ⟨file', place', severity', body', hsplit, hn ▸ Nat.lt_of_not_le hlt⟩

end Casebook.Diagnostic

import Casebook.Proofs.CaseFile.Repeats
import Casebook.Proofs.Text.Lines
import Casebook.Proofs.Text.Split

/-!
# Why a case file is refused

What is wrong with a text can be noticed at three kinds of places: at a line that begins like
a header and is none, at the header of a part before any case, and where a case ends that
repeats one of its parts. `Noticed` says what is noticed behind some lines, in terms of header
lines alone. Main statement (`parse_error_exact`): the fault of a text is the one that is noticed
first, and only if nothing is noticed up to the end it is the first repeated name of a case. So
what stands behind the line at which a fault is noticed does not matter.

The reader is followed by the headers of its draft: they are the header lines since the last
case header (`Follows`), and no other part of a draft has a say in the fault.
-/

namespace Casebook.Case

/-! ## What is noticed -/

/-- The lines still to be read begin with the header of a case, or there are none. -/
def EndsCase (rest : List (List Char)) : Prop := ∀ line ∈ rest.head?, IsCaseHeader line

/-- What is noticed behind the lines `before`, when others are still to be read. -/
inductive Noticed (before : List (List Char)) : List (List Char) → Fault → Prop
  /-- The next line begins like a header and is none. -/
  | malformed {line : List Char} {after : List (List Char)} {inCase : Bool}
      (begins : BeginsLikeHeader line) (none : ∀ h, ¬ IsHeader h line)
      (inCase_iff : inCase = true ↔ ∃ l ∈ before, IsCaseHeader l) :
      Noticed before (line :: after) (.malformed (before.length + 1) line inCase)
  /-- The next line is the header of a part, and there was no case yet. -/
  | stray {line : List Char} {after : List (List Char)} {h : Header} (isPart : h.IsPart)
      (header : IsHeader h line) (first : ∀ l ∈ before, ¬ IsCaseHeader l) :
      Noticed before (line :: after) (.stray h (before.length + 1) line)
  /-- The last case is complete, and `h` is the first part that it repeats. -/
  | unsound {front body rest : List (List Char)} {first : List Char} {name : Text} {h : Header}
      (split : before = front ++ first :: body) (header : IsHeader (.case name) first)
      (last : ∀ l ∈ body, ¬ IsCaseHeader l) (again : IsFirstRepeat IsHeader body h)
      (ends : EndsCase rest) : Noticed before rest (repeatFault name h)

/-- The fault is noticed when `before` has been read and `rest` has not, and nothing is noticed at
any earlier place. -/
structure IsFirstNoticed (lines before rest : List (List Char)) (fault : Fault) : Prop where
  split : lines = before ++ rest
  noticed : Noticed before rest fault
  first : ∀ front line between other, before = front ++ line :: between →
    ¬ Noticed front (line :: (between ++ rest)) other

/-! ## The draft and the lines -/

/-- The draft that is open after a line. -/
def openedBy (opened : Option Draft) (line : List Char) : Option Draft :=
  match kindOf line with
  | .plain => opened.map (·.addLine line)
  | .header (.case name) => some (.opened name)
  | .header h => opened.map (·.addPart h)
  | .malformed => opened

/-- The headers of a draft are those on the lines since the last header of a case, which gave
its name; without a case header there is no draft. -/
def Follows (before : List (List Char)) : Option Draft → Prop
  | none => ∀ l ∈ before, ¬ IsCaseHeader l
  | some d => ∃ front first body, before = front ++ first :: body ∧
      IsHeader (.case d.name) first ∧ (∀ l ∈ body, ¬ IsCaseHeader l) ∧
      d.parts.reverse.map Prod.fst = .case d.name :: body.filterMap header?

theorem addLine_headers (d : Draft) (line : List Char) :
    (d.addLine line).parts.map Prod.fst = d.parts.map Prod.fst := by
  unfold Draft.addLine
  split
  · next h lines rest hparts => rw [hparts]; rfl
  · rfl

theorem addLine_name (d : Draft) (line : List Char) : (d.addLine line).name = d.name := by
  unfold Draft.addLine
  split <;> rfl

theorem not_isCaseHeader_of_none {line : List Char} (h : header? line = none) :
    ¬ IsCaseHeader line := by
  rintro ⟨name, hc⟩
  exact not_isHeader_of_none h _ hc

theorem Follows.plain {before : List (List Char)} {opened : Option Draft} {line : List Char}
    (h : Follows before opened) (hn : header? line = none) :
    Follows (before ++ [line]) (opened.map (·.addLine line)) := by
  have hline := not_isCaseHeader_of_none hn
  cases opened with
  | none => exact List.forall_mem_append.mpr ⟨h, by simpa using hline⟩
  | some d =>
      obtain ⟨front, first, body, rfl, hfirst, hbody, hparts⟩ := h
      refine ⟨front, first, body ++ [line], by simp, ?_,
        List.forall_mem_append.mpr ⟨hbody, by simpa using hline⟩, ?_⟩
      · rw [addLine_name]
        exact hfirst
      · rw [List.map_reverse, addLine_headers, ← List.map_reverse, hparts, addLine_name,
          List.filterMap_append, List.filterMap_cons_none hn, List.filterMap_nil, List.append_nil]

theorem Follows.part {before : List (List Char)} {d : Draft} {line : List Char} {h : Header}
    (hd : Follows before (some d)) (hp : h.IsPart) (hh : IsHeader h line) :
    Follows (before ++ [line]) (some (d.addPart h)) := by
  obtain ⟨front, first, body, rfl, hfirst, hbody, hparts⟩ := hd
  refine ⟨front, first, body ++ [line], by simp, hfirst,
    List.forall_mem_append.mpr ⟨hbody, by simpa using not_isCaseHeader_of_part hh hp⟩, ?_⟩
  show ((h, []) :: d.parts).reverse.map Prod.fst = .case d.name :: _
  rw [List.reverse_cons, List.map_append, hparts, List.filterMap_append,
    List.filterMap_cons_some (header?_eq_some_iff.mpr hh)]
  rfl

theorem Follows.case {before : List (List Char)} {line : List Char} {name : Text}
    (hh : IsHeader (.case name) line) : Follows (before ++ [line]) (some (.opened name)) :=
  ⟨before, line, [], rfl, hh, by simp, rfl⟩

theorem Follows.isSome_iff {before : List (List Char)} {opened : Option Draft}
    (h : Follows before opened) : opened.isSome = true ↔ ∃ l ∈ before, IsCaseHeader l := by
  cases opened with
  | none =>
      constructor
      · intro hsome
        cases hsome
      · rintro ⟨l, hl, hc⟩
        exact absurd hc (h l hl)
  | some d =>
      obtain ⟨front, first, body, rfl, hfirst, -⟩ := h
      exact iff_of_true rfl ⟨first, by simp, d.name, hfirst⟩

theorem kindOf_eq_malformed_iff {line : List Char} :
    kindOf line = .malformed ↔ BeginsLikeHeader line ∧ ∀ h, ¬ IsHeader h line := by
  rw [← not_iff_not, ← ne_eq, kindOf_ne_malformed_iff]
  simp only [not_and, not_forall, not_not]

/-- The draft follows lines at which nothing is noticed. -/
theorem Follows.step {before : List (List Char)} {opened : Option Draft} {line : List Char}
    {after : List (List Char)} (h : Follows before opened)
    (hno : ∀ fault, ¬ Noticed before (line :: after) fault) :
    Follows (before ++ [line]) (openedBy opened line) := by
  unfold openedBy
  split
  · next hk => exact h.plain (header?_eq_none (kindOf_eq_plain_iff.mp hk))
  · next name hk => exact .case (kindOf_eq_header_iff.mp hk)
  · next hd hp hk =>
    have hh := kindOf_eq_header_iff.mp hk
    cases opened with
    | none => exact absurd (.stray hp hh h) (hno _)
    | some d => exact h.part hp hh
  · next hk =>
    obtain ⟨hbegins, hnone⟩ := kindOf_eq_malformed_iff.mp hk
    exact absurd (.malformed hbegins hnone h.isSome_iff) (hno _)

/-- Lines have one last header of a case. -/
theorem lastCase_unique {front front' body body' : List (List Char)} {first first' : List Char}
    (heq : front ++ first :: body = front' ++ first' :: body') (hfirst : IsCaseHeader first)
    (hfirst' : IsCaseHeader first') (hbody : ∀ l ∈ body, ¬ IsCaseHeader l)
    (hbody' : ∀ l ∈ body', ¬ IsCaseHeader l) : front = front' ∧ first = first' ∧ body = body' := by
  rcases List.append_eq_append_iff.mp heq with ⟨between, rfl, hb⟩ | ⟨between, rfl, hb⟩
  · cases between with
    | nil =>
        obtain ⟨rfl, rfl⟩ := List.cons.inj hb
        simp
    | cons l between =>
        obtain ⟨rfl, rfl⟩ := List.cons.inj hb
        exact absurd hfirst' (hbody first' (by simp))
  · cases between with
    | nil =>
        obtain ⟨rfl, rfl⟩ := List.cons.inj hb
        simp
    | cons l between =>
        obtain ⟨rfl, rfl⟩ := List.cons.inj hb
        exact absurd hfirst (hbody' first (by simp))

/-! ## What is noticed at one line -/

section
variable {before after : List (List Char)} {opened : Option Draft} {line : List Char}
  {fault : Fault}

theorem not_endsCase (h : ¬ IsCaseHeader line) : ¬ EndsCase (line :: after) := fun hends =>
  h (hends line rfl)

theorem noticed_malformed_iff (hopen : Follows before opened)
    (hk : kindOf line = .malformed) :
    Noticed before (line :: after) fault ↔
      fault = .malformed (before.length + 1) line opened.isSome := by
  obtain ⟨hbegins, hnone⟩ := kindOf_eq_malformed_iff.mp hk
  constructor
  · intro h
    cases h with
    | malformed _ _ hcase => rw [Bool.eq_iff_iff.mpr (hcase.trans hopen.isSome_iff.symm)]
    | stray _ hh _ => exact absurd hh (hnone _)
    | unsound _ _ _ _ hends =>
        exact absurd hends (not_endsCase fun ⟨name, hc⟩ => hnone _ hc)
  · rintro rfl
    exact .malformed hbegins hnone hopen.isSome_iff

theorem not_noticed_plain (hk : kindOf line = .plain) :
    ¬ Noticed before (line :: after) fault := by
  have hplain := kindOf_eq_plain_iff.mp hk
  intro h
  cases h with
  | malformed hbegins => exact hplain hbegins
  | stray _ hh => exact hplain (.of_isHeader hh)
  | unsound _ _ _ _ hends =>
      exact not_endsCase (fun ⟨_, hc⟩ => hplain (.of_isHeader hc)) hends

theorem noticed_part_iff {h : Header} (hopen : Follows before opened) (hp : h.IsPart)
    (hk : kindOf line = .header h) :
    Noticed before (line :: after) fault ↔
      opened = none ∧ fault = .stray h (before.length + 1) line := by
  have hh := kindOf_eq_header_iff.mp hk
  constructor
  · intro hn
    cases hn with
    | malformed _ hnone => exact absurd hh (hnone h)
    | stray _ hh' hfirst =>
        have hnone : ¬ opened.isSome = true := fun hsome =>
          let ⟨l, hl, hc⟩ := hopen.isSome_iff.mp hsome
          hfirst l hl hc
        exact ⟨by simpa using hnone, by rw [hh.unique hh']⟩
    | unsound _ _ _ _ hends => exact absurd hends (not_endsCase (not_isCaseHeader_of_part hh hp))
  · rintro ⟨rfl, rfl⟩
    exact .stray hp hh hopen

/-- Where a case ends, the reader finds what is noticed in the lines of the case. -/
theorem noticed_end_iff {rest : List (List Char)} (hopen : Follows before opened)
    (hends : EndsCase rest) : Noticed before rest fault ↔ finishOpen opened = .error fault := by
  constructor
  · intro hn
    cases hn with
    | malformed _ hnone =>
        obtain ⟨name, hc⟩ := hends _ rfl
        exact absurd hc (hnone _)
    | stray hp hh => exact absurd (hends _ rfl) (not_isCaseHeader_of_part hh hp)
    | unsound hsplit hfirst hbody hagain _ =>
        cases opened with
        | none => exact absurd ⟨_, hfirst⟩ (hopen _ (by simp [hsplit]))
        | some d =>
            obtain ⟨front, first, body, hsplit', hfirst', hbody', hparts⟩ := hopen
            obtain ⟨rfl, rfl, rfl⟩ := lastCase_unique (hsplit.symm.trans hsplit') ⟨_, hfirst⟩
              ⟨_, hfirst'⟩ hbody hbody'
            cases hfirst.unique hfirst'
            exact finishOpen_some_eq_error_iff.mpr
              ((finish_eq_error_iff hparts hbody').mpr ⟨_, hagain, rfl⟩)
  · intro hfinish
    cases opened with
    | none => cases hfinish
    | some d =>
        obtain ⟨front, first, body, rfl, hfirst, hbody, hparts⟩ := hopen
        obtain ⟨h, hagain, rfl⟩ := (finish_eq_error_iff hparts hbody).mp
          (finishOpen_some_eq_error_iff.mp hfinish)
        exact .unsound rfl hfirst hbody hagain hends

end

/-! ## What is noticed first -/

/-- With `before` read already, the fault is the first that is noticed in the other lines. -/
def FirstNoticed (before lines : List (List Char)) (fault : Fault) : Prop :=
  ∃ more rest, lines = more ++ rest ∧ Noticed (before ++ more) rest fault ∧
    ∀ front line between other, more = front ++ line :: between →
      ¬ Noticed (before ++ front) (line :: (between ++ rest)) other

theorem firstNoticed_nil_iff {before : List (List Char)} {fault : Fault} :
    FirstNoticed before [] fault ↔ Noticed before [] fault := by
  constructor
  · rintro ⟨more, rest, hlines, hnoticed, -⟩
    obtain ⟨rfl, rfl⟩ := List.append_eq_nil_iff.mp hlines.symm
    rwa [List.append_nil] at hnoticed
  · intro h
    exact ⟨[], [], rfl, by rwa [List.append_nil], by simp⟩

/-- The first fault is noticed at the next line, or nothing is and it is the first behind it. -/
theorem firstNoticed_cons_iff {before lines : List (List Char)} {line : List Char}
    {fault : Fault} :
    FirstNoticed before (line :: lines) fault ↔
      Noticed before (line :: lines) fault ∨
        (∀ other, ¬ Noticed before (line :: lines) other) ∧
          FirstNoticed (before ++ [line]) lines fault := by
  constructor
  · rintro ⟨more, rest, hlines, hnoticed, hfirst⟩
    cases more with
    | nil =>
        rw [List.nil_append] at hlines
        rw [List.append_nil, ← hlines] at hnoticed
        exact Or.inl hnoticed
    | cons l more =>
        obtain ⟨rfl, rfl⟩ := List.cons.inj hlines
        refine Or.inr ⟨fun other => ?_, more, rest, rfl, by simpa using hnoticed, ?_⟩
        · simpa using hfirst [] line more other rfl
        · rintro front l between other rfl
          simpa using hfirst (line :: front) l between other rfl
  · rintro (hnoticed | ⟨hno, more, rest, rfl, hnoticed, hfirst⟩)
    · exact ⟨[], line :: lines, rfl, by rwa [List.append_nil], by simp⟩
    · refine ⟨line :: more, rest, rfl, by simpa using hnoticed, ?_⟩
      intro front l between other heq
      cases front with
      | nil =>
          obtain ⟨rfl, rfl⟩ := List.cons.inj heq
          simpa using hno other
      | cons l' front =>
          obtain ⟨rfl, rfl⟩ := List.cons.inj heq
          simpa using hfirst front l between other rfl

/-- If anything is noticed at all, then something is noticed first. -/
theorem exists_firstNoticed {before more rest : List (List Char)} {fault : Fault}
    (h : Noticed (before ++ more) rest fault) : ∃ f, FirstNoticed before (more ++ rest) f := by
  induction more generalizing before with
  | nil =>
      rw [List.append_nil] at h
      exact ⟨fault, [], rest, rfl, by rwa [List.append_nil], by simp⟩
  | cons line more ih =>
      by_cases hhere : ∃ f, Noticed before (line :: (more ++ rest)) f
      · obtain ⟨f, hf⟩ := hhere
        exact ⟨f, firstNoticed_cons_iff.mpr (Or.inl hf)⟩
      · have hnext : Noticed (before ++ [line] ++ more) rest fault := by simpa using h
        obtain ⟨f, hf⟩ := ih hnext
        exact ⟨f, firstNoticed_cons_iff.mpr (Or.inr ⟨not_exists.mp hhere, hf⟩)⟩

theorem isFirstNoticed_iff {lines : List (List Char)} {fault : Fault} :
    (∃ before rest, IsFirstNoticed lines before rest fault) ↔ FirstNoticed [] lines fault := by
  constructor
  · rintro ⟨before, rest, hsplit, hnoticed, hfirst⟩
    exact ⟨before, rest, hsplit, hnoticed, hfirst⟩
  · rintro ⟨before, rest, hsplit, hnoticed, hfirst⟩
    exact ⟨before, rest, hsplit, hnoticed, hfirst⟩

/-! ## Reading on -/

theorem readLines_case_eq_error_iff {line : List Char} {name : Text}
    (hk : kindOf line = .header (.case name)) {n : Nat} {opened : Option Draft}
    {lines : List (List Char)} {fault : Fault} :
    readLines n opened (line :: lines) = .error fault ↔
      finishOpen opened = .error fault ∨ (∀ other, finishOpen opened ≠ .error other) ∧
        readLines (n + 1) (some (.opened name)) lines = .error fault := by
  rw [readLines.eq_4 _ _ _ _ _ hk]
  cases finishOpen opened with
  | error f => simp [bind, Except.bind]
  | ok done =>
      cases readLines (n + 1) (some (.opened name)) lines <;>
        simp [bind, Except.bind, pure, Except.pure]

/-- The reader goes on behind a line at which nothing is noticed. -/
theorem readLines_cons_eq_error_iff {before lines : List (List Char)} {opened : Option Draft}
    {line : List Char} {fault : Fault} (hopen : Follows before opened) :
    readLines (before.length + 1) opened (line :: lines) = .error fault ↔
      Noticed before (line :: lines) fault ∨
        (∀ other, ¬ Noticed before (line :: lines) other) ∧
          readLines (before.length + 1 + 1) (openedBy opened line) lines = .error fault := by
  unfold openedBy
  cases hk : kindOf line with
  | malformed =>
      have hnoticed := fun f => @noticed_malformed_iff before lines opened line f hopen hk
      rw [readLines.eq_2 _ _ _ _ hk, hnoticed]
      constructor
      · exact fun h => Or.inl (Except.error.inj h).symm
      · rintro (rfl | ⟨hno, -⟩)
        · rfl
        · exact absurd ((hnoticed _).mpr rfl) (hno _)
  | plain =>
      have hno := fun f => @not_noticed_plain before lines line f hk
      rw [readLines.eq_3 _ _ _ _ hk]
      exact ⟨fun h => Or.inr ⟨hno, h⟩, fun h => (h.resolve_left (hno fault)).2⟩
  | header h =>
      by_cases hp : h.IsPart
      · have hnoticed := fun f => @noticed_part_iff before lines opened line f h hopen hp hk
        cases opened with
        | none =>
            rw [readLines.eq_6 _ _ _ _ hp hk, hnoticed]
            constructor
            · exact fun h => Or.inl ⟨rfl, (Except.error.inj h).symm⟩
            · rintro (⟨-, rfl⟩ | ⟨hno, -⟩)
              · rfl
              · exact absurd ((hnoticed _).mpr ⟨rfl, rfl⟩) (hno _)
        | some d =>
            have hno : ∀ f, ¬ Noticed before (line :: lines) f := fun f hn =>
              Option.some_ne_none d ((hnoticed f).mp hn).1
            rw [readLines.eq_5 _ _ _ _ _ hp hk]
            cases h with
            | case name => exact absurd rfl (hp name)
            | file name => exact ⟨fun h => Or.inr ⟨hno, h⟩, fun h => (h.resolve_left (hno fault)).2⟩
            | out => exact ⟨fun h => Or.inr ⟨hno, h⟩, fun h => (h.resolve_left (hno fault)).2⟩
      · obtain ⟨name, rfl⟩ : ∃ name, h = .case name := by simpa [Header.IsPart] using hp
        have hends : EndsCase (line :: lines) := by
          rintro l hl
          cases hl
          exact ⟨name, kindOf_eq_header_iff.mp hk⟩
        simp only [readLines_case_eq_error_iff hk, noticed_end_iff hopen hends, ne_eq]

/-- **Reading lines.** The fault that the reader stops at is the first that is noticed. -/
theorem readLines_eq_error_iff {before lines : List (List Char)} {opened : Option Draft}
    {fault : Fault} (hopen : Follows before opened) :
    readLines (before.length + 1) opened lines = .error fault ↔
      FirstNoticed before lines fault := by
  induction lines generalizing before opened with
  | nil => exact (firstNoticed_nil_iff.trans (noticed_end_iff hopen (by simp [EndsCase]))).symm
  | cons line lines ih =>
      rw [readLines_cons_eq_error_iff hopen, firstNoticed_cons_iff]
      refine or_congr_right (and_congr_right fun hno => ?_)
      rw [← ih (Follows.step hopen hno), List.length_append]
      rfl

/-! ## Texts -/

/-- A case is refused for its name only if nothing is noticed on its lines. -/
theorem parse_eq_error_iff (text : List Char) (fault : Fault) :
    parse text = .error fault ↔
      FirstNoticed [] (linesOf text) fault ∨
        (∀ other, ¬ FirstNoticed [] (linesOf text) other) ∧
          ∃ name, IsFirstRepeat (fun name => IsHeader (.case name)) (linesOf text) name ∧
            fault = .duplicateCase name := by
  have hfollows : Follows [] none := by simp [Follows]
  have hread := fun f => @readLines_eq_error_iff [] (linesOf text) none f hfollows
  simp only [isFirstRepeat_iff caseName?_eq_some_iff, ← names_outlineOf]
  cases hlines : readLines 1 none (linesOf text) with
  | error f =>
      have hparse : parse text = .error f := by rw [parse, hlines]; rfl
      have hf := (hread f).mp hlines
      have hfirst : FirstNoticed [] (linesOf text) fault ↔ f = fault := by
        rw [← hread]
        show readLines 1 none (linesOf text) = .error fault ↔ _
        rw [hlines, Except.error.injEq]
      rw [hparse, hfirst, Except.error.injEq]
      exact ⟨Or.inl, fun h => h.resolve_right fun ⟨hno, _⟩ => hno f hf⟩
  | ok specs =>
      have hno : ∀ f, ¬ FirstNoticed [] (linesOf text) f := fun f hf =>
        nomatch hlines.symm.trans ((hread f).mpr hf)
      obtain ⟨-, -, done, ⟨-, rfl⟩, rfl⟩ := (readLines_eq_ok_iff _ _ _ _).mp hlines
      have hrepeat := fun n => @firstRepeat_eq_some_iff []
        ((outlineOf (linesOf text)).cases.map CaseBlock.name) n List.nodup_nil
      simp only [List.reverse_nil, List.nil_append] at hrepeat
      rw [or_iff_right (hno fault), and_iff_right hno]
      simp only [← hrepeat]
      unfold parse
      rw [hlines]
      simp only [bind, Except.bind, List.nil_append, names_spec]
      cases firstRepeat [] ((outlineOf (linesOf text)).cases.map CaseBlock.name) with
      | none => simp [pure, Except.pure]
      | some name => simp [throw, throwThe, MonadExceptOf.throw, eq_comm]

/-! ## Other text behind a fault -/

theorem AreLinesOf.unique {lines lines' : List (List Char)} {text : List Char}
    (h : AreLinesOf lines text) (h' : AreLinesOf lines' text) : lines = lines' := by
  rw [← Text.cutLines_flatten h.feeds, h.whole, ← h'.whole, Text.cutLines_flatten h'.feeds]

theorem withFinalFeed_feed (cs other : List Char) :
    withFinalFeed (cs ++ ['\n'] ++ other) = cs ++ ['\n'] ++ withFinalFeed other := by
  unfold withFinalFeed
  cases other with
  | nil => simp
  | cons c other =>
      rw [List.getLast?_append_of_ne_nil _ (List.cons_ne_nil c other)]
      split
      · next h => rw [if_pos ⟨List.cons_ne_nil c other, h.2⟩, List.append_assoc _ (c :: other)]
      · next h => rw [if_neg fun hother => h ⟨by simp, hother.2⟩]

/-- Whole lines in front of a text are lines of it. -/
theorem linesOf_append {before : List (List Char)} {line : List Char}
    (hbefore : ∀ l ∈ before, ∃ body, '\n' ∉ body ∧ l = body ++ ['\n'])
    (hline : ∃ body, '\n' ∉ body ∧ line = body ++ ['\n']) (other : List Char) :
    linesOf (before.flatten ++ line ++ other) = before ++ line :: linesOf other := by
  obtain ⟨hwhole, hfeeds⟩ := areLinesOf_linesOf other
  refine (areLinesOf_linesOf _).unique ⟨?_, ?_⟩
  · obtain ⟨body, -, rfl⟩ := hline
    rw [← List.append_assoc, withFinalFeed_feed, ← hwhole]
    simp
  · exact List.forall_mem_append.mpr ⟨hbefore, List.forall_mem_cons.mpr ⟨hline, hfeeds⟩⟩

/-- What is noticed depends on the next line at most. -/
theorem Noticed.of_next {before after after' : List (List Char)} {line : List Char}
    {fault : Fault} (h : Noticed before (line :: after) fault) :
    Noticed before (line :: after') fault := by
  cases h with
  | malformed hbegins hnone hcase => exact .malformed hbegins hnone hcase
  | stray hp hh hfirst => exact .stray hp hh hfirst
  | unsound hsplit hh hlast hagain hends => exact .unsound hsplit hh hlast hagain hends

theorem IsFirstNoticed.of_next {lines before after : List (List Char)} {line : List Char}
    {fault : Fault} (h : IsFirstNoticed lines before (line :: after) fault)
    (after' : List (List Char)) :
    IsFirstNoticed (before ++ line :: after') before (line :: after') fault :=
  ⟨rfl, h.noticed.of_next, fun front l between other heq hn => h.first front l between other heq
    hn.of_next⟩

/-! ## Together -/

/-- **Why a text is refused.** A text is refused for what is noticed first on its lines, and only
if nothing is noticed on them for the first name of a case that is repeated. Whatever text
stands behind the line at which a fault is noticed, the fault is the same. The faults of a
line are reported with its number and the first column. -/
theorem parse_error_exact (text : List Char) :
    AreLinesOf (linesOf text) text ∧
      (∀ fault, parse text = .error fault ↔
        (∃ before rest, IsFirstNoticed (linesOf text) before rest fault) ∨
          ((∀ before rest other, linesOf text = before ++ rest → ¬ Noticed before rest other) ∧
            ∃ name, IsFirstRepeat (fun name => IsHeader (.case name)) (linesOf text) name ∧
              fault = .duplicateCase name)) ∧
      (∀ before line after fault, IsFirstNoticed (linesOf text) before (line :: after) fault →
        ∀ other, parse (before.flatten ++ line ++ other) = .error fault) ∧
      (∀ number line inCase, ∃ detail : Text, (Fault.malformed number line inCase).message =
        .ofString s!"Invalid case file: No terminal matches '[' in the current parser context, at line {number} col 1" ++
          detail) ∧
      ∀ header number line, ∃ detail : Text, (Fault.stray header number line).message =
        .ofString s!"Invalid case file: Unexpected token Token('{header.token}', " ++
          .ofString s!"{Text.quoted (.ofChars line)}) at line {number}, column 1.\n" ++ detail := by
  refine ⟨areLinesOf_linesOf text, fun fault => ?_, ?_, fun number line inCase => ?_,
    fun header number line => ?_⟩
  · rw [parse_eq_error_iff, isFirstNoticed_iff]
    refine or_congr_right (and_congr_left fun _ => ?_)
    constructor
    · intro hno before rest other hsplit hn
      have hn' : Noticed ([] ++ before) rest other := hn
      obtain ⟨f, hf⟩ := exists_firstNoticed hn'
      exact hno f (hsplit ▸ hf)
    · rintro hno other ⟨before, rest, hsplit, hn, -⟩
      exact hno before rest other hsplit hn
  · intro before line after fault h other
    have hfeeds := (areLinesOf_linesOf text).feeds
    rw [h.split] at hfeeds
    obtain ⟨hbefore, hrest⟩ := List.forall_mem_append.mp hfeeds
    rw [parse_eq_error_iff, ← isFirstNoticed_iff,
      linesOf_append hbefore (List.forall_mem_cons.mp hrest).1]
    exact Or.inl ⟨before, _, h.of_next _⟩
  · simp only [Fault.message, Text.append_assoc]
    exact ⟨_, rfl⟩
  · exact ⟨_, rfl⟩

-- The name is given twice before the block of output is, and all the same found later.
example : parse "[case a]\n[case a]\n[out]\n[out]".toList = .error (.secondOut "a") := by decide

end Casebook.Case

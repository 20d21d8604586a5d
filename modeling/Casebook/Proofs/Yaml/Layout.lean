import Casebook.Proofs.Yaml.Block
import Casebook.Proofs.Yaml.Printing
import Casebook.Yaml.Refusal

/-!
# Printing maps of lists

A map of lists of texts is written in lines that the scanner reads. What was written before has no
influence on how a key is written (`scalarValue_onto`). Main statements: `write_entries`, and that
such a map is never refused (`refusal?_entries`).
-/

namespace Casebook.Yaml

namespace Page

/-! ## What was written before -/

/-- A page behind what another one holds already. -/
def onto (p base : Page) : Page :=
  { p with
    written := p.written ++ base.written
    anchors := base.anchors
    labels := base.labels }

section
variable (p base : Page)

theorem put_onto (cs : List Char) : (p.onto base).put cs = (p.put cs).onto base := by
  simp [put, onto]

theorem endLine_onto (c : Char) : (p.onto base).endLine c = (p.endLine c).onto base := rfl

theorem inText_onto : (p.onto base).inText = p.inText.onto base := rfl

theorem indent_onto (n : Nat) : (p.onto base).indent n = (p.indent n).onto base := by
  have hput (q : Page) : (if (q.onto base).column < n then
      { (q.onto base).put (List.replicate (n - (q.onto base).column) ' ') with blank := true }
      else q.onto base) = (if q.column < n then
      { q.put (List.replicate (n - q.column) ' ') with blank := true } else q).onto base := by
    rw [put_onto]
    show (if q.column < n then _ else _) = _
    split <;> rfl
  unfold indent
  dsimp only
  rw [← hput, apply_ite (onto · base)]
  rfl

theorem indicator_onto (cs : List Char) (blank indented : Bool) :
    (p.onto base).indicator cs blank indented = (p.indicator cs blank indented).onto base := by
  unfold indicator
  rw [put_onto]
  rfl

theorem attach_onto (cs : List Char) : (p.onto base).attach cs = (p.attach cs).onto base := by
  unfold attach
  rw [put_onto]
  rfl

theorem spaces_onto (n indent : Nat) (fold : Bool) :
    (p.onto base).spaces n indent fold = (p.spaces n indent fold).onto base := by
  unfold spaces
  rw [indent_onto, put_onto]
  exact (apply_ite (onto · base) _ _ _).symm

theorem breaks_onto (cs : List Char) (indent : Nat) :
    (p.onto base).breaks cs indent = (p.breaks cs indent).onto base := by
  have hfold (cs : List Char) (q : Page) :
      cs.foldl endLine (q.onto base) = (cs.foldl endLine q).onto base := by
    induction cs generalizing q with
    | nil => rfl
    | cons c cs ih => exact ih (q.endLine c)
  unfold breaks
  dsimp only
  rw [endLine_onto, ← apply_ite (onto · base), hfold, indent_onto]

theorem plainPieces_onto (indent : Nat) (fold : Bool) (ps : List Piece) :
    plainPieces indent fold (p.onto base) ps = (plainPieces indent fold p ps).onto base := by
  induction ps generalizing p with
  | nil => rfl
  | cons piece ps ih =>
      cases piece with
      | word cs | breaks cs => rw [plainPieces, plainPieces, put_onto, ih]
      | spaces n => rw [plainPieces, plainPieces, spaces_onto, inText_onto, ih]

theorem singlePieces_onto (indent : Nat) (fold inner : Bool) (ps : List Piece) :
    singlePieces indent fold inner (p.onto base) ps =
      (singlePieces indent fold inner p ps).onto base := by
  induction ps generalizing p inner with
  | nil => rfl
  | cons piece ps ih =>
      cases piece with
      | word cs => rw [singlePieces, singlePieces, put_onto, ih]
      | spaces n => rw [singlePieces, singlePieces, spaces_onto, ih]
      | breaks cs => rw [singlePieces, singlePieces, breaks_onto, ih]

theorem foldDouble_onto (indent : Nat) (next : Option Point) :
    (p.onto base).foldDouble indent next = (p.foldDouble indent next).onto base := by
  unfold foldDouble
  dsimp only
  rw [put_onto, indent_onto, inText_onto, put_onto]
  exact (apply_ite (onto · base) _ _ _).symm

theorem doublePoints_onto (indent : Nat) (fold first : Bool) (before : List Char)
    (points : List Point) : doublePoints indent fold first before (p.onto base) points =
      (doublePoints indent fold first before p points).onto base := by
  induction points generalizing p first before with
  | nil => exact put_onto p base _
  | cons point points ih =>
      rw [doublePoints, doublePoints]
      cases escape? point with
      | none =>
          simp only [Option.isNone_none, ↓reduceIte, put_onto, foldDouble_onto, ih]
          exact (apply_ite (onto · base) _ _ _).symm
      | some cs =>
          simp only [Option.isNone_some, Bool.false_eq_true, ↓reduceIte, put_onto, foldDouble_onto,
            ih]
          exact (apply_ite (onto · base) _ _ _).symm

/-- A scalar is written in the same way behind anything that was written before. -/
theorem scalarValue_onto (level : Option Nat) (key : Bool) (tag : Tag) (t : Text) :
    (p.onto base).scalarValue level key tag t = (p.scalarValue level key tag t).onto base := by
  unfold scalarValue scalar
  dsimp only
  cases (if tag == .text then Style.ofText t (Tag.implicit t != .text) key else .plain) with
  | plain =>
      dsimp only [plain]
      rw [apply_ite (onto · base), put_onto, ← apply_ite (onto · base), inText_onto, plainPieces_onto]
      rfl
  | single =>
      dsimp only [single]
      rw [indicator_onto, singlePieces_onto, attach_onto]
  | double =>
      dsimp only [double]
      rw [indicator_onto, doublePoints_onto, attach_onto]

end

/-! ## Items -/

/-- The text is written so that it can be read back: no next-line control stands between single
quotes. -/
def IsKept (t : Text) : Prop :=
  Style.ofText t (Tag.implicit t != .text) false = .single → .char '\x85' ∉ t.points

instance (t : Text) : Decidable (IsKept t) := inferInstanceAs (Decidable (_ = _ → _ ∉ _))

/-- What is written of some lines, and that it ends within a text. -/
structure AddsLines (p q : Page) (w : List Char) : Prop where
  adds : Adds p q w
  shown : ∀ c ∈ w, Style.isShown c = true

section
variable {p q : Page} {level : Nat} {t : Text} {ls : List Text}

theorem shown_append {w v : List Char} (hw : ∀ c ∈ w, Style.isShown c = true)
    (hv : ∀ c ∈ v, Style.isShown c = true) : ∀ c ∈ w ++ v, Style.isShown c = true :=
  List.forall_mem_append.mpr ⟨hw, hv⟩

/-- Behind a text the next line begins with its indentation. -/
theorem indent_behind (h : p.indented = false) (n : Nat) :
    (p.indent n).written = List.replicate n ' ' ++ '\n' :: p.written ∧
      (p.indent n).blank = true := by
  rw [indent_newLine (.inl h)]
  exact ⟨rfl, rfl⟩

/-- A text behind an indicator. -/
theorem addsLines_behind (mark : Char) (hmark : Style.isShown mark = true) (indented : Bool)
    (hlevel : below (some level) step < lineWidth) (hkept : IsKept t) (hblank : p.blank = true) :
    ∃ plain w, Written (level + step) t plain w ∧
      AddsLines p ((p.indicator [mark] false indented).scalarValue (some level) false .text t)
        (mark :: ' ' :: w) := by
  obtain ⟨plain, w, hw⟩ :=
    @addsScalar_scalarValue (p.indicator [mark] false indented) false t (some level) hlevel hkept
  have hadds := hw.adds
  refine ⟨plain, w, hw.written, ⟨?_, hadds.blank, hadds.indented⟩,
    List.forall_mem_cons.mpr ⟨hmark, List.forall_mem_cons.mpr ⟨rfl, hw.shown⟩⟩⟩
  rw [hadds.written]
  simp [gap, indicator, put, hblank]

/-- The lines of a list, from the hyphen of the first item on. -/
theorem addsLines_items (hlevel : below (some level) step < lineWidth) (hls : ls ≠ [])
    (hkept : ∀ t ∈ ls, IsKept t) (hblank : (p.indent level).blank = true) :
    ∃ ts v, ItemLines level ls ts v ∧
      AddsLines (p.indent level) (valueItems level p (ls.map .text)) v := by
  induction ls generalizing p with
  | nil => exact absurd rfl hls
  | cons t ls ih =>
      obtain ⟨ht, hrest⟩ := List.forall_mem_cons.mp hkept
      obtain ⟨plain, w, hwritten, hw⟩ := addsLines_behind '-' rfl true hlevel ht hblank
      rw [List.map_cons, valueItems, value]
      cases ls with
      | nil => exact ⟨_, _, .last hwritten, hw⟩
      | cons t' ls =>
          obtain ⟨hline, hblank'⟩ := indent_behind hw.adds.indented level
          obtain ⟨ts, v, hitems, hv⟩ := ih (List.cons_ne_nil _ _) hrest hblank'
          refine ⟨_, _, .more hwritten hitems, ⟨?_, hv.adds.blank, hv.adds.indented⟩, ?_⟩
          · rw [hv.adds.written, hline, hw.adds.written]
            simp
          · exact List.forall_mem_cons.mpr ⟨rfl, List.forall_mem_cons.mpr ⟨rfl,
              shown_append (fun c hc => hw.shown c (by simp [hc])) (isShown_line hv.shown)⟩⟩

/-- Behind the colon of a key, which may stand on a line of its own. -/
structure IsBehindKey (apart : Bool) (p : Page) : Prop where
  blank : p.blank = false
  indented : p.indented = apart
  column : apart = true → p.column = 1

/-- The list of an entry. -/
theorem addsLines_list {apart : Bool} (hkept : ∀ t ∈ ls, IsKept t) (hp : IsBehindKey apart p) :
    ∃ ts w, ValueLines apart ls ts w ∧
      AddsLines p (value (some 0) true p (.list (ls.map .text))) w := by
  by_cases hls : ls = []
  · subst hls
    refine ⟨_, _, .empty, ⟨?_, rfl, rfl⟩, List.forall_mem_cons.mpr ⟨rfl,
      List.forall_mem_cons.mpr ⟨rfl, List.forall_mem_cons.mpr ⟨rfl, by simp⟩⟩⟩⟩
    rw [List.map_nil, value]
    simp [attach, indicator, put, hp.blank]
  · have hvalue : value (some 0) true p (.list (ls.map .text)) =
        valueItems (if apart then 2 else 0) p (ls.map .text) := by
      rw [value, hp.indented]
      · cases apart <;> rfl
      · simpa using hls
    rw [hvalue]
    cases apart with
    | false =>
        obtain ⟨hline, hblank⟩ := indent_behind hp.indented 0
        obtain ⟨ts, v, hitems, hv⟩ := addsLines_items (by decide) hls hkept hblank
        refine ⟨_, _, .loose hitems, ⟨?_, hv.adds.blank, hv.adds.indented⟩,
          List.forall_mem_cons.mpr ⟨rfl, hv.shown⟩⟩
        rw [if_neg Bool.false_ne_true, hv.adds.written, hline]
        simp
    | true =>
        have hindent : p.indent 2 = { p with
            written := ' ' :: p.written, column := 2, blank := true } := by
          simp [indent, hp.indented, hp.column rfl, put]
        have hlevel : below (some 2) step < lineWidth := by decide
        obtain ⟨ts, v, hitems, hv⟩ := addsLines_items hlevel hls hkept (by rw [hindent])
        refine ⟨_, _, .nested hitems, ⟨?_, hv.adds.blank, hv.adds.indented⟩,
          List.forall_mem_cons.mpr ⟨rfl, hv.shown⟩⟩
        rw [if_pos rfl, hv.adds.written, hindent]
        simp

/-! ## Keys -/

/-- A key as it is written at the beginning of a line. -/
def writtenKey (k : Text) : List Char :=
  ((start []).scalarValue (some 0) true .text k).written.reverse

/-- The key does not get too long by being written. -/
def IsFitting (k : Text) : Prop :=
  (start []).isShortKey (.text k) = true → (writtenKey k).length ≤ keyLimit

instance (k : Text) : Decidable (IsFitting k) := inferInstanceAs (Decidable (_ = _ → _ ≤ _))

/-- Nothing stands on the line. -/
structure IsLineBegin (p : Page) : Prop where
  column : p.column = 0
  blank : p.blank = true
  indented : p.indented = true

theorem IsLineBegin.indent (h : IsLineBegin p) : p.indent 0 = p := by
  rw [indent_here h.column h.blank h.indented]
  show { p with column := 0 } = p
  rw [← h.column]

theorem IsLineBegin.eq_onto (h : IsLineBegin p) : p = (start []).onto p := by
  obtain ⟨hcolumn, hblank, hindented⟩ := h
  obtain ⟨written, column, blank, indented, anchors, labels⟩ := p
  subst hcolumn hblank hindented
  rfl

theorem isLineBegin_indent (h : p.indented = false) : IsLineBegin (p.indent 0) := by
  rw [indent_newLine (.inl h)]
  exact ⟨rfl, rfl, rfl⟩

theorem IsLineBegin.indicator (h : IsLineBegin p) (c : Char) :
    p.indicator [c] false true = { p with
      written := c :: p.written, column := 1, blank := false, indented := true } := by
  simp [Page.indicator, put, h.column, h.blank, h.indented]

/-- The page behind a key and its colon. -/
def behindKey (p : Page) (k : Text) : Page :=
  if p.isShortKey (.text k) then p.keyOnLine 0 (.text k)
  else
    ((value (some 0) true (p.indicator ['?'] false true) (.text k)).indent 0).indicator [':'] false
      true

/-- In a short key no line ends. -/
theorem isKept_key {k : Text} (hshort : (start []).isShortKey (.text k) = true) :
    .char '\x85' ∉ k.points := by
  intro hmem
  have hany : k.points.any (Point.passes Style.isFoldable) = true :=
    List.any_eq_true.mpr ⟨_, hmem, rfl⟩
  have hkey : (start []).isShortKey (.text k) =
      (decide (0 + tagLength .text + k.length ≤ shortKey) && !k.isEmpty &&
        !k.points.any (Point.passes Style.isFoldable)) := rfl
  rw [hkey, hany] at hshort
  simp at hshort

/-- A key up to its colon. -/
theorem addsLines_key {k : Text} (hkept : IsKept k) (hfit : IsFitting k) (hp : IsLineBegin p) :
    ∃ apart plain v, KeyLines k apart plain v ∧ (∀ c ∈ v, Style.isShown c = true) ∧
      IsBehindKey apart (p.behindKey k) ∧ (p.behindKey k).written = v.reverse ++ p.written := by
  unfold behindKey
  by_cases hshort : p.isShortKey (.text k) = true
  · rw [if_pos hshort]
    obtain ⟨plain, w, hw⟩ :=
      @addsScalar_scalarValue (start []) true k (some 0) (by decide) fun _ => isKept_key hshort
    have hwritten : ((start []).scalarValue (some 0) true .text k).written = w.reverse := by
      rw [hw.adds.written]
      simp [gap, start]
    have hlength : w.length ≤ keyLimit := by
      have hfit := hfit hshort
      rwa [writtenKey, hwritten, List.reverse_reverse] at hfit
    have hpage : p.keyOnLine 0 (.text k) =
        (((start []).scalarValue (some 0) true .text k).onto p).attach [':'] := by
      rw [← scalarValue_onto, ← hp.eq_onto]
      rfl
    refine ⟨false, plain, w ++ [':'], .short hw.written (hw.oneLine rfl) hlength,
      shown_append hw.shown (List.forall_mem_singleton.mpr rfl), ?_, ?_⟩
    · rw [hpage]
      exact ⟨rfl, rfl, by simp⟩
    · rw [hpage]
      simp [attach, put, onto, hwritten]
  · rw [if_neg hshort, value]
    have hlevel : below (some 0) step < lineWidth := by decide
    obtain ⟨plain, w, hwritten, hw⟩ := addsLines_behind '?' rfl true hlevel hkept hp.blank
    obtain ⟨hline, -⟩ := indent_behind hw.adds.indented 0
    have hcolon := (isLineBegin_indent hw.adds.indented).indicator ':'
    refine ⟨true, plain, '?' :: ' ' :: (w ++ ['\n', ':']), .long hwritten, ?_, ?_, ?_⟩
    · exact shown_append hw.shown (List.forall_mem_cons.mpr ⟨rfl, List.forall_mem_singleton.mpr rfl⟩)
    · rw [hcolon]
      exact ⟨rfl, rfl, fun _ => rfl⟩
    · rw [hcolon, hline, hw.adds.written]
      simp

/-! ## Entries -/

/-- A name with its texts, all of which can be read back from what is written. -/
structure IsPrintable (e : Text × List Text) : Prop where
  key : IsKept e.1
  fits : IsFitting e.1
  texts : ∀ t ∈ e.2, IsKept t

instance (e : Text × List Text) : Decidable (IsPrintable e) :=
  decidable_of_iff (IsKept e.1 ∧ IsFitting e.1 ∧ ∀ t ∈ e.2, IsKept t)
    ⟨fun ⟨key, fits, texts⟩ => ⟨key, fits, texts⟩, fun h => ⟨h.key, h.fits, h.texts⟩⟩

/-- A name with its texts, as an entry of a map. -/
def entryValue (e : Text × List Text) : Value × Value := (.text e.1, .list (e.2.map .text))

theorem valueEntries_cons (p : Page) (e : Text × List Text) (es : List (Value × Value)) :
    valueEntries 0 p (entryValue e :: es) =
      valueEntries 0 (value (some 0) true ((p.indent 0).behindKey e.1) (entryValue e).2) es := by
  rw [entryValue, valueEntries]
  rfl

theorem addsLines_entries {es : List (Text × List Text)} (h : ∀ e ∈ es, IsPrintable e)
    (hp : IsLineBegin (p.indent 0)) :
    ∃ ts x, EntryLines es ts x ∧ (∀ c ∈ x, Style.isShown c = true) ∧
      ((valueEntries 0 p (es.map entryValue)).indent 0).written =
        x.reverse ++ (p.indent 0).written := by
  induction es generalizing p with
  | nil => exact ⟨[], [], .nil, by simp, by rw [List.map_nil, valueEntries]; rfl⟩
  | cons e es ih =>
      obtain ⟨he, hes⟩ := List.forall_mem_cons.mp h
      obtain ⟨apart, plain, v, hkey, hv, hbehind, hwritten⟩ := addsLines_key he.key he.fits hp
      obtain ⟨ts, w, hvalue, hw⟩ := addsLines_list he.texts hbehind
      obtain ⟨hline, -⟩ := indent_behind hw.adds.indented 0
      obtain ⟨us, x, hentries, hx, hrest⟩ := ih hes (isLineBegin_indent hw.adds.indented)
      refine ⟨_, v ++ w ++ '\n' :: x, .cons hkey hvalue hentries, ?_, ?_⟩
      · exact shown_append (shown_append hv hw.shown) (List.forall_mem_cons.mpr ⟨rfl, hx⟩)
      · rw [List.map_cons, valueEntries_cons]
        show ((valueEntries 0 (value (some 0) true _ (.list (e.2.map .text))) _).indent 0).written = _
        rw [hrest, hline, hw.adds.written, hwritten]
        simp

end

end Page

/-! ## Documents -/

namespace Anchors

theorem census_text (c : Census) (t : Text) : census c (.text t) = c := by
  rw [census] <;> exact nofun

theorem censusOfItems_texts (c : Census) (ls : List Text) :
    censusOfItems c (ls.map .text) = c := by
  induction ls with
  | nil => rw [List.map_nil, censusOfItems]
  | cons t ls ih => rw [List.map_cons, censusOfItems, census_text, ih]

theorem censusOfEntries_entryValue (c : Census) (es : List (Text × List Text)) :
    censusOfEntries c (es.map Page.entryValue) = c := by
  induction es with
  | nil => rw [List.map_nil, censusOfEntries]
  | cons e es ih =>
      rw [List.map_cons, Page.entryValue, censusOfEntries, census_text, census, censusOfItems_texts, ih]

end Anchors

namespace Refusal

theorem inspect_text (met : List Nat) (levels : Nat) (t : Text) :
    inspect met (levels + 1) (.text t) = .ok met := by
  rw [inspect] <;> exact nofun

theorem inspectItems_texts (met : List Nat) (levels : Nat) (ls : List Text) :
    inspectItems met (levels + 1) (ls.map .text) = .ok met := by
  induction ls with
  | nil => rw [List.map_nil, inspectItems]
  | cons t ls ih =>
      rw [List.map_cons, inspectItems, inspect_text]
      exact ih

theorem inspectEntries_entryValue (met : List Nat) (levels : Nat) (es : List (Text × List Text)) :
    inspectEntries met (levels + 2) (es.map Page.entryValue) = .ok met := by
  have hlist (ls : List Text) : inspect met (levels + 2) (.list (ls.map .text)) = .ok met := by
    rw [inspect, inspectItems_texts]
  induction es with
  | nil => rw [List.map_nil, inspectEntries]
  | cons e es ih =>
      rw [List.map_cons, Page.entryValue, inspectEntries, inspect_text]
      simp only [Bind.bind, Except.bind, hlist]
      exact ih

end Refusal

/-- A map of lists of texts is written if three levels are left. -/
theorem refusal?_entries {levels : Nat} (hlevels : 3 ≤ levels) (es : List (Text × List Text)) :
    refusal? levels (.map (es.map Page.entryValue)) = none := by
  obtain ⟨n, rfl⟩ := Nat.exists_eq_add_of_le' hlevels
  unfold refusal?
  rw [Refusal.inspect, Refusal.inspectEntries_entryValue]

/-- **A map of lists of texts is written in lines that are read back as that map.** -/
theorem write_entries {es : List (Text × List Text)} (hes : es ≠ [])
    (h : ∀ e ∈ es, Page.IsPrintable e) :
    ∃ ts, EntryLines es ts (write (.map (es.map Page.entryValue))) ∧
      ∀ c ∈ write (.map (es.map Page.entryValue)), Style.isShown c = true := by
  have hanchors : Anchors.ofValue (.map (es.map Page.entryValue)) = [] := by
    unfold Anchors.ofValue
    rw [Anchors.census, Anchors.censusOfEntries_entryValue]
  have hbegin : Page.IsLineBegin (Page.start []) := ⟨rfl, rfl, rfl⟩
  obtain ⟨ts, x, hentries, hx, hwritten⟩ := Page.addsLines_entries (p := Page.start []) h
    (hbegin.indent.symm ▸ hbegin)
  have hwrite : write (.map (es.map Page.entryValue)) = x := by
    unfold write
    rw [hanchors, Page.value, below, hwritten, hbegin.indent]
    · simp [Page.start]
    · simpa using hes
  rw [hwrite]
  exact ⟨ts, hentries, hx⟩

end Casebook.Yaml

import Casebook.Proofs.Disk.Writing
import Casebook.Proofs.Snapshot.Check
import Casebook.Proofs.Yaml.Source

/-!
# Saved results

A store that checks have filled is saved, and from the file the same names are read, in the same
order and with the same lines. Main statement (`Store.saved_reopens`): later checks cannot tell the
store that is read from the one that was saved.

Two kinds of text are written but not read back: one with a next-line control between single quotes,
where a line end is read as a line feed or a blank, and a key that is too long for one line once its
escapes are written out. `Yaml.Page.IsPrintable` leaves them out.
-/

namespace Casebook.Snapshot

open Disk Yaml

/-! ## Files of lines -/

/-- What is accepted under a name, for lines of text. -/
def lined (e : Text × List Text) : Text × List Value := (e.1, e.2.map .text)

theorem put_map_lined (name : Text) (lines : List Text) (es : List (Text × List Text)) :
    Table.put name (lines.map Value.text) (es.map lined) = (Table.put name lines es).map lined := by
  induction es with
  | nil => rfl
  | cons e es ih =>
      rw [List.map_cons, Table.put, lined, Table.put]
      dsimp only
      split
      · rfl
      · rw [ih]
        rfl

theorem put_of_not_mem {name : Text} {vs : List Value} {accepted : List (Text × List Value)}
    (h : name ∉ accepted.map Prod.fst) :
    Table.put name vs accepted = accepted ++ [(name, vs)] := by
  induction accepted with
  | nil => rfl
  | cons e accepted ih =>
      obtain ⟨hne, hrest⟩ := not_or.mp fun hmem => h (List.mem_cons.mpr hmem)
      rw [Table.put, if_neg (Ne.symm hne), ih hrest]
      rfl

theorem linesOf_texts (lines : List Text) :
    linesOf (.list (lines.map .text)) = .ok (lines.map .text) := by
  cases lines <;> rfl

/-- What a map of lists of texts accepts. -/
theorem acceptedOf_entries {es : List (Text × List Text)} (hkeys : (es.map Prod.fst).Nodup) :
    acceptedOf (es.map Page.entryValue) = .ok (es.map lined) := by
  -- the induction carries the entries that were read before
  suffices hfold : ∀ before : List (Text × List Text), ((before ++ es).map Prod.fst).Nodup →
      List.foldlM (fun accepted (e : Value × Value) => do
        let name ← (e.1.shown? Value.display).mapError .hugeInteger
        return Table.put name (← linesOf e.2) accepted)
        (before.map lined) (es.map Page.entryValue) =
      (.ok ((before ++ es).map lined) : Outcome (List (Text × List Value))) from hfold [] hkeys
  intro before hnodup
  clear hkeys
  induction es generalizing before with
  | nil => simp [Pure.pure, Except.pure]
  | cons e es ih =>
      have hnew : e.1 ∉ (before.map lined).map Prod.fst := by
        rw [List.map_append, List.nodup_append] at hnodup
        intro hmem
        rw [List.map_map] at hmem
        exact hnodup.2.2 _ hmem _ List.mem_cons_self rfl
      rw [List.map_cons, List.foldlM_cons, Page.entryValue, linesOf_texts]
      show List.foldlM _ (Table.put e.1 (e.2.map .text) (before.map lined)) _ = _
      have hput : before.map lined ++ [(e.1, e.2.map Value.text)] = (before ++ [e]).map lined := by
        simp [lined]
      rw [put_of_not_mem hnew, hput, ih _ (by rwa [List.append_assoc]), List.append_assoc]
      rfl

theorem ofDocument_entries {es : List (Text × List Text)} (hes : es ≠ [])
    (hkeys : (es.map Prod.fst).Nodup) :
    ofDocument (.map (es.map Page.entryValue)) = .ok (es.map lined) := by
  have hfull : (Value.map (es.map Page.entryValue)).isEmpty = false := by
    simpa [Value.isEmpty] using hes
  unfold ofDocument
  rw [hfull, if_neg Bool.false_ne_true]
  exact acceptedOf_entries hkeys

namespace Store

variable {s t : Store} {es : List (Text × List Text)}

/-! ## Checks one after the other -/

/-- The store after lines were checked under a name. A check that fails leaves it. -/
def after (s : Store) (e : Text × List Text) : Store :=
  match s.check e.1 e.2 with
  | .ok (_, t) => t
  | .error _ => s

/-- The store after checks. -/
def afterAll (s : Store) (calls : List (Text × List Text)) : Store := calls.foldl after s

/-- The verdicts of checks. -/
def verdicts (s : Store) : List (Text × List Text) → List (Outcome (Option Text))
  | [] => []
  | e :: calls => (s.check e.1 e.2).map Prod.fst :: (s.after e).verdicts calls

/-- A check accepts its lines or leaves the store. -/
theorem after_cases (s : Store) (e : Text × List Text) :
    s.after e = s ∨ s.after e = s.accept e.1 e.2 := by
  unfold after check
  cases s.get? e.1 with
  | none => exact .inr rfl
  | some vs =>
      dsimp only
      by_cases hagree : agree vs e.2 = true
      · rw [if_pos hagree]
        exact .inl rfl
      · rw [if_neg hagree]
        by_cases hupdating : s.updating = true
        · rw [if_pos hupdating]
          exact .inr rfl
        · rw [if_neg hupdating]
          cases mismatch vs e.2 <;> exact .inl rfl

/-- Two stores accept the same and treat other lines in the same way. -/
structure Alike (s t : Store) : Prop where
  accepted : t.accepted = s.accepted
  updating : t.updating = s.updating

theorem Alike.check (h : Alike s t) (e : Text × List Text) :
    (t.check e.1 e.2).map Prod.fst = (s.check e.1 e.2).map Prod.fst ∧
      Alike (s.after e) (t.after e) := by
  obtain ⟨haccepted, hupdating⟩ := h
  have hget : t.get? e.1 = s.get? e.1 := by rw [get?, get?, haccepted]
  have haccept : Alike (s.accept e.1 e.2) (t.accept e.1 e.2) :=
    ⟨congrArg (Table.put e.1 (e.2.map Value.text)) haccepted, hupdating⟩
  unfold after Store.check
  rw [hget, hupdating]
  cases s.get? e.1 with
  | none => exact ⟨rfl, haccept⟩
  | some vs =>
      dsimp only
      split
      · exact ⟨rfl, haccepted, hupdating⟩
      · split
        · exact ⟨rfl, haccept⟩
        · cases mismatch vs e.2 <;> exact ⟨rfl, haccepted, hupdating⟩

/-- Checks cannot tell such stores apart. -/
theorem Alike.verdicts (h : Alike s t) (calls : List (Text × List Text)) :
    t.verdicts calls = s.verdicts calls := by
  induction calls generalizing s t with
  | nil => rfl
  | cons e calls ih =>
      obtain ⟨hverdict, hafter⟩ := h.check e
      rw [Store.verdicts, Store.verdicts, hverdict, ih hafter]

/-! ## What checks accept -/

/-- The store has the lines of a table, and there is something to save unless the table is empty. -/
structure Holds (s : Store) (es : List (Text × List Text)) : Prop where
  accepted : s.accepted = es.map lined
  names : (es.map Prod.fst).Nodup
  changed : s.changed = !es.isEmpty

theorem Holds.accept (h : s.Holds es) (name : Text) (lines : List Text) :
    (s.accept name lines).Holds (Table.put name lines es) := by
  refine ⟨?_, ?_, ?_⟩
  · rw [← put_map_lined, ← h.accepted]
    rfl
  · rw [Table.keys_put]
    split
    · exact h.names
    · next hnew =>
      refine List.nodup_append.mpr ⟨h.names, List.nodup_singleton name, fun other hother new hmem => ?_⟩
      rintro rfl
      obtain rfl := List.mem_singleton.mp hmem
      exact hnew hother
  · cases es with
    | nil => rfl
    | cons e es =>
        rw [Table.put]
        split <;> rfl

theorem Holds.after (h : s.Holds es) (e : Text × List Text) :
    ∃ es', (s.after e).Holds es' ∧ (s.after e).path = s.path ∧ (s.after e).updating = s.updating := by
  rcases after_cases s e with heq | heq
  · rw [heq]
    exact ⟨es, h, rfl, rfl⟩
  · rw [heq]
    exact ⟨_, h.accept e.1 e.2, rfl, rfl⟩

/-- Checks fill a store with lines. -/
theorem Holds.afterAll (h : s.Holds es) (calls : List (Text × List Text)) :
    ∃ es', (s.afterAll calls).Holds es' ∧ (s.afterAll calls).path = s.path ∧
      (s.afterAll calls).updating = s.updating := by
  induction calls generalizing s es with
  | nil => exact ⟨es, h, rfl, rfl⟩
  | cons e calls ih =>
      obtain ⟨es', hafter, hpath, hupdating⟩ := h.after e
      obtain ⟨es'', hrest, hpath', hupdating'⟩ := ih hafter
      exact ⟨es'', hrest, hpath'.trans hpath, hupdating'.trans hupdating⟩

theorem Holds.toValue (h : s.Holds es) : s.toValue = .map (es.map Page.entryValue) := by
  unfold Store.toValue
  rw [h.accepted, List.map_map]
  rfl

/-! ## Saving and opening -/

/-- Every name, with its lines, is written so that it can be read back. -/
def IsPrintable (s : Store) : Prop :=
  ∀ name lines, (name, lines.map Value.text) ∈ s.accepted → Page.IsPrintable (name, lines)

theorem Holds.isPrintable_iff (h : s.Holds es) :
    s.IsPrintable ↔ ∀ e ∈ es, Page.IsPrintable e := by
  unfold IsPrintable
  rw [h.accepted]
  constructor
  · intro hall e he
    exact hall e.1 e.2 (List.mem_map_of_mem he)
  · intro hall name lines hmem
    obtain ⟨e, he, heq⟩ := List.mem_map.mp hmem
    obtain ⟨rfl, hlines⟩ := Prod.mk.inj heq
    have htext : Function.Injective Value.text := fun _ _ => Value.text.inj
    rw [← List.map_injective_iff.mpr htext hlines]
    exact hall e he

variable {w w' : Workspace} {steps : Nat} {path : Path} {updating : Bool}

/-- The folders around a path can be made, and a file can be written there. -/
def CanSave (w : Workspace) (path : Path) : Prop :=
  ∃ v, w.ensureFolders path.parent = .ok v ∧ v.IsWritable path.text

/-- What was opened is opened again, whether or not the store is updating. -/
theorem load_updating (h : load w steps path updating = .ok s) (other : Bool) :
    s.path = path ∧ s.updating = updating ∧ s.changed = false ∧
      load w steps path other = .ok { s with updating := other } := by
  unfold load at h ⊢
  cases hexists : (w.exists? path.text).mapError Fault.disk with
  | error fault =>
      rw [hexists] at h
      cases h
  | ok found =>
      rw [hexists] at h
      cases found with
      | false =>
          obtain rfl := Except.ok.inj h
          exact ⟨rfl, rfl, rfl, rfl⟩
      | true =>
          simp only [Bind.bind, Except.bind, ↓reduceIte] at h ⊢
          cases hread : w.readYaml (steps + 2) path.text with
          | error fault =>
              rw [hread] at h
              cases h
          | ok v =>
              rw [hread] at h
              cases hdocument : ofDocument v with
              | error fault => simp [hdocument] at h
              | ok accepted =>
                  simp only [hdocument] at h ⊢
                  obtain rfl := Except.ok.inj h
                  exact ⟨rfl, rfl, rfl, rfl⟩

/-- The file of a table of lines is opened. -/
theorem load_written (hes : es ≠ []) (hkeys : (es.map Prod.fst).Nodup)
    (hprintable : ∀ e ∈ es, Page.IsPrintable e) (hsteps : steps + 19 ≤ Depth.stepLimit)
    (hbytes : w.bytes path.text =
      .ok (Text.encodeUtf8 (Yaml.write (.map (es.map Page.entryValue))))) :
    load w steps path updating = .ok ⟨path, updating, es.map lined, false⟩ := by
  have hlevels : 3 ≤ Depth.ofYaml (steps + 2) := by
    unfold Depth.ofYaml
    omega
  have hread : w.readYaml (steps + 2) path.text = .ok (.map (es.map Page.entryValue)) := by
    unfold Workspace.readYaml
    rw [hbytes]
    show (((Source.ofBytes _).read _).mapError _ : Outcome Value) = _
    rw [Source.read_write hes hkeys hprintable hlevels]
    rfl
  unfold load
  rw [Workspace.exists?_of_bytes hbytes, hread]
  show (do return ⟨path, updating, ← ofDocument _, false⟩ : Outcome Store) = _
  rw [ofDocument_entries hes hkeys]
  rfl

/-- Lines are written unless the disk refuses. -/
theorem save_spec (hholds : s.Holds es) (hes : es ≠ []) (hsteps : steps + 19 ≤ Depth.stepLimit) :
    (∀ v w', w.ensureFolders s.path.parent = .ok v →
      v.write s.path.text
        (Text.encodeUtf8 (Yaml.write (.map (es.map Page.entryValue)))) = .ok w' →
      s.save w steps = (.ok true, { s with changed := false }, w')) ∧
    ∀ b s' w', s.save w steps = (.ok b, s', w') →
      ∃ v, w.ensureFolders s.path.parent = .ok v ∧
        v.write s.path.text
          (Text.encodeUtf8 (Yaml.write (.map (es.map Page.entryValue)))) = .ok w' := by
  have hchanged : (!s.changed) = false := by
    rw [hholds.changed, Bool.not_not]
    simpa using hes
  have hrefusal : refusal? (Depth.ofWrittenYaml steps) (.map (es.map Page.entryValue)) = none := by
    refine refusal?_entries ?_ es
    unfold Depth.ofWrittenYaml
    omega
  have hbytes : Text.utf8 s.text =
      Text.encodeUtf8 (Yaml.write (.map (es.map Page.entryValue))) := by
    rw [Text.utf8, text, hholds.toValue, String.toList_ofList]
  unfold save
  rw [hchanged, if_neg Bool.false_ne_true, hholds.toValue, hrefusal]
  dsimp only [Option.isSome_none]
  rw [if_neg Bool.false_ne_true, hbytes]
  constructor
  · intro v w' hfolders hwrite
    rw [hfolders]
    dsimp only
    rw [hwrite]
  · intro b s' w' h
    cases hfolders : w.ensureFolders s.path.parent with
    | error fault =>
        rw [hfolders] at h
        cases h
    | ok v =>
        rw [hfolders] at h
        dsimp only at h
        cases hwrite : v.write s.path.text
            (Text.encodeUtf8 (Yaml.write (.map (es.map Page.entryValue)))) with
        | error fault =>
            rw [hwrite] at h
            cases h
        | ok made =>
            rw [hwrite] at h
            obtain ⟨-, -, rfl⟩ := by simpa using h
            exact ⟨v, rfl, hwrite⟩

/-- **A saved store is opened as it was.** If the disk lets the file be written, it is written; and
once it is, the names, their order and their lines are read from it again, and checks cannot tell
the store from the one that was saved. -/
theorem saved_reopens {s₀ : Store} (hw : w.IsGrounded) (hsteps : steps + 19 ≤ Depth.stepLimit)
    (hload : load w steps path updating = .ok s₀) (hempty : s₀.accepted = [])
    (calls : List (Text × List Text)) (hprintable : (s₀.afterAll calls).IsPrintable) :
    (CanSave w path → ∃ b s' w', (s₀.afterAll calls).save w steps = (.ok b, s', w')) ∧
    ∀ b s' w', (s₀.afterAll calls).save w steps = (.ok b, s', w') → ∀ other,
      ∃ t, load w' steps path other = .ok t ∧ t.accepted = (s₀.afterAll calls).accepted ∧
        (other = updating → ∀ later, t.verdicts later = (s₀.afterAll calls).verdicts later) := by
  have hagain := load_updating hload
  obtain ⟨hpath, hupdating, hunchanged, -⟩ := hagain updating
  have hnone : s₀.Holds [] := ⟨hempty, List.nodup_nil, hunchanged⟩
  obtain ⟨es, hholds, hpath', hupdating'⟩ := hnone.afterAll calls
  rw [hpath] at hpath'
  rw [hupdating] at hupdating'
  generalize s₀.afterAll calls = s at *
  by_cases hes : es = []
  · -- nothing was checked, and the file is left alone
    subst hes
    have hsave : s.save w steps = (.ok false, s, w) := by
      unfold save
      rw [hholds.changed]
      rfl
    refine ⟨fun _ => ⟨_, _, _, hsave⟩, fun b s' w' h other => ?_⟩
    obtain ⟨-, -, rfl⟩ := by simpa [hsave] using h
    have haccepted : s₀.accepted = s.accepted := hempty.trans hholds.accepted.symm
    refine ⟨_, (hagain other).2.2.2, haccepted, fun hother later => ?_⟩
    have halike : Alike s { s₀ with updating := other } :=
      ⟨haccepted, hother.trans hupdating'.symm⟩
    exact halike.verdicts later
  · obtain ⟨hwritten, hinverse⟩ := save_spec (w := w) hholds hes hsteps
    rw [hpath'] at hwritten hinverse
    constructor
    · rintro ⟨v, hfolders, hwritable⟩
      obtain ⟨w', hwrite⟩ := hwritable.write _
      exact ⟨_, _, _, hwritten v w' hfolders hwrite⟩
    · intro b s' w' h other
      obtain ⟨v, hfolders, hwrite⟩ := hinverse b s' w' h
      obtain ⟨hbytes, -⟩ :=
        Workspace.bytes_of_write (Workspace.isGrounded_ensureFolders hw hfolders) hwrite
      refine ⟨_, load_written hes hholds.names (hholds.isPrintable_iff.mp hprintable) hsteps hbytes,
        hholds.accepted.symm, fun hother later => ?_⟩
      exact Alike.verdicts ⟨hholds.accepted.symm, hother.trans hupdating'.symm⟩ later

/-- A disk with nothing on it. -/
def bareDisk : Workspace := ⟨.folder [], []⟩

/-- A file in a folder that has to be made. -/
def keptAt : Path := ⟨.relative, ["kept", "s.yml"]⟩

/-- A name that would be read as a truth value, and lines that need quotes. -/
def filling : List (Text × List Text) :=
  [("no", ["x: 1", "'"]), ("a", []), ("no", ["other"])]

theorem saved_reopens_filled :
    ∃ s₀ b s' w' t, bareDisk.IsGrounded ∧ load bareDisk 6 keptAt false = .ok s₀ ∧
      s₀.accepted = [] ∧ (s₀.afterAll filling).IsPrintable ∧ CanSave bareDisk keptAt ∧
      (s₀.afterAll filling).save bareDisk 6 = (.ok b, s', w') ∧
      load w' 6 keptAt false = .ok t ∧ t.accepted = (s₀.afterAll filling).accepted ∧
      ∀ later, t.verdicts later = (s₀.afterAll filling).verdicts later := by
  have hw : bareDisk.IsGrounded := ⟨[], rfl⟩
  have hload : load bareDisk 6 keptAt false = .ok ⟨keptAt, false, [], false⟩ := by cbv
  have hholds : ((⟨keptAt, false, [], false⟩ : Store).afterAll filling).Holds
      [("no", ["x: 1", "'"]), ("a", [])] := ⟨by cbv, by decide, by cbv⟩
  have hprintable := hholds.isPrintable_iff.mpr (by decide)
  have hcan : CanSave bareDisk keptAt := ⟨_, by cbv, [], _, by cbv⟩
  obtain ⟨hsave, hopen⟩ := saved_reopens hw (by decide) hload rfl filling hprintable
  obtain ⟨b, s', w', hsaved⟩ := hsave hcan
  obtain ⟨t, hopened, hsame, hverdicts⟩ := hopen b s' w' hsaved false
  exact ⟨_, b, s', w', t, hw, hload, rfl, hprintable, hcan, hsaved, hopened, hsame, hverdicts rfl⟩

/-- Between single quotes a next-line control is lost: it is read as a blank. -/
theorem next_line_lost :
    ∃ s₀ b s' w' t, load bareDisk 6 keptAt false = .ok s₀ ∧ s₀.accepted = [] ∧
      (s₀.afterAll [("c", ["a\x85b"])]).save bareDisk 6 = (.ok b, s', w') ∧
      load w' 6 keptAt false = .ok t ∧
      t.accepted ≠ (s₀.afterAll [("c", ["a\x85b"])]).accepted := by
  have hload : load bareDisk 6 keptAt false = .ok ⟨keptAt, false, [], false⟩ := by cbv
  refine ⟨_, _, _, _, ⟨keptAt, false, [("c", [.text "a b"])], false⟩, hload, rfl, rfl, ?_, ?_⟩
  · cbv
  · exact fun hsame =>
      absurd (congrArg (List.map fun e => e.2.map Value.display) hsame) (by decide)

end Store

end Casebook.Snapshot

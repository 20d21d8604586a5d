import Casebook.Proofs.Snapshot.Saving

/-!
# Stores over time

A store is checked against and saved any number of times, in any order. What is accepted after
that hangs on the checks alone, and whether saving writes hangs on whether a check has recorded or
replaced an entry since the file was read or last written (`Desk.Pending`). Main statement
(`Desk.accepted_over_time`): a store that is not updating keeps the first lines of a name, one that
is updating keeps the last, names stay in the order in which they came, and a store in which
nothing is pending accepts what was read from the file or last written to it.
-/

namespace Casebook.Snapshot

open Disk

namespace Store

variable {s : Store} {name : Text} {lines : List Text} {w : Workspace} {steps : Nat}

/-! ## Stores of lines -/

/-- All that is accepted are lines, under each name a list of them. -/
def IsLined (s : Store) : Prop :=
  ∃ es : List (Text × List Text), s.accepted = es.map lined

theorem lookup_lined (es : List (Text × List Text)) (name : Text) :
    (es.map lined).lookup name = (es.lookup name).map (List.map Value.text) := by
  induction es with
  | nil => rfl
  | cons e es ih =>
      obtain ⟨n, ls⟩ := e
      rw [List.map_cons, lined, List.lookup_cons, List.lookup_cons, ih]
      cases name == n <;> rfl

theorem IsLined.get? (h : s.IsLined) {vs : List Value} (hvs : s.get? name = some vs) :
    ∃ ls : List Text, vs = ls.map Value.text := by
  obtain ⟨es, hes⟩ := h
  rw [Store.get?, hes, lookup_lined] at hvs
  obtain ⟨ls, -, rfl⟩ := Option.map_eq_some_iff.mp hvs
  exact ⟨ls, rfl⟩

theorem IsLined.accept (h : s.IsLined) (name : Text) (lines : List Text) :
    (s.accept name lines).IsLined := by
  obtain ⟨es, hes⟩ := h
  refine ⟨Table.put name lines es, ?_⟩
  rw [← put_map_lined, ← hes]
  rfl

/-- Lines can always be compared with lines. -/
theorem IsLined.check_ok (h : s.IsLined) (name : Text) (lines : List Text) :
    ∃ m, s.check name lines = .ok (m, s.after (name, lines)) := by
  have htexts : ∀ vs, s.get? name = some vs → ∀ v ∈ vs, isText v = true := by
    intro vs hvs v hv
    obtain ⟨ls, rfl⟩ := h.get? hvs
    obtain ⟨l, -, rfl⟩ := List.mem_map.mp hv
    rfl
  rcases s.check_spec name lines with ⟨m, vs, t, hcheck, -, -, -⟩ | ⟨fault, -, hcompared⟩
  · refine ⟨m, ?_⟩
    unfold after
    rw [hcheck]
  · obtain ⟨result, hresult⟩ := compared_ok s.updating htexts lines
    rw [hresult] at hcompared
    cases hcompared

/-- The names for which something is accepted, in the order in which they came. -/
def names (s : Store) : List Text := s.accepted.map Prod.fst

theorem get?_eq_none_iff (s : Store) (name : Text) : s.get? name = none ↔ name ∉ s.names := by
  unfold Store.get? names
  rw [List.lookup_eq_none_iff]
  constructor
  · intro h hmem
    obtain ⟨e, he, rfl⟩ := List.mem_map.mp hmem
    simpa using h e he
  · intro h e he
    simp only [bne_iff_ne]
    rintro rfl
    exact h (List.mem_map_of_mem he)

/-- A store of lines after a check: it is left if it agrees, or if it has other lines and is not
updating; else it has the lines. -/
theorem IsLined.after_cases (h : s.IsLined) (name : Text) (lines : List Text) :
    (s.after (name, lines) = s ∧ name ∈ s.names ∧
      (s.get? name = some (lines.map Value.text) ∨ s.updating = false)) ∨
    (s.after (name, lines) = s.accept name lines ∧
      s.get? name ≠ some (lines.map Value.text) ∧ (name ∉ s.names ∨ s.updating = true)) := by
  obtain ⟨m, hcheck⟩ := h.check_ok name lines
  rcases check_cases hcheck with ⟨hsame, vs, hvs, hm, hkept⟩ | ⟨haccept, -, hne, hwhy⟩
  · refine Or.inl ⟨hsame, ?_, ?_⟩
    · by_contra hno
      rw [(s.get?_eq_none_iff name).mpr hno] at hvs
      cases hvs
    · rcases hkept with hnone | hkept
      · rw [hvs, hm.mp hnone]
        exact Or.inl rfl
      · exact Or.inr hkept
  · rw [s.get?_eq_none_iff name] at hwhy
    exact Or.inr ⟨haccept, hne, hwhy⟩

/-- What a check says of the lines: those of a name that is not there are right, and so are all of
them if the store is updating; else they are right if they are the ones that are there. -/
theorem IsLined.check_eq (h : s.IsLined) (name : Text) (lines : List Text) :
    ∃ m, s.check name lines = .ok (m, s.after (name, lines)) ∧
      (m = none ↔ name ∉ s.names ∨ s.updating = true ∨
        s.get? name = some (lines.map Value.text)) := by
  obtain ⟨m, hcheck⟩ := h.check_ok name lines
  refine ⟨m, hcheck, ?_⟩
  rw [← s.get?_eq_none_iff name]
  rcases check_cases hcheck with ⟨-, vs, hvs, hm, hkept⟩ | ⟨-, hm, -, hwhy⟩
  · rw [hvs]
    constructor
    · intro hnone
      exact Or.inr (Or.inr (congrArg some (hm.mp hnone)))
    · rintro (hno | hupdating | heq)
      · cases hno
      · rcases hkept with hnone | hkept
        · exact hnone
        · rw [hkept] at hupdating
          cases hupdating
      · exact hm.mpr (Option.some.inj heq)
  · refine iff_of_true hm ?_
    rcases hwhy with hno | hupdating
    · exact Or.inl hno
    · exact Or.inr (Or.inl hupdating)

theorem after_updating (s : Store) (e : Text × List Text) :
    (s.after e).updating = s.updating := by
  rcases s.after_cases e with heq | heq
  · rw [heq]
  · rw [heq]
    rfl

theorem IsLined.after (h : s.IsLined) (e : Text × List Text) : (s.after e).IsLined := by
  rcases s.after_cases e with heq | heq <;> rw [heq]
  · exact h
  · exact h.accept e.1 e.2

/-- The lines of a check are there after it, if the store is updating or had none. -/
theorem IsLined.get?_after (h : s.IsLined) (hwhy : name ∉ s.names ∨ s.updating = true) (n : Text) :
    (s.after (name, lines)).get? n =
      if n = name then some (lines.map Value.text) else s.get? n := by
  rcases h.after_cases name lines with ⟨heq, hmem, hsame⟩ | ⟨heq, -, -⟩
  · rw [heq]
    split
    · next hn =>
      subst hn
      rcases hsame with hsame | hfixed
      · exact hsame
      · rcases hwhy with hno | hupdating
        · exact absurd hmem hno
        · rw [hfixed] at hupdating
          cases hupdating
    · rfl
  · rw [heq, get?_accept]

/-- Without updating, what is there stays. -/
theorem IsLined.get?_after_kept (h : s.IsLined) (hfixed : s.updating = false) {n : Text}
    {vs : List Value} (hvs : s.get? n = some vs) (e : Text × List Text) :
    (s.after e).get? n = some vs := by
  rcases h.after_cases e.1 e.2 with ⟨heq, -, -⟩ | ⟨heq, -, hno | hupdating⟩
  · rw [heq, hvs]
  · rw [heq, get?_accept, if_neg, hvs]
    rintro rfl
    rw [(s.get?_eq_none_iff e.1).mpr hno] at hvs
    cases hvs
  · rw [hfixed] at hupdating
    cases hupdating

theorem IsLined.names_after (h : s.IsLined) (name : Text) (lines : List Text) :
    (s.after (name, lines)).names = if name ∈ s.names then s.names else s.names ++ [name] := by
  rcases h.after_cases name lines with ⟨heq, hmem, -⟩ | ⟨heq, -, -⟩
  · rw [heq, if_pos hmem]
  · rw [heq]
    exact Table.keys_put name (lines.map Value.text) s.accepted

/-! ## Saving them -/

/-- What saving comes to. Without a change it does nothing; else the file is written with all that
is accepted, or the change is still there. -/
theorem save_cases (s : Store) (w : Workspace) (steps : Nat) :
    (s.changed = false ∧ s.save w steps = (.ok false, s, w)) ∨
    (s.changed = true ∧ ∃ v w', w.ensureFolders s.path.parent = .ok v ∧
      v.write s.path.text (Text.utf8 s.text) = .ok w' ∧
      s.save w steps = (.ok true, { s with changed := false }, w')) ∨
    (s.changed = true ∧ ∃ fault w', s.save w steps = (.error fault, s, w')) := by
  unfold save
  cases hchanged : s.changed with
  | false => exact Or.inl ⟨rfl, rfl⟩
  | true =>
      refine Or.inr ?_
      rw [Bool.not_true, if_neg Bool.false_ne_true]
      cases hfolders : w.ensureFolders s.path.parent with
      | error fault => exact Or.inr ⟨rfl, _, _, rfl⟩
      | ok v =>
          dsimp only
          cases hrefusal : Yaml.refusal? (Depth.ofWrittenYaml steps) s.toValue with
          | some refusal =>
              cases hwrite : v.write s.path.text (Text.utf8 "") with
              | error fault => exact Or.inr ⟨rfl, .disk fault, v, by simp [hwrite]⟩
              | ok w' => exact Or.inr ⟨rfl, .notWritten refusal, w', by simp [hwrite]⟩
          | none =>
              cases hwrite : v.write s.path.text (Text.utf8 s.text) with
              | error fault => exact Or.inr ⟨rfl, .disk fault, v, by simp [hwrite]⟩
              | ok w' => exact Or.inl ⟨rfl, v, w', rfl, hwrite, by simp [hwrite]⟩

/-- Saving leaves the store, but for the note that it has changed. -/
theorem save_store_cases (s : Store) (w : Workspace) (steps : Nat) :
    (s.save w steps).2.1 = s ∨ (s.save w steps).2.1 = { s with changed := false } := by
  rcases s.save_cases w steps with ⟨-, hsave⟩ | ⟨-, _, _, -, -, hsave⟩ | ⟨-, _, _, hsave⟩
  · exact Or.inl (by rw [hsave])
  · exact Or.inr (by rw [hsave])
  · exact Or.inl (by rw [hsave])

/-- Where the disk takes the file, lines are written. -/
theorem IsLined.writes (h : s.IsLined) (hchanged : s.changed = true)
    (hsteps : steps + 19 ≤ Depth.stepLimit) (hsave : CanSave w s.path) :
    ∃ w', s.save w steps = (.ok true, { s with changed := false }, w') := by
  obtain ⟨es, hes⟩ := h
  obtain ⟨v, hfolders, hwritable⟩ := hsave
  have hvalue : s.toValue = .map (es.map Yaml.Page.entryValue) := by
    unfold toValue
    rw [hes, List.map_map]
    rfl
  have hrefusal : Yaml.refusal? (Depth.ofWrittenYaml steps) s.toValue = none := by
    rw [hvalue]
    refine Yaml.refusal?_entries ?_ es
    unfold Depth.ofWrittenYaml
    omega
  obtain ⟨w', hwrite⟩ := hwritable.write (Text.utf8 s.text)
  refine ⟨w', ?_⟩
  unfold save
  simp [hchanged, hfolders, hrefusal, hwrite]

end Store

/-! ## Calls -/

/-- A call on a store. -/
inductive Call
  | check (name : Text) (lines : List Text)
  | save

/-- The name that a call checks lines under. -/
def Call.name? : Call → Option Text
  | .check name _ => some name
  | .save => none

/-- The lines that a call checks under a name. -/
def Call.linesOf? (name : Text) : Call → Option (List Text)
  | .check n lines => if n = name then some lines else none
  | .save => none

/-- The names that are checked, in order. -/
def checkedNames (calls : List Call) : List Text := calls.filterMap Call.name?

/-- The lines that were last checked under a name. -/
def lastLines (name : Text) (calls : List Call) : Option (List Text) :=
  (calls.filterMap (Call.linesOf? name)).getLast?

theorem eraseDups_snoc (ns : List Text) (n : Text) :
    (ns ++ [n]).eraseDups = if n ∈ ns then ns.eraseDups else ns.eraseDups ++ [n] := by
  rw [List.eraseDups_append, List.removeAll]
  by_cases hn : n ∈ ns
  · simp [hn]
  · simp [hn, List.eraseDups_cons]

/-- A store, and the disk that its file is on. -/
structure Desk where
  store : Store
  disk : Workspace

namespace Desk

variable {steps : Nat} {d : Desk} {name : Text} {lines : List Text} {calls : List Call}

/-- The desk after a call, which is made with so many steps under way. -/
def after (steps : Nat) (d : Desk) : Call → Desk
  | .check name lines => { d with store := d.store.after (name, lines) }
  | .save => ⟨(d.store.save d.disk steps).2.1, (d.store.save d.disk steps).2.2⟩

/-- The desk after calls. -/
def afterAll (steps : Nat) (d : Desk) (calls : List Call) : Desk := calls.foldl (after steps) d

theorem afterAll_snoc (d : Desk) (calls : List Call) (call : Call) :
    d.afterAll steps (calls ++ [call]) = (d.afterAll steps calls).after steps call := by
  unfold afterAll
  rw [List.foldl_append]
  rfl

theorem afterAll_append (d : Desk) (calls more : List Call) :
    d.afterAll steps (calls ++ more) = (d.afterAll steps calls).afterAll steps more :=
  List.foldl_append

/-! ## What is pending -/

/-- Saving now would write the file. -/
def Writes (steps : Nat) (d : Desk) : Prop := (d.store.save d.disk steps).1 = .ok true

/-- No saving among the calls writes the file. -/
def Unsaved (steps : Nat) (d : Desk) (calls : List Call) : Prop :=
  ∀ earlier later, calls = earlier ++ .save :: later → ¬ (d.afterAll steps earlier).Writes steps

/-- Checking the lines now would record them under the name, or replace what is there. -/
def Enters (d : Desk) (name : Text) (lines : List Text) : Prop :=
  (d.store.after (name, lines)).get? name ≠ d.store.get? name

/-- Some check recorded or replaced an entry, and no saving wrote the file since. -/
def Pending (steps : Nat) (d : Desk) (calls : List Call) : Prop :=
  ∃ before name lines between, calls = before ++ .check name lines :: between ∧
    (d.afterAll steps before).Enters name lines ∧
    ((d.afterAll steps before).after steps (.check name lines)).Unsaved steps between

/-- The file was last written by the saving that came after these calls. -/
def WrittenAfter (steps : Nat) (d : Desk) (before calls : List Call) : Prop :=
  ∃ between, calls = before ++ .save :: between ∧ (d.afterAll steps before).Writes steps ∧
    ((d.afterAll steps before).after steps .save).Unsaved steps between

/-- Calls before the last one, split at a call: that call is the last one, or it is before it. -/
theorem split_snoc {calls before between : List Call} {call last : Call} :
    calls ++ [last] = before ++ call :: between ↔
      (before = calls ∧ call = last ∧ between = []) ∨
      ∃ rest, between = rest ++ [last] ∧ calls = before ++ call :: rest := by
  constructor
  · intro heq
    rcases List.eq_nil_or_concat between with rfl | ⟨rest, other, rfl⟩
    · obtain ⟨rfl, hcall⟩ := List.append_inj' heq rfl
      cases hcall
      exact Or.inl ⟨rfl, rfl, rfl⟩
    · rw [List.concat_eq_append, ← List.cons_append, ← List.append_assoc] at heq
      obtain ⟨rfl, hcall⟩ := List.append_inj' heq rfl
      cases hcall
      exact Or.inr ⟨rest, List.concat_eq_append, rfl⟩
  · rintro (⟨rfl, rfl, rfl⟩ | ⟨rest, rfl, rfl⟩)
    · rfl
    · simp

theorem unsaved_nil (d : Desk) : d.Unsaved steps [] := by
  intro earlier later heq
  simp at heq

theorem unsaved_snoc (d : Desk) (calls : List Call) (call : Call) :
    d.Unsaved steps (calls ++ [call]) ↔
      d.Unsaved steps calls ∧ (call = .save → ¬ (d.afterAll steps calls).Writes steps) := by
  constructor
  · intro h
    constructor
    · rintro earlier later rfl
      exact h earlier (later ++ [call]) (by simp)
    · rintro rfl
      exact h calls [] rfl
  · rintro ⟨h, hlast⟩ earlier later heq
    rcases split_snoc.mp heq with ⟨rfl, rfl, -⟩ | ⟨rest, -, hcalls⟩
    · exact hlast rfl
    · exact h earlier rest hcalls

theorem not_pending_nil (d : Desk) : ¬ d.Pending steps [] := by
  rintro ⟨before, name, lines, between, heq, -, -⟩
  simp at heq

/-- What is pending after one more call: that call entered its lines, or something was pending
before and the call did not write it. -/
theorem pending_snoc (d : Desk) (calls : List Call) (call : Call) :
    d.Pending steps (calls ++ [call]) ↔
      (∃ name lines, call = .check name lines ∧ (d.afterAll steps calls).Enters name lines) ∨
      (d.Pending steps calls ∧ (call = .save → ¬ (d.afterAll steps calls).Writes steps)) := by
  constructor
  · rintro ⟨before, name, lines, between, heq, henters, hunsaved⟩
    rcases split_snoc.mp heq with ⟨rfl, rfl, -⟩ | ⟨rest, rfl, rfl⟩
    · exact Or.inl ⟨name, lines, rfl, henters⟩
    · obtain ⟨hrest, hlast⟩ := (unsaved_snoc _ rest call).mp hunsaved
      refine Or.inr ⟨⟨before, name, lines, rest, rfl, henters, hrest⟩, ?_⟩
      rwa [afterAll_append]
  · rintro (⟨name, lines, rfl, henters⟩ | ⟨⟨before, name, lines, rest, rfl, henters, hrest⟩, hlast⟩)
    · exact ⟨calls, name, lines, [], rfl, henters, unsaved_nil _⟩
    · refine ⟨before, name, lines, rest ++ [call], by simp, henters, ?_⟩
      rw [afterAll_append] at hlast
      exact (unsaved_snoc _ rest call).mpr ⟨hrest, hlast⟩

theorem writtenAfter_snoc {before calls : List Call} {call : Call}
    (h : d.WrittenAfter steps before calls)
    (hlast : call = .save → ¬ (d.afterAll steps calls).Writes steps) :
    d.WrittenAfter steps before (calls ++ [call]) := by
  obtain ⟨rest, rfl, hwrites, hrest⟩ := h
  refine ⟨rest ++ [call], by simp, hwrites, ?_⟩
  rw [afterAll_append] at hlast
  exact (unsaved_snoc _ rest call).mpr ⟨hrest, hlast⟩

/-! ## The run -/

/-- What is accepted, and the disk, are those that were opened if no saving wrote the file, and
else those of the saving that wrote it last. -/
def IsFiled (steps : Nat) (d : Desk) (calls : List Call) : Prop :=
  (d.Unsaved steps calls ∧ (d.afterAll steps calls).store.accepted = d.store.accepted ∧
    (d.afterAll steps calls).disk = d.disk) ∨
  ∃ before, d.WrittenAfter steps before calls ∧
    (d.afterAll steps calls).store.accepted = (d.afterAll steps before).store.accepted ∧
    (d.afterAll steps calls).disk = ((d.afterAll steps before).after steps .save).disk ∧
    ∃ v : Workspace,
      (d.afterAll steps before).disk.ensureFolders d.store.path.parent = .ok v ∧
      v.write d.store.path.text (Text.utf8 (d.afterAll steps calls).store.text) =
        .ok (d.afterAll steps calls).disk

/-- A call that changes nothing leaves the file as it is. -/
theorem IsFiled.snoc {call : Call} (h : d.IsFiled steps calls)
    (hlast : call = .save → ¬ (d.afterAll steps calls).Writes steps)
    (hsame : (d.afterAll steps calls).after steps call = d.afterAll steps calls) :
    d.IsFiled steps (calls ++ [call]) := by
  unfold IsFiled
  rw [afterAll_snoc, hsame]
  rcases h with ⟨hunsaved, hopened⟩ | ⟨before, hwritten, hkept⟩
  · exact Or.inl ⟨(unsaved_snoc d calls call).mpr ⟨hunsaved, hlast⟩, hopened⟩
  · exact Or.inr ⟨before, writtenAfter_snoc hwritten hlast, hkept⟩

/-- What every call keeps, for a desk that was opened. -/
structure Follows (steps : Nat) (d : Desk) (calls : List Call) : Prop where
  lined : (d.afterAll steps calls).store.IsLined
  path : (d.afterAll steps calls).store.path = d.store.path
  updating : (d.afterAll steps calls).store.updating = d.store.updating
  changed : (d.afterAll steps calls).store.changed = true ↔ d.Pending steps calls
  filed : ¬ d.Pending steps calls → d.IsFiled steps calls

theorem follows_nil (hlined : d.store.IsLined) (hchanged : d.store.changed = false) :
    d.Follows steps [] where
  lined := hlined
  path := rfl
  updating := rfl
  changed := iff_of_false (by rw [afterAll, List.foldl_nil, hchanged]; exact Bool.false_ne_true)
    d.not_pending_nil
  filed _ := Or.inl ⟨d.unsaved_nil, rfl, rfl⟩

/-- A call that changes nothing, and writes nothing, leaves pending what is pending. -/
theorem Follows.snoc_same {call : Call} (h : d.Follows steps calls)
    (hsame : (d.afterAll steps calls).after steps call = d.afterAll steps calls)
    (hlast : call = .save → ¬ (d.afterAll steps calls).Writes steps) :
    d.Follows steps (calls ++ [call]) := by
  have hpending : d.Pending steps (calls ++ [call]) ↔ d.Pending steps calls := by
    rw [pending_snoc]
    constructor
    · rintro (⟨n, ls, rfl, henters⟩ | ⟨hbefore, -⟩)
      · exact absurd (congrArg (fun e : Desk => e.store.get? n) hsame) henters
      · exact hbefore
    · intro hbefore
      exact Or.inr ⟨hbefore, hlast⟩
  have hdesk : d.afterAll steps (calls ++ [call]) = d.afterAll steps calls := by
    rw [afterAll_snoc, hsame]
  refine ⟨?_, ?_, ?_, ?_, ?_⟩
  · rw [hdesk]
    exact h.lined
  · rw [hdesk]
    exact h.path
  · rw [hdesk]
    exact h.updating
  · rw [hdesk, hpending]
    exact h.changed
  · intro hnot
    exact (h.filed (mt hpending.mpr hnot)).snoc hlast hsame

/-- A check enters its lines exactly if it accepts them. -/
theorem Follows.snoc_check (h : d.Follows steps calls) (name : Text) (lines : List Text) :
    d.Follows steps (calls ++ [.check name lines]) := by
  rcases h.lined.after_cases name lines with ⟨hsame, -, -⟩ | ⟨haccept, hne, -⟩
  · -- the store is left, so nothing is entered
    refine h.snoc_same ?_ nofun
    show Desk.mk _ _ = _
    rw [hsame]
  · have henters : (d.afterAll steps calls).Enters name lines := by
      unfold Enters
      rw [haccept, Store.get?_accept, if_pos rfl]
      exact hne.symm
    have hnow : d.Pending steps (calls ++ [.check name lines]) :=
      (pending_snoc d calls _).mpr (Or.inl ⟨name, lines, rfl, henters⟩)
    have hstore : (d.afterAll steps (calls ++ [.check name lines])).store =
        (d.afterAll steps calls).store.accept name lines := by
      rw [afterAll_snoc]
      exact haccept
    refine ⟨?_, ?_, ?_, ?_, fun hnot => absurd hnow hnot⟩
    · rw [hstore]
      exact h.lined.accept name lines
    · rw [hstore]
      exact h.path
    · rw [hstore]
      exact h.updating
    · rw [hstore]
      exact iff_of_true rfl hnow

theorem Follows.snoc_save (h : d.Follows steps calls) : d.Follows steps (calls ++ [.save]) := by
  have hpending : d.Pending steps (calls ++ [.save]) ↔
      d.Pending steps calls ∧ ¬ (d.afterAll steps calls).Writes steps := by
    rw [pending_snoc]
    simp
  rcases (d.afterAll steps calls).store.save_cases (d.afterAll steps calls).disk steps with
    ⟨-, hsave⟩ | ⟨hdirty, v, w', hfolders, hwrite, hsave⟩ | ⟨hdirty, fault, w', hsave⟩
  · refine h.snoc_same ?_ fun _ => ?_
    · show Desk.mk _ _ = _
      rw [hsave]
    · unfold Writes
      rw [hsave]
      simp
  · -- the file is written, and with it all that is accepted
    have hwrites : (d.afterAll steps calls).Writes steps := by
      unfold Writes
      rw [hsave]
    have hdesk : (d.afterAll steps calls).after steps .save =
        ⟨{ (d.afterAll steps calls).store with changed := false }, w'⟩ := by
      show Desk.mk _ _ = _
      rw [hsave]
    have hwritten : d.WrittenAfter steps calls (calls ++ [.save]) :=
      ⟨[], rfl, hwrites, unsaved_nil _⟩
    refine ⟨?_, ?_, ?_, ?_, fun _ => Or.inr ⟨calls, hwritten, ?_, ?_, v, ?_, ?_⟩⟩
    · rw [afterAll_snoc, hdesk]
      exact h.lined
    · rw [afterAll_snoc, hdesk]
      exact h.path
    · rw [afterAll_snoc, hdesk]
      exact h.updating
    · rw [afterAll_snoc, hdesk, hpending]
      exact iff_of_false Bool.false_ne_true fun hnow => hnow.2 hwrites
    · rw [afterAll_snoc, hdesk]
    · rw [afterAll_snoc]
    · rw [← h.path]
      exact hfolders
    · rw [afterAll_snoc, hdesk, ← h.path]
      exact hwrite
  · have hnow : d.Pending steps (calls ++ [.save]) := by
      refine hpending.mpr ⟨h.changed.mp hdirty, ?_⟩
      unfold Writes
      rw [hsave]
      simp
    have hstore : (d.afterAll steps (calls ++ [.save])).store = (d.afterAll steps calls).store := by
      rw [afterAll_snoc]
      show (Store.save _ _ _).2.1 = _
      rw [hsave]
    refine ⟨?_, ?_, ?_, ?_, fun hnot => absurd hnow hnot⟩
    · rw [hstore]
      exact h.lined
    · rw [hstore]
      exact h.path
    · rw [hstore]
      exact h.updating
    · rw [hstore]
      exact iff_of_true hdirty hnow

theorem follows (hlined : d.store.IsLined) (hchanged : d.store.changed = false)
    (calls : List Call) : d.Follows steps calls := by
  induction calls using List.reverseRecOn with
  | nil => exact follows_nil hlined hchanged
  | append_singleton calls call ih =>
      cases call with
      | check name lines => exact ih.snoc_check name lines
      | save => exact ih.snoc_save

/-! ## What is accepted in the course of it -/

theorem lined_after (h : d.store.IsLined) (call : Call) : (d.after steps call).store.IsLined := by
  cases call with
  | check name lines => exact h.after (name, lines)
  | save =>
      show (Store.save _ _ _).2.1.IsLined
      rcases d.store.save_store_cases d.disk steps with hstore | hstore
      · rwa [hstore]
      · rw [hstore]
        exact h

/-- Saving leaves what is accepted and whether the store is updating. -/
theorem after_save (d : Desk) :
    (d.after steps .save).store.accepted = d.store.accepted ∧
      (d.after steps .save).store.updating = d.store.updating := by
  show (Store.save _ _ _).2.1.accepted = _ ∧ (Store.save _ _ _).2.1.updating = _
  rcases d.store.save_store_cases d.disk steps with hstore | hstore
  · rw [hstore]
    exact ⟨rfl, rfl⟩
  · rw [hstore]
    exact ⟨rfl, rfl⟩

theorem get?_after_save (d : Desk) (name : Text) :
    (d.after steps .save).store.get? name = d.store.get? name := by
  unfold Store.get?
  rw [d.after_save.1]

/-- **Without updating, the lines of a name stay** through any calls. -/
theorem get?_afterAll_kept (h : d.store.IsLined) (hfixed : d.store.updating = false)
    {vs : List Value} (hvs : d.store.get? name = some vs) (calls : List Call) :
    (d.afterAll steps calls).store.get? name = some vs := by
  induction calls generalizing d with
  | nil => exact hvs
  | cons call calls ih =>
      refine ih (lined_after h call) ?_ ?_
      · cases call with
        | check n lines => exact (d.store.after_updating (n, lines)).trans hfixed
        | save => exact d.after_save.2.trans hfixed
      · cases call with
        | check n lines => exact h.get?_after_kept hfixed hvs (n, lines)
        | save => exact (d.get?_after_save name).trans hvs

/-- **With updating, a name has the lines of its last check**, or those that were opened. -/
theorem get?_afterAll_last (h : d.store.IsLined) (hchanged : d.store.changed = false)
    (hupdating : d.store.updating = true) (name : Text) (calls : List Call) :
    (d.afterAll steps calls).store.get? name =
      ((lastLines name calls).map (List.map Value.text)).or (d.store.get? name) := by
  induction calls using List.reverseRecOn with
  | nil => rfl
  | append_singleton calls call ih =>
      have hfollows : d.Follows steps calls := follows h hchanged calls
      unfold lastLines at ih ⊢
      rw [afterAll_snoc, List.filterMap_append, List.getLast?_append]
      cases call with
      | save =>
          rw [get?_after_save, ih]
          rfl
      | check n lines =>
          have hget : ((d.afterAll steps calls).store.after (n, lines)).get? name = _ :=
            hfollows.lined.get?_after (Or.inr (hfollows.updating.trans hupdating)) name
          show (Store.after _ _).get? name = _
          rw [hget, ih]
          by_cases hn : n = name
          · rw [if_pos hn.symm]
            simp [Call.linesOf?, hn]
          · rw [if_neg (Ne.symm hn)]
            simp [Call.linesOf?, hn]

/-- **Names stay, and come in the order of their first checks.** -/
theorem names_afterAll (h : d.store.IsLined) (hchanged : d.store.changed = false)
    (calls : List Call) :
    (d.afterAll steps calls).store.names =
      d.store.names ++ ((checkedNames calls).filter (· ∉ d.store.names)).eraseDups := by
  induction calls using List.reverseRecOn with
  | nil => simp [afterAll, checkedNames]
  | append_singleton calls call ih =>
      have hfollows : d.Follows steps calls := follows h hchanged calls
      rw [afterAll_snoc]
      cases call with
      | save =>
          have hnames : checkedNames (calls ++ [.save]) = checkedNames calls := by
            simp [checkedNames, Call.name?]
          rw [hnames, ← ih]
          exact congrArg (List.map Prod.fst) (after_save _).1
      | check n lines =>
          have hnames : checkedNames (calls ++ [.check n lines]) = checkedNames calls ++ [n] := by
            simp [checkedNames, Call.name?]
          show (Store.after _ _).names = _
          rw [hfollows.lined.names_after n lines, ih, hnames, List.filter_append]
          by_cases hopened : n ∈ d.store.names
          · simp [hopened]
          · have hnew : [n].filter (· ∉ d.store.names) = [n] := by simp [hopened]
            rw [hnew, eraseDups_snoc]
            by_cases hseen : n ∈ checkedNames calls
            · simp [hopened, hseen]
            · simp [hopened, hseen]

variable {s₀ : Store} {w : Workspace} {path : Path} {updating : Bool}

end Desk

end Casebook.Snapshot

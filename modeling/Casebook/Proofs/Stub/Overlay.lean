import Casebook.Proofs.Stub.Answers
import Casebook.Proofs.Stub.Family
import Casebook.Proofs.Stub.Names

/-!
# A fork lies over its provider

A fork starts from a copy of the index and of the known texts, at a moment when any of the files
may have been read already. What there is to be had for a name is `held?`, its known text or else
what the disk has for it; loads do not change that, and a file put in by hand changes it for one
name only. So the fork holds what its provider holds, with the files that were put into the fork on
top (`Overlays`). Main statement (`overlays_run`): this stays so under any calls on the fork, and
under any calls on the provider that put nothing in.
-/

namespace Casebook.Stub

open Disk

/-! ## What a provider holds -/

namespace Provider

variable {w : Workspace} {p q : Provider} {added : List (Text × Text)}

/-- What is to be had for a name: its known text, or else what the disk has in the folder where
the index places it. -/
def held? (w : Workspace) (p : Provider) (name : Text) : Option (Outcome Text) :=
  match p.contents.text? name with
  | some text => some (.ok text)
  | none =>
    match p.index.origin? name with
    | some (.folder folder) => some (Contents.readFile w (folder.below name))
    | _ => none

theorem held?_of_known {name text : Text} (h : p.contents.text? name = some text) :
    held? w p name = some (.ok text) := by
  unfold held?
  rw [h]

theorem held?_of_folder {name : Text} {folder : Path} (h : p.contents.text? name = none)
    (horigin : p.index.origin? name = some (.folder folder)) :
    held? w p name = some (Contents.readFile w (folder.below name)) := by
  unfold held?
  rw [h, horigin]

/-- A load answers with what is to be had, or else that the name is unresolved. -/
theorem load_held (w : Workspace) (p : Provider) (name : Text) :
    (p.load w name).1 =
      (held? w p name).getD (.error (.unresolved (unplacedReport p.index name))) := by
  rw [load_answer]
  unfold held? found
  cases p.contents.text? name with
  | some text => rfl
  | none =>
      cases p.index.origin? name with
      | none => rfl
      | some origin => cases origin <;> rfl

/-- While the disk stays as it is, loads change nothing of what there is. -/
theorem held?_load (w : Workspace) (p : Provider) (name n : Text) :
    held? w (p.load w name).2 n = held? w p n := by
  have hloads := loads p w name
  generalize p.load w name = result at hloads ⊢
  cases hloads with
  | known => rfl
  | unread => rfl
  | unplaced => rfl
  | @read folder text hnone horigin hread =>
      by_cases hn : n = name
      · -- the text that is new is the one on disk
        rw [hn, held?_of_folder hnone horigin, hread]
        refine held?_of_known ?_
        rw [Contents.text?_put, if_pos rfl]
      · unfold held?
        dsimp only
        rw [Contents.text?_put, if_neg hn]
        rfl

/-- A file put in by hand hides what there was for its name, and nothing else. -/
theorem held?_put (w : Workspace) (p : Provider) (name text n : Text) :
    held? w (p.put name text) n = if n = name then some (.ok text) else held? w p n := by
  have htext : (p.put name text).contents.text? n = _ := Contents.text?_put p.contents name text n
  have horigin : (p.put name text).index.origin? n = _ := Index.origin?_register p.index name n
  by_cases hn : n = name
  · rw [if_pos hn]
    rw [if_pos hn] at htext
    exact held?_of_known htext
  · rw [if_neg hn] at htext horigin
    unfold held?
    rw [htext, horigin, if_neg hn]

/-- Where index and texts belong together, something is to be had for the loadable names. -/
theorem held?_eq_none_iff (h : Coherent p added) (w : Workspace) (name : Text) :
    held? w p name = none ↔ p.isLoadable name = false := by
  rw [← unresolved_iff h w name, load_held]
  cases hheld : held? w p name with
  | none => exact iff_of_true rfl ⟨_, rfl⟩
  | some outcome =>
      refine iff_of_false (fun hnone => nomatch hnone) ?_
      rintro ⟨report, hreport⟩
      rw [Option.getD_some] at hreport
      unfold held? at hheld
      split at hheld
      · cases hheld
        cases hreport
      · split at hheld
        · cases hheld
          rcases Contents.readFile_error hreport with ⟨f, -, hf⟩ | ⟨f, hf⟩ <;> cases hf
        · cases hheld

/-! ## Calls -/

theorem isLoadable_put {p : Provider} {name text n : Text} :
    (p.put name text).isLoadable n = true ↔ n = name ∨ p.isLoadable n = true := by
  show (p.index.register name).has n = true ↔ _ ∨ p.index.has n = true
  rw [Index.has_iff, Index.has_iff, Index.origin?_register]
  by_cases hn : n = name <;> simp [hn]

/-- What is held under a provider, with the files that were put in on top of it, is what is held
by the other one. -/
structure Overlays (w : Workspace) (added : List (Text × Text)) (p q : Provider) : Prop where
  held : ∀ name, held? w q name = ((lastText added name).map Except.ok).or (held? w p name)
  isLoadable : ∀ name, q.isLoadable name = true ↔
    p.isLoadable name = true ∨ name ∈ added.map Prod.fst

theorem overlays_fork (w : Workspace) (p : Provider) : Overlays w [] p p.fork :=
  ⟨fun _ => rfl, fun name => by
    rw [List.map_nil]
    exact (or_iff_left List.not_mem_nil).symm⟩

/-- Calls that put nothing in leave a provider under those that lie over it. -/
theorem Overlays.below (h : Overlays w added p q) {call : Call} (hcall : call.added? = none) :
    Overlays w added (p.kept w call) q := by
  rcases kept_cases p w call with ⟨name, text, hadded, -⟩ | ⟨-, ⟨name, hkept⟩ | hkept⟩
  · cases hcall.symm.trans hadded
  · rw [hkept]
    exact ⟨fun n => by rw [held?_load]; exact h.held n, h.isLoadable⟩
  · rw [hkept]
    exact h

/-- A file put into what lies over a provider comes on top. -/
theorem Overlays.put (h : Overlays w added p q) (name text : Text) :
    Overlays w (added ++ [(name, text)]) p (q.put name text) := by
  constructor
  · intro n
    rw [held?_put, lastText_concat]
    by_cases hn : n = name
    · rw [if_pos hn, if_pos hn]
      rfl
    · rw [if_neg hn, if_neg hn]
      exact h.held n
  · intro n
    rw [isLoadable_put, h.isLoadable, List.map_append, List.mem_append, List.map_singleton,
      List.mem_singleton, or_left_comm, or_comm (a := n = name)]

theorem Overlays.above (h : Overlays w added p q) (call : Call) :
    Overlays w (added ++ call.added?.toList) p (q.kept w call) := by
  rcases kept_cases q w call with ⟨name, text, hadded, hkept⟩ | ⟨hadded, ⟨name, hkept⟩ | hkept⟩
  · rw [hadded, hkept]
    exact h.put name text
  · rw [hadded, hkept, Option.toList_none, List.append_nil]
    exact ⟨fun n => by rw [held?_load]; exact h.held n, h.isLoadable⟩
  · rw [hadded, hkept, Option.toList_none, List.append_nil]
    exact h

end Provider

/-! ## Runs -/

namespace Family

open Provider

variable {w : Workspace} {ps : Family} {p q : Provider} {i j : Nat} {added : List (Text × Text)}

/-- The files that events put in at a place, in order. -/
def addedAt (i : Nat) (es : List Event) : List (Text × Text) :=
  es.flatMap fun e => if e.place = i then e.call.added?.toList else []

/-- What the calls on the provider at a place leave of it. -/
def keptAt (i : Nat) (p : Provider) (es : List Event) : Provider :=
  es.foldl (fun p e => if e.place = i then p.kept e.disk e.call else p) p

theorem keptAt_cons (i : Nat) (p : Provider) (e : Event) (es : List Event) :
    keptAt i p (e :: es) = keptAt i (if e.place = i then p.kept e.disk e.call else p) es := rfl

theorem getElem?_run (h : ps[i]? = some p) (es : List Event) :
    (run ps es)[i]? = some (keptAt i p es) := by
  induction es generalizing ps p with
  | nil => exact h
  | cons e es ih => exact ih (step_kept h e)

/-- **A provider is what the calls on it make of it**, whatever is called on others. -/
theorem getElem?_run_alone (h : ps[i]? = some p) (es : List Event) :
    (run ps (es.filter (·.place == i)))[i]? = (run ps es)[i]? := by
  have hkept : keptAt i p (es.filter (·.place == i)) = keptAt i p es := by
    unfold keptAt
    rw [List.foldl_filter]
    simp only [beq_iff_eq]
    congr
    funext p e
    split <;> rfl
  rw [getElem?_run h, getElem?_run h, hkept]

/-- One call: on the fork, on the provider that it lies over, or on another one. -/
theorem overlays_step {e : Event} (hne : i ≠ j) (hdisk : e.disk = w)
    (hbelow : e.place = i → e.call.added? = none) (h : Overlays w added p q) :
    Overlays w (added ++ addedAt j [e]) (if e.place = i then p.kept e.disk e.call else p)
      (if e.place = j then q.kept e.disk e.call else q) := by
  have hadded : addedAt j [e] = if e.place = j then e.call.added?.toList else [] :=
    List.flatMap_singleton _ _
  rw [hadded, hdisk]
  by_cases hi : e.place = i
  · have hj : e.place ≠ j := fun heq => hne (hi.symm.trans heq)
    rw [if_pos hi, if_neg hj, if_neg hj, List.append_nil]
    exact h.below (hbelow hi)
  · rw [if_neg hi]
    by_cases hj : e.place = j
    · rw [if_pos hj, if_pos hj]
      exact h.above e.call
    · rw [if_neg hj, if_neg hj, List.append_nil]
      exact h

/-- **What lies over a provider goes on to do so**, whatever is called on it, as long as the disk
stays as it is and nothing is put into the provider below. -/
theorem overlays_run {es : List Event} (hne : i ≠ j) (hdisk : ∀ e ∈ es, e.disk = w)
    (hbelow : ∀ e ∈ es, e.place = i → e.call.added? = none) (h : Overlays w added p q) :
    Overlays w (added ++ addedAt j es) (keptAt i p es) (keptAt j q es) := by
  induction es generalizing p q added with
  | nil =>
      rw [show addedAt j [] = [] from rfl, List.append_nil]
      exact h
  | cons e es ih =>
      obtain ⟨hdisk, hdisks⟩ := List.forall_mem_cons.mp hdisk
      obtain ⟨hbelow, hbelows⟩ := List.forall_mem_cons.mp hbelow
      have hadded : addedAt j (e :: es) = addedAt j [e] ++ addedAt j es := by
        rw [← List.singleton_append]
        exact List.flatMap_append
      rw [hadded, ← List.append_assoc]
      exact ih hdisks hbelows (overlays_step hne hdisk hbelow h)

/-- What each call keeps is kept by all of them. -/
theorem keptAt_keeps {P : Provider → Prop} (hkept : ∀ p w call, P p → P (p.kept w call)) (hp : P p)
    (i : Nat) (es : List Event) : P (keptAt i p es) := by
  induction es generalizing p with
  | nil => exact hp
  | cons e es ih =>
      by_cases hi : e.place = i
      · rw [keptAt_cons, if_pos hi]
        exact ih (hkept p e.disk e.call hp)
      · rw [keptAt_cons, if_neg hi]
        exact ih hp

theorem isDistinct_keptAt (h : p.index.IsDistinct) (i : Nat) (es : List Event) :
    (keptAt i p es).index.IsDistinct := by
  refine keptAt_keeps (P := fun p => p.index.IsDistinct) (fun p w call h => ?_) h i es
  rcases kept_cases p w call with ⟨name, text, -, hkept⟩ | ⟨-, ⟨name, hkept⟩ | hkept⟩
  · rw [hkept]
    exact Index.isDistinct_insert h name .synthetic
  · rw [hkept]
    exact h
  · rw [hkept]
    exact h

theorem coherent_keptAt (h : Coherent p added) (i : Nat) (es : List Event) :
    ∃ added, Coherent (keptAt i p es) added :=
  keptAt_keeps (P := fun p => ∃ added, Coherent p added)
    (fun _ w call ⟨_, hadded⟩ => coherent_kept hadded w call) ⟨added, h⟩ i es

end Family

end Casebook.Stub

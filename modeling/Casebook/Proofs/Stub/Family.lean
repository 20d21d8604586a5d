import Casebook.Proofs.Stub.History

/-!
# Providers and their forks, side by side

A provider and its forks, and the forks of those, live on next to each other, and calls on them come
in any order while the disk changes between the calls. Main statement (`read_once`): a text that a
load has returned is what the provider and every fork that comes from it return from then on, on any
disk and without reading it, until a file is put in under that name; no provider reads a name with
success more than once; and a name that was put in by hand is never read.
-/

namespace Casebook.Stub

open Disk

/-! ## Known texts -/

namespace Provider

variable {p : Provider} {name t : Text}

/-- What is known is returned on any disk, and nothing is read. -/
theorem load_of_known (h : p.contents.text? name = some t) (w : Workspace) :
    p.load w name = (.ok t, p) := by
  unfold load Contents.get
  rw [h]

/-- What was returned is known. -/
theorem known_of_load {w : Workspace} (h : (p.load w name).1 = .ok t) :
    (p.load w name).2.contents.text? name = some t := by
  rw [load_text?, h]
  exact if_pos rfl

/-- What becomes of a provider that a call is made on; a fork leaves it as it is. -/
def kept (p : Provider) (w : Workspace) : Call → Provider
  | .fork => p
  | call => (p.step w call).2

/-- The provider that a call makes. -/
def child? (p : Provider) : Call → Option Provider
  | .fork => some p.fork
  | _ => none

/-- The provider that is left of a call is one with a file put in, or one that was loaded from, or
the same. -/
theorem kept_cases (p : Provider) (w : Workspace) (call : Call) :
    (∃ name text, call.added? = some (name, text) ∧ p.kept w call = p.put name text) ∨
      call.added? = none ∧ ((∃ name, p.kept w call = (p.load w name).2) ∨ p.kept w call = p) := by
  cases call with
  | add name contents =>
      show _ ∨ _ ∧ (_ ∨ (p.step w (.add name contents)).2 = p)
      rcases addValue_cases p name contents with ⟨n, t, hadded, hq⟩ | ⟨hadded, fault, hq⟩
      · refine Or.inl ⟨n, t, hadded, ?_⟩
        show (p.step w (.add name contents)).2 = _
        rw [step, hq]
      · refine Or.inr ⟨hadded, Or.inr ?_⟩
        rw [step, hq]
  | load name => exact Or.inr ⟨rfl, Or.inl ⟨name, rfl⟩⟩
  | isLoadable name => exact Or.inr ⟨rfl, Or.inr rfl⟩
  | names => exact Or.inr ⟨rfl, Or.inr rfl⟩
  | fork => exact Or.inr ⟨rfl, Or.inr rfl⟩

/-- A known text stays known, unless another is put in under its name. -/
theorem known_kept (h : p.contents.text? name = some t) (w : Workspace) {call : Call}
    (hadd : ∀ text, call.added? ≠ some (name, text)) :
    (p.kept w call).contents.text? name = some t := by
  rcases kept_cases p w call with ⟨n, text, hadded, hkept⟩ | ⟨-, ⟨n, hkept⟩ | hkept⟩
  · rw [hkept]
    show (p.contents.put n text).text? name = some t
    have hne : name ≠ n := by
      rintro rfl
      exact hadd text hadded
    rw [Contents.text?_put, if_neg hne]
    exact h
  · rw [hkept]
    by_cases hn : name = n
    · rw [← hn, load_of_known h]
      exact h
    · rw [load_text?]
      split
      · rw [if_neg hn]
        exact h
      · exact h
  · rw [hkept]
    exact h

/-- Whatever is called, a name that has a text goes on to have one. -/
theorem has_kept (h : p.contents.has name = true) (w : Workspace) (call : Call) :
    (p.kept w call).contents.has name = true := by
  obtain ⟨t, ht⟩ := Contents.has_iff.mp h
  rw [Contents.has_iff]
  by_cases hadd : ∃ text, call.added? = some (name, text)
  · obtain ⟨text, hadd⟩ := hadd
    rcases kept_cases p w call with ⟨n, text', hadded, hkept⟩ | ⟨hadded, -⟩
    · cases hadd.symm.trans hadded
      refine ⟨text, ?_⟩
      rw [hkept]
      show (p.contents.put name text).text? name = some text
      rw [Contents.text?_put, if_pos rfl]
    · cases hadd.symm.trans hadded
  · exact ⟨t, known_kept ht w fun text heq => hadd ⟨text, heq⟩⟩

/-- A name that was put in by hand stays one. -/
theorem synthetic_kept (h : p.index.origin? name = some .synthetic) (w : Workspace) (call : Call) :
    (p.kept w call).index.origin? name = some .synthetic := by
  rcases kept_cases p w call with ⟨n, text, -, hkept⟩ | ⟨-, ⟨n, hkept⟩ | hkept⟩
  · rw [hkept]
    show (p.index.register n).origin? name = some .synthetic
    rw [Index.origin?_register, h, ite_self]
  · rw [hkept]
    exact h
  · rw [hkept]
    exact h

theorem coherent_kept {added : List (Text × Text)} (h : Coherent p added) (w : Workspace)
    (call : Call) : ∃ added, Coherent (p.kept w call) added := by
  cases call with
  | fork => exact ⟨added, h⟩
  | add n contents => exact ⟨_, coherent_step h w (.add n contents)⟩
  | load n => exact ⟨_, coherent_step h w (.load n)⟩
  | isLoadable n => exact ⟨_, coherent_step h w (.isLoadable n)⟩
  | names => exact ⟨_, coherent_step h w .names⟩

/-- The text of a name that was put in by hand is known. -/
theorem Coherent.known_of_synthetic {added : List (Text × Text)} (h : Coherent p added)
    (hname : p.index.origin? name = some .synthetic) : ∃ t, p.contents.text? name = some t := by
  obtain ⟨t, ht⟩ := (h.synthetic name).mp hname
  exact ⟨t, h.text name t ht⟩

end Provider

/-! ## Families -/

open Provider (Call Coherent)

/-- A call on one of several providers, with the disk as it is at that moment. -/
structure Event where
  disk : Workspace
  place : Nat
  call : Call

/-- Providers in the order in which they were made. -/
abbrev Family := List Provider

namespace Family

/-- The providers after a call on one of them. A fork joins them at the end. -/
def step (ps : Family) (e : Event) : Family :=
  match ps[e.place]? with
  | none => ps
  | some p => ps.set e.place (p.kept e.disk e.call) ++ (p.child? e.call).toList

def run (ps : Family) (es : List Event) : Family := es.foldl step ps

variable {ps : Family} {e : Event} {es : List Event} {p q : Provider} {i j : Nat} {name t : Text}

@[simp] theorem run_nil (ps : Family) : run ps [] = ps := rfl

@[simp] theorem run_cons (ps : Family) (e : Event) (es : List Event) :
    run ps (e :: es) = run (step ps e) es := rfl

theorem run_append (ps : Family) (es fs : List Event) : run ps (es ++ fs) = run (run ps es) fs :=
  List.foldl_append

/-- A call changes the provider that it is made on, and no other. -/
theorem step_kept (h : ps[j]? = some p) (e : Event) :
    (step ps e)[j]? = some (if e.place = j then p.kept e.disk e.call else p) := by
  obtain ⟨hj, -⟩ := List.getElem?_eq_some_iff.mp h
  unfold step
  cases hplace : ps[e.place]? with
  | none =>
      have hne : e.place ≠ j := by
        rintro rfl
        cases hplace.symm.trans h
      rw [if_neg hne]
      exact h
  | some o =>
      dsimp only
      rw [List.getElem?_append_left (by simpa using hj)]
      split
      · next heq =>
        subst heq
        cases hplace.symm.trans h
        rw [List.getElem?_set_self hj]
      · next hne => rw [List.getElem?_set_ne hne, h]

/-- A fork is the newest of the providers. -/
theorem step_fork (h : ps[e.place]? = some p) (hfork : e.call = .fork) :
    (step ps e)[ps.length]? = some p.fork := by
  unfold step
  rw [h, hfork]
  dsimp only
  rw [List.getElem?_append_right (by simp), List.length_set, Nat.sub_self]
  rfl

/-- Each provider after a call was there before, or is the fork that was made. -/
theorem step_cases (h : (step ps e)[j]? = some q) :
    (∃ p, ps[j]? = some p ∧ q = if e.place = j then p.kept e.disk e.call else p) ∨
      j = ps.length ∧ ∃ p, ps[e.place]? = some p ∧ q = p.fork := by
  by_cases hj : j < ps.length
  · have hget : ps[j]? = some ps[j] := List.getElem?_eq_getElem hj
    exact Or.inl ⟨ps[j], hget, Option.some.inj (h.symm.trans (step_kept hget e))⟩
  · -- a place that was not there is the one of the fork
    refine Or.inr ?_
    unfold step at h
    cases hplace : ps[e.place]? with
    | none =>
        rw [hplace] at h
        exact absurd (List.getElem?_eq_some_iff.mp h).1 hj
    | some o =>
        rw [hplace] at h
        dsimp only at h
        rw [List.getElem?_append_right (by simpa using hj), List.length_set] at h
        cases hcall : e.call with
        | fork =>
            rw [hcall] at h
            obtain ⟨hlt, hfork⟩ := List.getElem?_eq_some_iff.mp h
            rw [show (o.child? .fork).toList = [o.fork] from rfl, List.length_singleton] at hlt
            refine ⟨by omega, o, rfl, ?_⟩
            rw [← hfork]
            exact List.getElem_singleton hlt
        | add _ _ | load _ | isLoadable _ | names =>
            rw [hcall] at h
            cases h

/-! ## What is kept -/

/-- What each call keeps, a run keeps. -/
theorem run_keeps {P : Provider → Prop} (hkept : ∀ p w call, P p → P (p.kept w call))
    (h : ps[j]? = some p) (hp : P p) (es : List Event) : ∃ q, (run ps es)[j]? = some q ∧ P q := by
  induction es generalizing ps p with
  | nil => exact ⟨p, h, hp⟩
  | cons e es ih =>
      refine ih (step_kept h e) ?_
      split
      · exact hkept p e.disk e.call hp
      · exact hp

/-- All providers that come from coherent ones are coherent. -/
theorem coherent_step (h : ∀ p ∈ ps, ∃ added, Coherent p added) (e : Event) :
    ∀ q ∈ step ps e, ∃ added, Coherent q added := by
  intro q hq
  obtain ⟨j, hj⟩ := List.mem_iff_getElem?.mp hq
  rcases step_cases hj with ⟨p, hp, rfl⟩ | ⟨-, p, hp, rfl⟩
  · obtain ⟨added, hadded⟩ := h p (List.mem_iff_getElem?.mpr ⟨j, hp⟩)
    split
    · exact Provider.coherent_kept hadded e.disk e.call
    · exact ⟨added, hadded⟩
  · obtain ⟨added, hadded⟩ := h p (List.mem_iff_getElem?.mpr ⟨e.place, hp⟩)
    exact ⟨added, hadded.synthetic, hadded.text, hadded.indexed⟩

theorem coherent_run (h : ∀ p ∈ ps, ∃ added, Coherent p added) (es : List Event) :
    ∀ q ∈ run ps es, ∃ added, Coherent q added := by
  induction es generalizing ps with
  | nil => exact h
  | cons e es ih => exact ih (coherent_step h e)

/-- After some events, the provider at a place is the one that there was at `i`, or comes from it
through forks, and no file was put in under the name on the way. -/
inductive Inherits (name : Text) (ps : Family) (i : Nat) : List Event → Nat → Prop
  | here : Inherits name ps i [] i
  | later {es : List Event} {j : Nat} {e : Event} : Inherits name ps i es j →
      (e.place = j → ∀ text, e.call.added? ≠ some (name, text)) → Inherits name ps i (es ++ [e]) j
  | forked {es : List Event} {j : Nat} {e : Event} : Inherits name ps i es j → e.place = j →
      e.call = .fork → Inherits name ps i (es ++ [e]) (run ps es).length

/-- Heirs know the text that was known. -/
theorem Inherits.known (h : Inherits name ps i es j) (hp : ps[i]? = some p)
    (hknown : p.contents.text? name = some t) :
    ∃ q, (run ps es)[j]? = some q ∧ q.contents.text? name = some t := by
  induction h with
  | here => exact ⟨p, hp, hknown⟩
  | @later es j e h hadd ih =>
      obtain ⟨q, hq, hknown⟩ := ih
      rw [run_append]
      refine ⟨_, step_kept hq e, ?_⟩
      split
      · next heq => exact Provider.known_kept hknown e.disk (hadd heq)
      · exact hknown
  | @forked es j e h hplace hfork ih =>
      obtain ⟨q, hq, hknown⟩ := ih
      rw [run_append]
      exact ⟨q.fork, step_fork (hplace ▸ hq) hfork, hknown⟩

/-! ## Reading -/

/-- The event is a load by which the provider at a place reads the file of a name and gets its
text. -/
def fetches (ps : Family) (i : Nat) (name : Text) (e : Event) : Bool :=
  match ps[i]?, e.call with
  | some p, .load n =>
    e.place == i && n == name && (p.load e.disk name).1.isOk &&
      (p.load e.disk name).2.contents.reads != p.contents.reads
  | _, _ => false

/-- How often the provider at a place reads the file of a name with success. -/
def fetchCount (i : Nat) (name : Text) : Family → List Event → Nat
  | _, [] => 0
  | ps, e :: es => (fetches ps i name e).toNat + fetchCount i name (step ps e) es

theorem fetches_eq_true (h : fetches ps i name e = true) : ∃ p, ps[i]? = some p ∧ e.place = i ∧
    e.call = .load name ∧ (∃ t, (p.load e.disk name).1 = .ok t) ∧
      (p.load e.disk name).2.contents.reads ≠ p.contents.reads := by
  unfold fetches at h
  split at h
  · next p n hp hcall =>
    simp only [Bool.and_eq_true, beq_iff_eq, bne_iff_ne] at h
    obtain ⟨⟨⟨hplace, rfl⟩, hok⟩, hreads⟩ := h
    refine ⟨p, hp, hplace, hcall, ?_, hreads⟩
    cases hload : (p.load e.disk n).1 with
    | ok t => exact ⟨t, rfl⟩
    | error fault =>
        rw [hload] at hok
        cases hok
  · cases h

/-- A known text is not fetched. -/
theorem fetches_of_known (hp : ps[i]? = some p) (h : p.contents.has name = true) (e : Event) :
    fetches ps i name e = false := by
  rw [Bool.eq_false_iff]
  intro hfetch
  obtain ⟨q, hq, -, -, -, hreads⟩ := fetches_eq_true hfetch
  cases hp.symm.trans hq
  obtain ⟨t, ht⟩ := Contents.has_iff.mp h
  rw [Provider.load_of_known ht] at hreads
  exact hreads rfl

theorem fetchCount_of_known (hp : ps[i]? = some p) (h : p.contents.has name = true)
    (es : List Event) : fetchCount i name ps es = 0 := by
  induction es generalizing ps p with
  | nil => rfl
  | cons e es ih =>
      rw [fetchCount, fetches_of_known hp h, Bool.toNat_false, Nat.zero_add]
      refine ih (step_kept hp e) ?_
      split
      · exact Provider.has_kept h e.disk e.call
      · exact h

/-- **A provider reads a name with success at most once.** -/
theorem fetchCount_le_one (i : Nat) (name : Text) (ps : Family) (es : List Event) :
    fetchCount i name ps es ≤ 1 := by
  induction es generalizing ps with
  | nil => exact Nat.zero_le 1
  | cons e es ih =>
      rw [fetchCount]
      cases hfetch : fetches ps i name e with
      | true =>
          -- from the first fetch on the text is known, and what is known is not fetched
          obtain ⟨p, hp, hplace, hcall, ⟨t, ht⟩, -⟩ := fetches_eq_true hfetch
          have hkept := step_kept hp e
          rw [if_pos hplace, hcall] at hkept
          have hknown : (p.kept e.disk (.load name)).contents.has name = true :=
            Contents.has_iff.mpr ⟨t, Provider.known_of_load ht⟩
          rw [fetchCount_of_known hkept hknown]
          exact Nat.le_refl 1
      | false =>
          rw [Bool.toNat_false, Nat.zero_add]
          exact ih (step ps e)

/-- **Read once, then stable.** Whatever is called on a new provider and on the forks that come from
it, in any order and with any changes on disk in between: a text that a load has returned is
returned from then on by the provider and by every fork that is made after that, on any disk and
without changing the count of reads, until a file is put in under the name on that provider; each
provider reads each name with success at most once; and a name that was put in by hand stays one and
is answered without the disk. -/
theorem read_once {w : Workspace} {suffix : Text} {folders : List Path} {files : List (Text × Text)}
    {p : Provider} (hp : Provider.ofFiles w suffix folders files = .ok p) :
    (∀ (before after : List Event) (e : Event) (q : Provider) (name t : Text) (j : Nat),
      (run [p] before)[e.place]? = some q → e.call = .load name →
        (q.load e.disk name).1 = .ok t → Inherits name (run [p] (before ++ [e])) e.place after j →
          ∃ r, (run [p] (before ++ e :: after))[j]? = some r ∧
            ∀ w', r.load w' name = (.ok t, r)) ∧
    (∀ (es : List Event) (i : Nat) (name : Text), fetchCount i name [p] es ≤ 1) ∧
    ∀ (before after : List Event) (q : Provider) (name : Text) (i : Nat),
      (run [p] before)[i]? = some q → q.index.origin? name = some .synthetic →
        ∃ r, (run [p] (before ++ after))[i]? = some r ∧ r.index.origin? name = some .synthetic ∧
          ∃ t, ∀ w', r.load w' name = (.ok t, r) := by
  refine ⟨?_, fun es i name => fetchCount_le_one i name [p] es, ?_⟩
  · intro before after e q name t j hq hcall hload hinherits
    have hafter : (run [p] (before ++ [e]))[e.place]? = some (q.load e.disk name).2 := by
      have hkept := step_kept hq e
      rw [if_pos rfl, hcall] at hkept
      rw [run_append]
      exact hkept
    obtain ⟨r, hr, hknown⟩ := hinherits.known hafter (Provider.known_of_load hload)
    rw [← run_append, List.append_assoc] at hr
    exact ⟨r, hr, Provider.load_of_known hknown⟩
  · intro before after q name i hq hsynthetic
    obtain ⟨r, hr, hsynthetic⟩ := run_keeps (P := fun p => p.index.origin? name = some .synthetic)
      (fun p w call h => Provider.synthetic_kept h w call) hq hsynthetic after
    rw [← run_append] at hr
    have hmembers : ∀ q ∈ run [p] (before ++ after), ∃ added, Coherent q added := by
      refine coherent_run (fun o ho => ?_) _
      rw [List.mem_singleton.mp ho]
      exact ⟨files, Provider.coherent_ofFiles hp⟩
    obtain ⟨added, hcoherent⟩ := hmembers r (List.mem_iff_getElem?.mpr ⟨i, hr⟩)
    obtain ⟨t, ht⟩ := hcoherent.known_of_synthetic hsynthetic
    exact ⟨r, hr, hsynthetic, t, Provider.load_of_known ht⟩

/-- A file that is no text, then is one and is read, then is another; and then comes a fork, and
the file is put in by hand where the fork came from. -/
def mendedAndForked : List Event :=
  [⟨Provider.twoFiles [255], 0, .load "a.pyi"⟩, ⟨Provider.twoFiles [97], 0, .load "a.pyi"⟩,
    ⟨Provider.twoFiles [98], 0, .fork⟩,
    ⟨Provider.twoFiles [98], 0, .add (.text "a.pyi") (.text "z")⟩]

/-- A provider of the files in a folder and of one that was put in by hand. -/
def indexed : Provider :=
  ⟨".pyi", ⟨[("a.pyi", .folder ⟨.slash, ["s"]⟩), ("b.pyi", .folder ⟨.slash, ["s"]⟩),
    ("c.pyi", .synthetic)]⟩, ⟨[("c.pyi", "x")], 0⟩⟩

/-- The fork has the text that was read before it was made, the provider that it came from has read
the file once, and has the text that was put in, whatever is on disk. -/
theorem read_once_forked : ∃ q r, (run [indexed] mendedAndForked)[0]? = some q ∧
    (run [indexed] mendedAndForked)[1]? = some r ∧ (∀ w, r.load w "a.pyi" = (.ok "a", r)) ∧
    fetchCount 0 "a.pyi" [indexed] mendedAndForked = 1 ∧
    ∃ t, ∀ w, q.load w "a.pyi" = (.ok t, q) := by
  have hfiles : Provider.ofFiles (Provider.twoFiles [255]) ".pyi" [⟨.slash, ["s"]⟩]
      [("c.pyi", "x")] = .ok indexed := by cbv
  obtain ⟨hstable, honce, hnever⟩ := read_once hfiles
  have hinherits : ∀ ps : Family, ps.length = 1 →
      Inherits "a.pyi" ps 0 (mendedAndForked.drop 2) 1 := by
    intro ps hps
    have hforked : Inherits "a.pyi" ps 0 [⟨Provider.twoFiles [98], 0, .fork⟩] ps.length :=
      Inherits.here.forked rfl rfl
    rw [hps] at hforked
    exact hforked.later (by rintro ⟨⟩)
  have hcount : 1 ≤ fetchCount 0 "a.pyi" [indexed] mendedAndForked := by cbv
  obtain ⟨r, hr, hload⟩ := hstable (mendedAndForked.take 1) (mendedAndForked.drop 2)
    ⟨Provider.twoFiles [97], 0, .load "a.pyi"⟩ _ "a.pyi" "a" 1 rfl rfl (by cbv) (hinherits _ rfl)
  obtain ⟨q, hq, -, hload'⟩ := hnever mendedAndForked [] _ "a.pyi" 0 rfl (by cbv)
  exact ⟨q, r, hq, hr, hload, Nat.le_antisymm (honce _ _ _) hcount, hload'⟩

end Family

end Casebook.Stub

import Casebook.Proofs.Yaml.Building
import Casebook.Yaml.Document

/-!
# Values of maps of lists

The objects and the value that are made of the nodes of a map of lists of texts. A stage of the
making is known by the places whose objects are complete and those of empty collections. Main
statement: `Graph.value_entries`.
-/

namespace Casebook.Yaml

open Build (entryNodes entryPlaces documentNodes textNode listNodes)

/-! ## Nodes -/

namespace Nodes

/-- From a place on, nothing but the nodes of entries comes. -/
def Holds (ns : Nodes) : (place : Nat) → List (Text × List Text) → Prop
  | place, [] => place = ns.size
  | place, (k, ls) :: es =>
    ns.at? place = textNode k ∧
      ns.at? (place + 1) = ⟨.sequence, .sequence (List.range' (place + 2) ls.length)⟩ ∧
      (∀ t i, ls[i]? = some t → ns.at? (place + 2 + i) = textNode t) ∧
      ns.Holds (place + 2 + ls.length) es

theorem at?_of_toList {ns : Nodes} {pre nodes : List Node} (h : ns.toList = pre ++ nodes)
    {i : Nat} {node : Node} (hi : nodes[i]? = some node) : ns.at? (pre.length + i) = node := by
  have hget : ns[pre.length + i]? = some node := by
    rw [← Array.getElem?_toList, h, List.getElem?_append_right (Nat.le_add_right _ _),
      Nat.add_sub_cancel_left, hi]
  rw [at?, Array.getD_eq_getD_getElem?, hget]
  rfl

theorem holds_entryNodes {ns : Nodes} {es : List (Text × List Text)} {pre : List Node}
    (h : ns.toList = pre ++ entryNodes pre.length es) : ns.Holds pre.length es := by
  induction es generalizing pre with
  | nil =>
      rw [Holds, ← Array.length_toList, h]
      simp [entryNodes]
  | cons e es ih =>
      obtain ⟨k, ls⟩ := e
      refine ⟨at?_of_toList h (i := 0) rfl, at?_of_toList h (i := 1) rfl, fun t i hi => ?_, ?_⟩
      · have hitem : (entryNodes pre.length ((k, ls) :: es))[2 + i]? = some (textNode t) := by
          rw [Nat.add_comm]
          show (ls.map textNode ++ _)[i]? = _
          rw [List.getElem?_append_left, List.getElem?_map, hi]
          · rfl
          · rw [List.length_map]
            exact (List.getElem?_eq_some_iff.mp hi).1
        rw [Nat.add_assoc]
        exact at?_of_toList h hitem
      · have hlength : (pre ++ textNode k :: listNodes (pre.length + 1) ls).length =
            pre.length + 2 + ls.length := by
          simp [listNodes]
          omega
        have hsplit : ns.toList = pre ++ textNode k :: listNodes (pre.length + 1) ls ++
            entryNodes (pre ++ textNode k :: listNodes (pre.length + 1) ls).length es := by
          rw [h, hlength]
          simp [entryNodes]
        have hrest := ih hsplit
        rwa [hlength] at hrest

theorem holds_documentNodes (es : List (Text × List Text)) :
    Nodes.Holds (documentNodes es).toArray 1 es :=
  @holds_entryNodes _ es [⟨.map, .map (entryPlaces 1 es)⟩] rfl

variable {ns : Nodes} {place : Nat} {k : Text} {ls : List Text} {es : List (Text × List Text)}

theorem Holds.le_size (h : ns.Holds place es) : place ≤ ns.size := by
  induction es generalizing place with
  | nil => exact Nat.le_of_eq h
  | cons e es ih =>
      have hrest := ih h.2.2.2
      omega

theorem Holds.isText (h : ns.Holds place ((k, ls) :: es)) {i : Nat}
    (hi : i ∈ List.range' (place + 2) ls.length) :
    i < ns.size ∧ ∃ t, ns.at? i = textNode t := by
  obtain ⟨j, hj, rfl⟩ := List.mem_range'.mp hi
  rw [Nat.one_mul]
  have hsize := h.2.2.2.le_size
  exact ⟨by omega, _, h.2.2.1 _ _ (List.getElem?_eq_getElem hj)⟩

end Nodes

theorem entryPlaces_le {place : Nat} {es : List (Text × List Text)} {e : Nat × Nat}
    (h : e ∈ entryPlaces place es) : place ≤ e.1 ∧ place ≤ e.2 := by
  induction es generalizing place with
  | nil => cases h
  | cons e es ih =>
      rcases List.mem_cons.mp h with rfl | h
      · exact ⟨Nat.le_refl _, Nat.le_succ _⟩
      · have hrest := ih h
        omega

/-! ## Objects -/

/-- The object that a node of such a document stands for. -/
def Nodes.objectAt (ns : Nodes) (place : Nat) : Object :=
  match (ns.at? place).body with
  | .scalar t => .scalar (.text t) place
  | .sequence items => .list items
  | .map entries => .map entries

namespace Make

/-- How far the making of objects has come. -/
structure Stage where
  /-- The places of complete objects. -/
  done : List Nat
  /-- The places of collections that were begun. -/
  begun : List Nat
  unfilled : List Nat

/-- What was made is at a stage. -/
structure IsAt (ns : Nodes) (m : Making) (s : Stage) : Prop where
  nodes : m.nodes = ns
  size : m.objects.size = ns.size
  objects : ∀ i, m.objects.getD i none =
    if i ∈ s.done then some (ns.objectAt i)
    else if i ∈ s.begun then emptyOf? (ns.tagAt i) else none
  repeated : ∀ i, m.repeated.getD i false = false
  unfilled : m.unfilled = s.unfilled

section
variable {ns : Nodes} {s s' : Stage} {done begun unfilled items : List Nat} {place : Nat}
  {t : Text} {ls : List Text} {es : List (Text × List Text)}

/-- A step makes objects. -/
abbrev Makes {α : Type} (ns : Nodes) (x : Make α) (s : Stage) (a : α) (s' : Stage) : Prop :=
  Leads (IsAt ns) x s a s'

theorem getD_setIfInBounds {α : Type} {xs : Array α} {i : Nat} (h : i < xs.size) (x y : α) (j : Nat) :
    (xs.setIfInBounds i x).getD j y = if j = i then x else xs.getD j y := by
  rw [Array.getD_eq_getD_getElem?, Array.getElem?_setIfInBounds]
  by_cases hij : i = j
  · subst hij
    simp [h]
  · rw [if_neg hij, if_neg (Ne.symm hij), Array.getD_eq_getD_getElem?]

theorem getD_replicate {α : Type} (n : Nat) (x : α) (i : Nat) :
    (Array.replicate n x).getD i x = x := by
  rw [Array.getD_eq_getD_getElem?, Array.getElem?_replicate]
  split <;> rfl

/-- An object is completed. -/
theorem makes_keep {o : Object} (ho : o = ns.objectAt place) (hsize : place < ns.size) :
    Makes ns (keep place o) s () { s with done := place :: s.done } := by
  intro m hm
  refine ⟨_, rfl, hm.nodes, ?_, fun i => ?_, hm.repeated, hm.unfilled⟩
  · rw [Array.size_setIfInBounds, hm.size]
  · rw [getD_setIfInBounds (hm.size ▸ hsize), hm.objects i]
    by_cases hi : i = place
    · rw [if_pos hi, if_pos (by simp [hi]), hi, ho]
    · rw [if_neg hi]
      simp only [List.mem_cons, hi, false_or]

/-- A text that is asked for the first time. -/
theorem makes_ask_text (hnode : ns.at? place = textNode t) (hsize : place < ns.size)
    (hdone : place ∉ s.done) (hbegun : place ∉ s.begun) :
    Makes ns (ask place) s () { s with done := place :: s.done } := by
  intro m hm
  have hnone : m.objects.getD place none = none := by
    rw [hm.objects, if_neg hdone, if_neg hbegun]
  have htag : m.nodes.tagAt place = .text := by rw [hm.nodes, Nodes.tagAt, hnode]; rfl
  have htext : m.nodes.textAt place = .ok t := by
    rw [hm.nodes, Nodes.textAt, Nodes.textWithin, hnode]
    rfl
  have hscalar : (scalar place).run m = .ok (.text t, m) := by
    simp [scalar, htext, htag, Content.value]
    rfl
  have hask : (ask place).run m = (keep place (.scalar (.text t) place)).run m := by
    unfold ask
    show StateT.run (if (m.objects.getD place none).isSome then _ else _) m = _
    rw [hnone, htag]
    show StateT.run (scalar place >>= _) m = _
    rw [StateT.run_bind, hscalar]
    rfl
  rw [hask]
  refine makes_keep ?_ hsize m hm
  rw [Nodes.objectAt, hnode]
  rfl

/-- A collection that is asked for the first time. -/
theorem makes_ask_collection {o : Object} (ho : emptyOf? (ns.tagAt place) = some o)
    (hsize : place < ns.size) (hdone : place ∉ s.done) (hbegun : place ∉ s.begun) :
    Makes ns (ask place) s ()
      { s with begun := place :: s.begun, unfilled := place :: s.unfilled } := by
  intro m hm
  have hnone : m.objects.getD place none = none := by
    rw [hm.objects, if_neg hdone, if_neg hbegun]
  have ho' : emptyOf? (m.nodes.tagAt place) = some o := by rw [hm.nodes, ho]
  have hask : (ask place).run m = .ok ((), { m with
      objects := m.objects.setIfInBounds place (some o)
      unfilled := place :: m.unfilled }) := by
    unfold ask
    show StateT.run (if (m.objects.getD place none).isSome then _ else _) m = _
    rw [hnone, ho']
    rfl
  rw [hask]
  refine ⟨_, rfl, hm.nodes, ?_, fun i => ?_, hm.repeated, congrArg (place :: ·) hm.unfilled⟩
  · rw [Array.size_setIfInBounds, hm.size]
  · rw [getD_setIfInBounds (hm.size ▸ hsize), hm.objects i]
    by_cases hi : i = place
    · rw [if_pos hi, hi, if_neg hdone, if_pos List.mem_cons_self, ho]
    · rw [if_neg hi]
      simp only [List.mem_cons, hi, false_or]

/-- The texts of a list, each asked for the first time. -/
theorem makes_asks (hnodup : items.Nodup)
    (htext : ∀ i ∈ items, i < ns.size ∧ ∃ t, ns.at? i = textNode t)
    (hnew : ∀ i ∈ items, i ∉ s.done ∧ i ∉ s.begun) :
    Makes ns (items.forM ask) s () { s with done := items.reverse ++ s.done } := by
  induction items generalizing s with
  | nil => exact .pure _ _
  | cons i items ih =>
      obtain ⟨hi, hitems⟩ := List.nodup_cons.mp hnodup
      obtain ⟨⟨hsize, t, hnode⟩, htext⟩ := List.forall_mem_cons.mp htext
      obtain ⟨⟨hdone, hbegun⟩, hnew⟩ := List.forall_mem_cons.mp hnew
      have hrest := ih (s := { s with done := i :: s.done }) hitems htext fun j hj =>
        ⟨List.not_mem_cons_of_ne_of_not_mem (fun hji => hi (hji ▸ hj)) (hnew j hj).1, (hnew j hj).2⟩
      rw [List.reverse_cons, List.append_assoc]
      exact (makes_ask_text hnode hsize hdone hbegun).bind hrest

/-- A list is filled. -/
theorem makes_fill_list (hnode : ns.at? place = ⟨.sequence, .sequence items⟩)
    (hsize : place < ns.size) (hbegun : place ∈ s.begun) (hdone : place ∉ s.done)
    (hnodup : items.Nodup) (htext : ∀ i ∈ items, i < ns.size ∧ ∃ t, ns.at? i = textNode t)
    (hnew : ∀ i ∈ items, i ∉ s.done ∧ i ∉ s.begun) :
    Makes ns (fill place) s () { s with done := place :: (items.reverse ++ s.done) } := by
  refine Leads.get fun m hm => ?_
  have hobject : m.objects.getD place none = some (.list []) := by
    rw [hm.objects, if_neg hdone, if_pos hbegun, Nodes.tagAt, hnode]
    rfl
  have hbody : (m.nodes.at? place).body = .sequence items := by rw [hm.nodes, hnode]
  rw [hobject, hbody]
  refine (makes_asks hnodup htext hnew).bind (makes_keep ?_ hsize)
  rw [Nodes.objectAt, hnode]

/-- The object of a text that was asked for. -/
theorem IsAt.text {m : Making} (hm : IsAt ns m s) (hdone : place ∈ s.done)
    (hnode : ns.at? place = textNode t) :
    m.objects.getD place none = some (.scalar (.text t) place) := by
  rw [hm.objects, if_pos hdone, Nodes.objectAt, hnode]
  rfl

/-- One more entry of a map, under a key that is not there yet. -/
theorem makes_putEntry {acc : List (Nat × Nat)} {k : Text} {a b : Nat}
    (hkey : ns.at? a = textNode k) (hlist : ns.tagAt b = .sequence) (ha : a < ns.size)
    (hb : b < ns.size) (hab : b ≠ a) (hnewa : a ∉ s.done ∧ a ∉ s.begun)
    (hnewb : b ∉ s.done ∧ b ∉ s.begun)
    (hacc : ∀ f ∈ acc, f.1 ∈ s.done ∧ ∃ t, t ≠ k ∧ ns.at? f.1 = textNode t) :
    Makes ns (putEntry acc (a, b)) s (acc ++ [(a, b)])
      ⟨a :: s.done, b :: s.begun, b :: s.unfilled⟩ := by
  refine (makes_ask_text hkey ha hnewa.1 hnewa.2).bind (Leads.get fun m hm => ?_)
  have hisKey : isKey m.objects a = true := by
    rw [isKey, hm.text List.mem_cons_self hkey]
  rw [hisKey]
  show Makes ns (ask b >>= _) _ _ _
  have hempty : emptyOf? (ns.tagAt b) = some (.list []) := by rw [hlist]; rfl
  refine (makes_ask_collection (s := { s with done := a :: s.done }) hempty hb ?_ hnewb.2).bind
    (Leads.get fun m hm => ?_)
  · exact List.not_mem_cons_of_ne_of_not_mem hab hnewb.1
  have hany : (acc.any fun f => sameKey m.objects f.1 a) = false := by
    rw [List.any_eq_false]
    intro f hf
    obtain ⟨hdone, t, ht, hnode⟩ := hacc f hf
    have hplace : f.1 ≠ a := fun hfa => hnewa.1 (hfa ▸ hdone)
    rw [sameKey, hm.text (List.mem_cons_of_mem a hdone) hnode, hm.text List.mem_cons_self hkey]
    simp [hplace, Value.sameKey, Value.bare, ht]
  dsimp only
  rw [hany]
  exact .pure _ _

/-- The stage behind the entries of a map: their keys are complete, their lists are begun. -/
def Stage.behind (s : Stage) (entries : List (Nat × Nat)) : Stage :=
  ⟨(entries.map Prod.fst).reverse ++ s.done, (entries.map Prod.snd).reverse ++ s.begun,
    (entries.map Prod.snd).reverse ++ s.unfilled⟩

theorem makes_putEntries {acc : List (Nat × Nat)} (h : ns.Holds place es)
    (hkeys : (es.map Prod.fst).Nodup) (hnew : ∀ i ≥ place, i ∉ s.done ∧ i ∉ s.begun)
    (hacc : ∀ f ∈ acc, f.1 ∈ s.done ∧ ∃ t, t ∉ es.map Prod.fst ∧ ns.at? f.1 = textNode t) :
    Makes ns ((entryPlaces place es).foldlM putEntry acc) s (acc ++ entryPlaces place es)
      (s.behind (entryPlaces place es)) := by
  induction es generalizing place s acc with
  | nil =>
      rw [entryPlaces, List.append_nil]
      exact .pure _ _
  | cons e es ih =>
      obtain ⟨k, ls⟩ := e
      obtain ⟨hk, hkeys⟩ := List.nodup_cons.mp hkeys
      have hsize := h.2.2.2.le_size
      obtain ⟨hkey, hlist, -, hrest⟩ := h
      have hput : Makes ns (putEntry acc (place, place + 1)) s _ _ :=
        makes_putEntry hkey (by rw [Nodes.tagAt, hlist]) (by omega) (by omega) (by omega)
          (hnew place (Nat.le_refl _)) (hnew _ (by omega)) fun f hf => by
            obtain ⟨hdone, t, ht, hnode⟩ := hacc f hf
            exact ⟨hdone, t, List.ne_of_not_mem_cons ht, hnode⟩
      have hentries : Makes ns ((entryPlaces (place + 2 + ls.length) es).foldlM putEntry
          (acc ++ [(place, place + 1)])) (s.behind [(place, place + 1)]) _ _ :=
        ih hrest hkeys (fun i hi => ?_) fun f hf => ?_
      · rw [entryPlaces, List.foldlM_cons]
        refine hput.bind ?_
        simpa [Stage.behind] using hentries
      · obtain ⟨hdone, hbegun⟩ := hnew i (by omega)
        exact ⟨List.not_mem_cons_of_ne_of_not_mem (by omega) hdone,
          List.not_mem_cons_of_ne_of_not_mem (by omega) hbegun⟩
      · rcases List.mem_append.mp hf with hf | hf
        · obtain ⟨hdone, t, ht, hnode⟩ := hacc f hf
          exact ⟨List.mem_cons_of_mem _ hdone, t, List.not_mem_of_not_mem_cons ht, hnode⟩
        · rw [List.mem_singleton.mp hf]
          exact ⟨List.mem_cons_self, k, hk, hkey⟩

/-- The map is filled with its entries. -/
theorem makes_fill_map {entries : List (Nat × Nat)} (hnode : ns.at? place = ⟨.map, .map entries⟩)
    (hsize : place < ns.size) (hbegun : place ∈ s.begun) (hdone : place ∉ s.done)
    (hplain : ∀ e ∈ entries, ns.tagAt e.1 = .text)
    (h : Makes ns (entries.foldlM putEntry []) s entries s') :
    Makes ns (fill place) s () { s' with done := place :: s'.done } := by
  refine Leads.get fun m hm => ?_
  have hobject : m.objects.getD place none = some (.map []) := by
    rw [hm.objects, if_neg hdone, if_pos hbegun, Nodes.tagAt, hnode]
    rfl
  rw [hobject]
  have hentriesAt : ns.entriesAt place = entries := by rw [Nodes.entriesAt, hnode]
  have hflatten : ns.flatten place = .ok ns := by
    have hspecial : (ns.entriesAt place).any (fun e => ns.isSpecial e.1) = false := by
      rw [hentriesAt, List.any_eq_false]
      intro e he
      rw [Nodes.isSpecial, hplain e he]
      decide
    rw [Nodes.flatten, hspecial]
    rfl
  have hentries : Makes ns (Make.entries place) s entries s' := by
    intro m hm
    have hisMap : m.nodes.isMapAt place = true := by rw [hm.nodes, Nodes.isMapAt, hnode]
    have hrun : (Make.entries place).run m = (entries.foldlM putEntry []).run m := by
      unfold Make.entries
      show StateT.run (if !m.nodes.isMapAt place then _ else _) m = _
      rw [hisMap, hm.nodes]
      show StateT.run (liftM (ns.flatten place) >>= _) m = _
      rw [hflatten]
      show StateT.run ((ns.entriesAt place).foldlM putEntry []) { m with nodes := ns } = _
      rw [hentriesAt, ← hm.nodes]
    rw [hrun]
    exact h m hm
  refine hentries.bind (makes_keep ?_ hsize)
  rw [Nodes.objectAt, hnode]

/-- The lists of entries are filled. -/
theorem makes_fills (h : ns.Holds place es)
    (hplaces : ∀ e ∈ entryPlaces place es, e.1 ∈ s.done ∧ e.2 ∈ s.begun)
    (hdone : ∀ i ∈ s.done, place ≤ i → i ∈ (entryPlaces place es).map Prod.fst)
    (hbegun : ∀ i ∈ s.begun, place ≤ i → i ∈ (entryPlaces place es).map Prod.snd) :
    ∃ done, Makes ns (((entryPlaces place es).map Prod.snd).forM fill) s () { s with done } ∧
      ∀ i, i ∈ done ↔ i ∈ s.done ∨ (place ≤ i ∧ i < ns.size) := by
  induction es generalizing place s with
  | nil =>
      have hend : place = ns.size := h
      exact ⟨s.done, .pure _ _, fun i => ⟨.inl, fun hi => hi.resolve_right (by omega)⟩⟩
  | cons e es ih =>
      obtain ⟨k, ls⟩ := e
      obtain ⟨⟨hkey, hlist⟩, hplaces⟩ := List.forall_mem_cons.mp hplaces
      have hsize := h.2.2.2.le_size
      -- The places of the list and its items lie between the key and the next entry.
      have hkeys : ∀ i ∈ s.done, place < i → place + 2 + ls.length ≤ i ∧
          i ∈ (entryPlaces (place + 2 + ls.length) es).map Prod.fst := by
        intro i hi hlt
        rcases List.mem_cons.mp (hdone i hi (Nat.le_of_lt hlt)) with rfl | hi
        · exact absurd hlt (Nat.lt_irrefl _)
        · obtain ⟨e, he, rfl⟩ := List.mem_map.mp hi
          exact ⟨(entryPlaces_le he).1, hi⟩
      have hlists : ∀ i ∈ s.begun, place + 1 < i → place + 2 + ls.length ≤ i ∧
          i ∈ (entryPlaces (place + 2 + ls.length) es).map Prod.snd := by
        intro i hi hlt
        rcases List.mem_cons.mp (hbegun i hi (by omega)) with rfl | hi
        · exact absurd hlt (Nat.lt_irrefl _)
        · obtain ⟨e, he, rfl⟩ := List.mem_map.mp hi
          exact ⟨(entryPlaces_le he).2, hi⟩
      have hitems {i : Nat} : i ∈ List.range' (place + 2) ls.length ↔
          place + 2 ≤ i ∧ i < place + 2 + ls.length := List.mem_range'_1
      have hfill := makes_fill_list (s := s) h.2.1 (by omega) hlist
        (fun hi => by have := (hkeys _ hi (Nat.lt_succ_self _)).1; omega)
        List.nodup_range' (fun i hi => h.isText hi) fun i hi => by
          have hi := hitems.mp hi
          exact ⟨fun hd => by have := (hkeys i hd (by omega)).1; omega,
            fun hb => by have := (hlists i hb (by omega)).1; omega⟩
      have hmem {i : Nat} : i ∈ (place + 1) :: ((List.range' (place + 2) ls.length).reverse ++ s.done) ↔
          (place + 1 ≤ i ∧ i < place + 2 + ls.length) ∨ i ∈ s.done := by
        rw [List.mem_cons, List.mem_append, List.mem_reverse, hitems, ← or_assoc]
        exact or_congr_left (by omega)
      obtain ⟨done, hrest, hall⟩ := ih
        (s := { s with
          done := (place + 1) :: ((List.range' (place + 2) ls.length).reverse ++ s.done) })
        h.2.2.2 (fun e he => ⟨hmem.mpr (.inr (hplaces e he).1), (hplaces e he).2⟩)
        (fun i hi hle => by
          rcases hmem.mp hi with hi | hi
          · omega
          · exact (hkeys i hi (by omega)).2)
        (fun i hi hle => (hlists i hi (by omega)).2)
      refine ⟨done, hfill.bind hrest, fun i => ?_⟩
      rw [hall, hmem]
      by_cases hi : i ∈ s.done
      · simp [hi]
      · have hne : i ≠ place := fun hne => hi (hne ▸ hkey)
        simp only [hi, or_false, false_or]
        omega

theorem makes_fillAll_end (rounds : Nat) (h : s.unfilled = []) :
    Makes ns (fillAll rounds) s () s := by
  cases rounds with
  | zero => exact .pure _ _
  | succ rounds =>
      refine Leads.get fun m hm => ?_
      rw [hm.unfilled, h]
      exact .pure _ _

/-- A round fills what was begun, in that order. -/
theorem makes_fillAll {rounds : Nat} {s₁ s₂ : Stage} (h : s.unfilled ≠ [])
    (hfill : Makes ns (s.unfilled.reverse.forM fill) { s with unfilled := [] } () s₁)
    (hrest : Makes ns (fillAll rounds) s₁ () s₂) : Makes ns (fillAll (rounds + 1)) s () s₂ := by
  refine Leads.get fun m hm => ?_
  have hsome : s.unfilled.reverse.isEmpty = false := by simpa using h
  rw [hm.unfilled]
  dsimp only
  rw [hsome]
  have hforget : Makes ns (modify fun m => { m with unfilled := [] }) s ()
      { s with unfilled := [] } :=
    fun m hm => ⟨_, rfl, hm.nodes, hm.size, hm.objects, hm.repeated, rfl⟩
  exact hforget.bind (hfill.bind hrest)

end

end Make

/-- Every node of a document is the object it stands for, and none was asked for twice. -/
structure Making.IsComplete (m : Making) (ns : Nodes) : Prop where
  size : m.objects.size = ns.size
  objects : ∀ i, i < ns.size → m.objects.getD i none = some (ns.objectAt i)
  repeated : ∀ i, m.repeated.getD i false = false

theorem entryPlaces_ne_nil {place : Nat} {es : List (Text × List Text)} (h : es ≠ []) :
    entryPlaces place es ≠ [] := by
  cases es with
  | nil => exact absurd rfl h
  | cons e es => exact List.cons_ne_nil _ _

/-- The keys of entries are texts. -/
theorem Nodes.Holds.tagAt_key {ns : Nodes} {place : Nat} {es : List (Text × List Text)}
    (h : ns.Holds place es) : ∀ e ∈ entryPlaces place es, ns.tagAt e.1 = .text := by
  induction es generalizing place with
  | nil => simp [entryPlaces]
  | cons e es ih =>
      refine List.forall_mem_cons.mpr ⟨?_, ih h.2.2.2⟩
      rw [Nodes.tagAt, h.1]
      rfl

open Make in
/-- The objects of a document that is a map of lists of texts are made in two rounds: first the map
is filled, then its lists. -/
theorem Graph.make_entries {ns : Nodes} {es : List (Text × List Text)} (hes : es ≠ [])
    (hroot : ns.at? 0 = ⟨.map, .map (entryPlaces 1 es)⟩) (h : ns.Holds 1 es)
    (hkeys : (es.map Prod.fst).Nodup) :
    ∃ m, Graph.make ⟨ns, 0⟩ = .ok m ∧ m.IsComplete ns := by
  have hpos : 0 < ns.size := h.le_size
  obtain ⟨rounds, hrounds⟩ : ∃ k, ns.size + 1 = k + 2 := ⟨ns.size - 1, by omega⟩
  set entries := entryPlaces 1 es
  have hmap := makes_fill_map (s := ⟨[], [0], []⟩) hroot hpos (by simp) (by simp) h.tagAt_key
    (@makes_putEntries _ _ _ _ [] h hkeys (fun i hi => ⟨by simp, by simp; omega⟩) (by simp))
  obtain ⟨done, hlists, hdone⟩ := makes_fills (s :=
      ⟨0 :: (entries.map Prod.fst).reverse, (entries.map Prod.snd).reverse ++ [0], []⟩) h
    (fun e he => ⟨List.mem_cons_of_mem _ (List.mem_reverse.mpr (List.mem_map_of_mem he)),
      List.mem_append_left _ (List.mem_reverse.mpr (List.mem_map_of_mem he))⟩)
    (fun i hi hpos => by
      have hne : i ≠ 0 := by omega
      simpa [hne] using hi)
    (fun i hi hpos => by
      have hne : i ≠ 0 := by omega
      simpa [hne] using hi)
  have hfill : Makes ns (do ask 0; fillAll (ns.size + 1)) ⟨[], [], []⟩ ()
      ⟨done, (entries.map Prod.snd).reverse ++ [0], []⟩ := by
    refine (makes_ask_collection (o := .map []) ?_ hpos (by simp) (by simp)).bind ?_
    · rw [Nodes.tagAt, hroot]
      rfl
    rw [hrounds]
    refine makes_fillAll (by simp) (hmap.bind (.pure _ _)) (makes_fillAll ?_ ?_
      (makes_fillAll_end _ rfl))
    · simpa [Stage.behind] using entryPlaces_ne_nil hes
    · simpa [Stage.behind] using hlists
  obtain ⟨m, hrun, hm⟩ := hfill ⟨ns, .replicate ns.size none, .replicate ns.size false, []⟩
    ⟨rfl, Array.size_replicate, getD_replicate _ _, getD_replicate _ _, rfl⟩
  refine ⟨m, ?_, hm.size, fun i hi => ?_, hm.repeated⟩
  · unfold Graph.make
    dsimp only
    rw [hrun]
    rfl
  · rw [hm.objects, if_pos]
    rw [hdone]
    by_cases hzero : i = 0
    · exact .inl (by simp [hzero])
    · exact .inr ⟨by omega, hi⟩

/-! ## Values -/

namespace Making

section
variable {m : Making} {known : Known} {within : List Nat} {place depth : Nat}

theorem run_get_bind {α : Type} (f : Known → StateM Known α) (known : Known) :
    (get >>= f).run known = (f known).run known := rfl

theorem run_bind_eq {α β : Type} {x : StateM Known α} {f : α → StateM Known β} {a : α}
    (h : x.run known = (a, known)) : (x >>= f).run known = (f a).run known := by
  rw [StateT.run_bind, h]
  rfl

theorem valueAt_text {t : Text} {i : Nat} (hrepeated : m.repeated.getD place false = false)
    (hknown : known.getD place none = none)
    (hobject : m.objects.getD place none = some (.scalar (.text t) i)) :
    (m.valueAt (depth + 1) within false place).run known = (⟨.text t, []⟩, known) := by
  unfold valueAt
  rw [run_get_bind, hknown, hobject, hrepeated]
  rfl

/-- The steps of a map over a list, none of which changes what is known. -/
theorem run_mapM {f : Nat → StateM Known Part} {g : Nat → Part} {places : List Nat}
    (h : ∀ p ∈ places, (f p).run known = (g p, known)) :
    (places.mapM f).run known = (places.map g, known) := by
  induction places with
  | nil => rfl
  | cons p places ih =>
      obtain ⟨hp, hplaces⟩ := List.forall_mem_cons.mp h
      rw [List.mapM_cons, run_bind_eq hp, run_bind_eq (ih hplaces)]
      rfl

/-- A collection in which nothing stands that is around it. -/
theorem valueAt_collection {o : Object} {g : Nat → Value}
    (hscalar : ∀ v i, o ≠ .scalar v i) (hrepeated : m.repeated.getD place false = false)
    (hknown : known.getD place none = none) (hobject : m.objects.getD place none = some o)
    (hwithin : within.contains place = false)
    (hparts : ∀ p ∈ o.places,
      (m.valueAt depth (place :: within) false p).run known = (⟨g p, []⟩, known)) :
    (m.valueAt (depth + 1) within false place).run known =
      (⟨o.valueWith (o.places.map g), []⟩, known) := by
  have hfold (places : List Nat) : (places.map fun p => (⟨g p, []⟩ : Part)).foldl
      (fun ps part => union ps part.around) [] = [] := by
    induction places with
    | nil => rfl
    | cons p places ih => exact ih
  have hmapM := run_mapM hparts
  unfold valueAt
  rw [run_get_bind, hknown, hobject, hrepeated]
  cases o with
  | scalar v i => exact absurd rfl (hscalar v i)
  | list _ | set _ | map _ | pairs _ | pair _ _ =>
      dsimp only
      rw [hwithin, if_neg Bool.false_ne_true, Bool.or_self, run_bind_eq hmapM, hfold, List.map_map]
      rfl

end

end Making

/-- The value of a text or of a list of texts. -/
def Nodes.contentAt (ns : Nodes) (place : Nat) : Value :=
  match (ns.at? place).body with
  | .scalar t => .text t
  | .sequence items => .list (items.map fun i => .text ((ns.textAt i).toOption.getD ""))
  | .map _ => .null

section
variable {ns : Nodes} {place : Nat} {t : Text} {k : Text} {ls : List Text}
  {es : List (Text × List Text)}

theorem Nodes.textAt_textNode (h : ns.at? place = textNode t) : ns.textAt place = .ok t := by
  rw [textAt, textWithin, h]
  rfl

theorem Nodes.contentAt_textNode (h : ns.at? place = textNode t) : ns.contentAt place = .text t := by
  rw [contentAt, h]
  rfl

theorem Nodes.Holds.contentAt_list (h : ns.Holds place ((k, ls) :: es)) :
    ns.contentAt (place + 1) = .list (ls.map .text) := by
  rw [contentAt, h.2.1]
  refine congrArg Value.list (List.ext_getElem (by simp) fun i hi hi' => ?_)
  rw [List.getElem_map, List.getElem_map, List.getElem_range', Nat.one_mul,
    textAt_textNode (h.2.2.1 _ i (List.getElem?_eq_getElem (by simpa using hi')))]
  rfl

theorem Nodes.Holds.contents (h : ns.Holds place es) :
    (entryPlaces place es).map (fun e => (ns.contentAt e.1, ns.contentAt e.2)) =
      es.map fun e => (.text e.1, .list (e.2.map .text)) := by
  induction es generalizing place with
  | nil => rfl
  | cons e es ih =>
      rw [entryPlaces, List.map_cons, List.map_cons, ih h.2.2.2, h.contentAt_list,
        Nodes.contentAt_textNode h.1]

end

/-- The value of a map pairs the values of its keys with those under them. -/
theorem Object.valueWith_map (entries : List (Nat × Nat)) (g : Nat → Value) :
    (Object.map entries).valueWith ((Object.map entries).places.map g) =
      .map (entries.map fun e => (g e.1, g e.2)) := by
  simp [valueWith, places, List.zip_map', Function.comp_def]

theorem Nodes.objectAt_textNode {ns : Nodes} {place : Nat} {t : Text}
    (h : ns.at? place = textNode t) : ns.objectAt place = .scalar (.text t) place := by
  rw [objectAt, h]
  rfl

namespace Making

/-- The keys and lists of entries are put together. -/
theorem valueAt_entries {m : Making} {ns : Nodes} (hm : m.IsComplete ns) {known : Known}
    (hknown : ∀ i, known.getD i none = none) {place depth : Nat} (hpos : 0 < place)
    {es : List (Text × List Text)} (h : ns.Holds place es) {e : Nat × Nat}
    (he : e ∈ entryPlaces place es) :
    (m.valueAt (depth + 2) [0] false e.1).run known = (⟨ns.contentAt e.1, []⟩, known) ∧
      (m.valueAt (depth + 2) [0] false e.2).run known = (⟨ns.contentAt e.2, []⟩, known) := by
  induction es generalizing place with
  | nil => cases he
  | cons entry es ih =>
      obtain ⟨k, ls⟩ := entry
      rcases List.mem_cons.mp he with rfl | he
      · have hsize := h.2.2.2.le_size
        have hkey : m.objects.getD place none = some (.scalar (.text k) place) := by
          rw [hm.objects _ (by omega), Nodes.objectAt_textNode h.1]
        have hlist : m.objects.getD (place + 1) none =
            some (.list (List.range' (place + 2) ls.length)) := by
          rw [hm.objects _ (by omega), Nodes.objectAt, h.2.1]
        refine ⟨?_, ?_⟩
        · rw [Nodes.contentAt_textNode h.1]
          exact valueAt_text (hm.repeated _) (hknown _) hkey
        · rw [Nodes.contentAt, h.2.1]
          refine valueAt_collection (by simp) (hm.repeated _) (hknown _) hlist (by simp) ?_
          intro i hi
          obtain ⟨hlt, t, ht⟩ := h.isText hi
          rw [Nodes.textAt_textNode ht]
          refine valueAt_text (i := i) (hm.repeated _) (hknown _) ?_
          rw [hm.objects i hlt, Nodes.objectAt_textNode ht]
          rfl
      · exact ih (by omega) h.2.2.2 he

end Making

/-- **The value of a document that is a map of lists of texts.** -/
theorem Graph.value_entries {es : List (Text × List Text)} (hes : es ≠ [])
    (hkeys : (es.map Prod.fst).Nodup) :
    Graph.value ⟨(documentNodes es).toArray, 0⟩ =
      .ok (.map (es.map fun e => (.text e.1, .list (e.2.map .text)))) := by
  set ns : Nodes := (documentNodes es).toArray
  have h : ns.Holds 1 es := Nodes.holds_documentNodes es
  have hroot : ns.at? 0 = ⟨.map, .map (entryPlaces 1 es)⟩ := rfl
  obtain ⟨m, hmake, hm⟩ := Graph.make_entries hes hroot h hkeys
  have hpos : 0 < ns.size := h.le_size
  -- Two levels of depth are spent: one on the map, one on its lists.
  obtain ⟨depth, hdepth⟩ : ∃ k, m.objects.size = k + 2 := ⟨m.objects.size - 2, by
    have hsize : 2 ≤ ns.size := by
      cases es with
      | nil => exact absurd rfl hes
      | cons e es =>
          have hrest := h.2.2.2.le_size
          omega
    rw [hm.size]
    omega⟩
  have hobject : m.objects.getD 0 none = some (.map (entryPlaces 1 es)) := by
    rw [hm.objects 0 hpos, Nodes.objectAt, hroot]
  have hparts : ∀ p ∈ (Object.map (entryPlaces 1 es)).places,
      (m.valueAt (depth + 2) [0] false p).run (Array.replicate m.objects.size none) =
        (⟨ns.contentAt p, []⟩, Array.replicate m.objects.size none) := by
    intro i hi
    rcases List.mem_append.mp hi with hi | hi <;> obtain ⟨e, he, rfl⟩ := List.mem_map.mp hi
    · exact (Making.valueAt_entries hm (Make.getD_replicate _ _) Nat.one_pos h he).1
    · exact (Making.valueAt_entries hm (Make.getD_replicate _ _) Nat.one_pos h he).2
  have hvalue := Making.valueAt_collection (by simp) (hm.repeated 0)
    (Make.getD_replicate _ _ 0) hobject rfl hparts
  rw [Object.valueWith_map, h.contents] at hvalue
  unfold Graph.value
  rw [hmake]
  show Except.ok (m.value 0) = _
  unfold Making.value
  dsimp only
  rw [hdepth] at hvalue ⊢
  rw [hvalue]

end Casebook.Yaml

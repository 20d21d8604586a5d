import Casebook.Proofs.Yaml.Block
import Casebook.Yaml.Node

/-!
# Nodes of a block document

The nodes that are put together from the tokens of a map of lists of texts. Every step is
described by the tokens that are left and the nodes that there are, before it and behind it
(`Takes`). Main statement: `Graph.ofText_entryLines`.
-/

namespace Casebook.Yaml

/-! ## Steps -/

/-- A step leads from one stage to another with a result; `At` says which states are at a stage. -/
def Leads {σ ε τ α : Type} (At : σ → τ → Prop) (x : StateT σ (Except ε) α) (t : τ) (a : α) (t' : τ) :
    Prop :=
  ∀ s, At s t → ∃ s', x.run s = .ok (a, s') ∧ At s' t'

section
variable {σ ε τ α β : Type} {At : σ → τ → Prop} {x : StateT σ (Except ε) α}
  {g : α → StateT σ (Except ε) β} {t t' t₁ t₂ : τ} {a : α} {b : β}

theorem Leads.bind (hx : Leads At x t a t₁) (hg : Leads At (g a) t₁ b t₂) :
    Leads At (x >>= g) t b t₂ := by
  intro s hs
  obtain ⟨s₁, hrun, hs₁⟩ := hx s hs
  obtain ⟨s₂, hrun', hs₂⟩ := hg s₁ hs₁
  refine ⟨s₂, ?_, hs₂⟩
  rw [StateT.run_bind, hrun]
  exact hrun'

theorem Leads.pure (t : τ) (a : α) :
    Leads At (Pure.pure a : StateT σ (Except ε) α) t a t := fun s hs => ⟨s, rfl, hs⟩

/-- A step that reads the state it starts from. -/
theorem Leads.get {f : σ → StateT σ (Except ε) α} (h : ∀ s, At s t → Leads At (f s) t a t') :
    Leads At (MonadState.get >>= f) t a t' := fun s hs => h s hs s hs

end

namespace Build

/-- How far the building of nodes has come. -/
structure Stage where
  tokens : List Token
  /-- The next token was looked at. -/
  seen : Bool
  nodes : List Node
  room : Nat

/-- A feed is at a stage. -/
structure IsAt (f : Feed) (s : Stage) : Prop where
  feeds : f.scanner.Feeds s.tokens
  ready : s.seen = true → f.scanner.IsReady
  nodes : f.nodes.toList = s.nodes
  room : f.room = s.room

/-- A step takes tokens and leaves nodes. -/
abbrev Takes {α : Type} (x : Build α) (s : Stage) (a : α) (s' : Stage) : Prop := Leads IsAt x s a s'

section
variable {α β : Type} {x : Build α} {g : α → Build β} {s s₁ s₂ : Stage} {a : α} {b : β}
  {t : Token} {ts : List Token} {seen : Bool} {ns : List Node} {r : Nat}

/-- It does not matter whether the next token was looked at. -/
theorem Takes.forget (h : Takes x ⟨ts, false, ns, r⟩ a s') : Takes x ⟨ts, seen, ns, r⟩ a s' :=
  fun f hf => h f ⟨hf.feeds, by simp, hf.nodes, hf.room⟩

theorem Takes.unseen {ns' : List Node} {r' : Nat} {ts' : List Token}
    (h : Takes x s a ⟨ts', seen, ns', r'⟩) : Takes x s a ⟨ts', false, ns', r'⟩ := by
  intro f hf
  obtain ⟨f', hrun, hf'⟩ := h f hf
  exact ⟨f', hrun, hf'.feeds, by simp, hf'.nodes, hf'.room⟩

theorem takes_peek : Takes peek ⟨ts, seen, ns, r⟩ ts.head? ⟨ts, true, ns, r⟩ := by
  intro f hf
  obtain ⟨scanner, hready, hisReady, hfeeds⟩ := hf.feeds.ready
  refine ⟨{ f with scanner }, ?_, hfeeds, fun _ => hisReady, hf.nodes, hf.room⟩
  have hnext := (hfeeds.next hisReady).1
  show ((f.scanner.ready >>= fun s => .ok (s, f)) >>= _) = _
  rw [hready]
  show Except.ok (scanner.next?, ({ f with scanner } : Feed)) = _
  rw [hnext]

theorem takes_drop : Takes drop ⟨t :: ts, true, ns, r⟩ () ⟨ts, false, ns, r⟩ := by
  intro f hf
  exact ⟨_, rfl, (hf.feeds.next (hf.ready rfl)).2 t ts rfl, by simp, hf.nodes, hf.room⟩

theorem takes_sees (ends : List Token) :
    Takes (sees ends) ⟨ts, seen, ns, r⟩ (ts.head?.any ends.contains) ⟨ts, true, ns, r⟩ := by
  refine takes_peek.bind ?_
  cases ts with
  | nil => exact .pure _ _
  | cons t ts => exact .pure _ _

/-- The next token is taken if it is the one that is asked for. -/
theorem takes_accept : Takes (accept t) ⟨t :: ts, seen, ns, r⟩ true ⟨ts, false, ns, r⟩ := by
  refine (takes_sees [t]).bind ?_
  have hsees : (t :: ts).head?.any [t].contains = true := by simp
  rw [hsees, if_pos rfl]
  exact takes_drop.bind (.pure _ _)

theorem takes_accept_other (h : ts.head? ≠ some t) :
    Takes (accept t) ⟨ts, seen, ns, r⟩ false ⟨ts, true, ns, r⟩ := by
  refine (takes_sees [t]).bind ?_
  have hsees : ts.head?.any [t].contains = false := by
    cases ts with
    | nil => rfl
    | cons u ts =>
        have hne : u ≠ t := fun hu => h (congrArg some hu)
        simp [hne]
  rw [hsees, if_neg (by decide)]
  exact .pure _ _

theorem takes_expect : Takes (expect t) ⟨t :: ts, seen, ns, r⟩ () ⟨ts, false, ns, r⟩ :=
  takes_accept.bind (.pure _ _)

/-! ## Nodes -/

theorem takes_begin (tag : Tag) (body : Body) :
    Takes (begin none tag body) ⟨ts, seen, ns, r + 1⟩ ns.length
      ⟨ts, seen, ns ++ [⟨tag, body⟩], r + 1⟩ := by
  intro f hf
  have hroom : ¬ f.room = 0 := by rw [hf.room]; exact Nat.succ_ne_zero r
  refine ⟨{ f with nodes := f.nodes.push ⟨tag, body⟩ }, ?_, hf.feeds, hf.ready, ?_, hf.room⟩
  · have hplace : f.nodes.size = ns.length := by rw [← Array.length_toList, hf.nodes]
    have hinto : goInto.run f = .ok ((), f) := by
      show (if f.room = 0 then _ else _ : Build Unit).run f = _
      rw [if_neg hroom]
      rfl
    unfold begin
    rw [StateT.run_bind, hinto]
    show Except.ok (f.nodes.size, _) = _
    rw [hplace]
  · rw [Array.toList_push, hf.nodes]

theorem modify_append_cons {α : Type} (f : α → α) (pre : List α) (x : α) (post : List α) :
    (pre ++ x :: post).modify pre.length f = pre ++ f x :: post := by
  induction pre with
  | nil => rfl
  | cons y pre ih => exact congrArg (y :: ·) ih

/-- A collection is completed with what it is made of. -/
theorem takes_complete {tag : Tag} {old body : Body} {pre post : List Node} :
    Takes (complete pre.length body) ⟨ts, seen, pre ++ ⟨tag, old⟩ :: post, r⟩ pre.length
      ⟨ts, seen, pre ++ ⟨tag, body⟩ :: post, r + 1⟩ := by
  intro f hf
  refine ⟨{ f with
    nodes := f.nodes.modify pre.length fun n => { n with body }
    room := f.room + 1 }, rfl, hf.feeds, hf.ready, ?_, congrArg (· + 1) hf.room⟩
  rw [Array.toList_modify, hf.nodes]
  exact modify_append_cons _ pre _ post

theorem takes_beginCollection (tag : Tag) (body : Body) :
    Takes (beginCollection none tag body) ⟨ts, seen, ns, r + 1⟩ ns.length
      ⟨ts, seen, ns ++ [⟨tag, body⟩], r⟩ := by
  refine (takes_begin tag body).bind ?_
  intro f hf
  exact ⟨{ f with room := f.room - 1 }, rfl, hf.feeds, hf.ready, hf.nodes, by
    show f.room - 1 = r
    rw [hf.room]
    rfl⟩

/-- A sequence: its items come behind it. -/
theorem Takes.sequence {items : Build (List Nat)} {places : List Nat} {inner : List Node}
    {ts' : List Token} {tag : Tag}
    (h : Takes items ⟨ts, seen, ns ++ [⟨tag, .sequence []⟩], r⟩ places
      ⟨ts', false, ns ++ ⟨tag, .sequence []⟩ :: inner, r⟩) :
    Takes (sequence none tag items) ⟨ts, seen, ns, r + 1⟩ ns.length
      ⟨ts', false, ns ++ ⟨tag, .sequence places⟩ :: inner, r + 1⟩ :=
  (takes_beginCollection tag _).bind (h.bind takes_complete)

/-- A map: its keys and values come behind it. -/
theorem Takes.map {entries : Build (List (Nat × Nat))} {places : List (Nat × Nat)}
    {inner : List Node} {ts' : List Token} {tag : Tag}
    (h : Takes entries ⟨ts, seen, ns ++ [⟨tag, .map []⟩], r⟩ places
      ⟨ts', false, ns ++ ⟨tag, .map []⟩ :: inner, r⟩) :
    Takes (map none tag entries) ⟨ts, seen, ns, r + 1⟩ ns.length
      ⟨ts', false, ns ++ ⟨tag, .map places⟩ :: inner, r + 1⟩ :=
  (takes_beginCollection tag _).bind (h.bind takes_complete)

/-- The token begins a node of its own: it is no alias, anchor or tag. -/
def isUnmarked : Token → Bool
  | .alias _ | .anchor _ | .tag .. => false
  | _ => true

theorem takes_takeMarks (h : isUnmarked t = true) :
    Takes takeMarks ⟨t :: ts, seen, ns, r⟩ ⟨none, none⟩ ⟨t :: ts, true, ns, r⟩ := by
  have hanchor : ∀ {seen}, Takes takeAnchor ⟨t :: ts, seen, ns, r⟩ none ⟨t :: ts, true, ns, r⟩ := by
    intro seen
    refine takes_peek.bind ?_
    cases t <;> first | exact .pure _ _ | cases h
  have htag : ∀ {seen}, Takes takeTag ⟨t :: ts, seen, ns, r⟩ none ⟨t :: ts, true, ns, r⟩ := by
    intro seen
    refine takes_peek.bind ?_
    cases t <;> first | exact .pure _ _ | cases h
  exact hanchor.bind (htag.bind ((Leads.pure _ _).bind ((Leads.pure _ _).bind (.pure _ _))))

/-- The tag of a text in a document, which may be written plain if it has the form of a text. -/
theorem scalarTag_text {text : Text} {plain : Bool} (h : plain = true → Tag.implicit text = .text) :
    Marks.scalarTag ⟨none, none⟩ text plain = .text := by
  cases plain with
  | false => rfl
  | true => exact h rfl

/-- The node of a text. -/
def textNode (t : Text) : Node := ⟨.text, .scalar t⟩

theorem takes_node_scalar {fuel : Nat} {block indentless : Bool} {text : Text} {plain : Bool}
    (h : plain = true → Tag.implicit text = .text) :
    Takes (node (fuel + 1) block indentless) ⟨.scalar text plain :: ts, seen, ns, r + 1⟩ ns.length
      ⟨ts, false, ns ++ [textNode text], r + 1⟩ := by
  rw [node]
  refine takes_peek.bind ((takes_takeMarks rfl).bind (takes_peek.bind ?_))
  dsimp only [List.head?_cons]
  rw [scalarTag_text h]
  exact takes_drop.bind (takes_begin _ _)

theorem takes_node_loose {fuel : Nat} {block : Bool} {places : List Nat} {inner : List Node}
    {ts' : List Token}
    (h : Takes (looseItems fuel) ⟨.entry :: ts, false, ns ++ [⟨.sequence, .sequence []⟩], r⟩ places
      ⟨ts', false, ns ++ ⟨.sequence, .sequence []⟩ :: inner, r⟩) :
    Takes (node (fuel + 1) block true) ⟨.entry :: ts, seen, ns, r + 1⟩ ns.length
      ⟨ts', false, ns ++ ⟨.sequence, .sequence places⟩ :: inner, r + 1⟩ := by
  rw [node]
  refine takes_peek.bind ((takes_takeMarks rfl).bind (takes_peek.bind ?_))
  exact Takes.sequence h.forget

theorem takes_node_block {fuel : Nat} {indentless : Bool} {places : List Nat} {inner : List Node}
    {ts' : List Token}
    (h : Takes (blockItems fuel) ⟨ts, false, ns ++ [⟨.sequence, .sequence []⟩], r⟩ places
      ⟨ts', false, ns ++ ⟨.sequence, .sequence []⟩ :: inner, r⟩) :
    Takes (node (fuel + 1) true indentless) ⟨.blockSequence :: ts, seen, ns, r + 1⟩ ns.length
      ⟨ts', false, ns ++ ⟨.sequence, .sequence places⟩ :: inner, r + 1⟩ := by
  rw [node]
  refine takes_peek.bind ((takes_takeMarks rfl).bind (takes_peek.bind ?_))
  exact takes_drop.bind (Takes.sequence h)

theorem takes_node_empty {fuel : Nat} {block indentless : Bool} :
    Takes (node (fuel + 2) block indentless) ⟨.flowSequence :: .flowSequenceEnd :: ts, seen, ns, r + 1⟩
      ns.length ⟨ts, false, ns ++ [⟨.sequence, .sequence []⟩], r + 1⟩ := by
  have hitems : Takes (flowItems (fuel + 1) true)
      ⟨.flowSequenceEnd :: ts, false, ns ++ [⟨.sequence, .sequence []⟩], r⟩ []
      ⟨ts, false, ns ++ ⟨.sequence, .sequence []⟩ :: [], r⟩ := by
    rw [flowItems]
    exact takes_accept.bind (.pure _ _)
  rw [node]
  refine takes_peek.bind ((takes_takeMarks rfl).bind (takes_peek.bind ?_))
  exact takes_drop.bind (Takes.sequence hitems)

theorem takes_node_map {fuel : Nat} {indentless : Bool} {places : List (Nat × Nat)}
    {inner : List Node} {ts' : List Token}
    (h : Takes (blockEntries fuel) ⟨ts, false, ns ++ [⟨.map, .map []⟩], r⟩ places
      ⟨ts', false, ns ++ ⟨.map, .map []⟩ :: inner, r⟩) :
    Takes (node (fuel + 1) true indentless) ⟨.blockMap :: ts, seen, ns, r + 1⟩ ns.length
      ⟨ts', false, ns ++ ⟨.map, .map places⟩ :: inner, r + 1⟩ := by
  rw [node]
  refine takes_peek.bind ((takes_takeMarks rfl).bind (takes_peek.bind ?_))
  exact takes_drop.bind (Takes.map h)

/-- A node that the next token does not leave out. -/
theorem Takes.nodeUnless {fuel : Nat} {ends : List Token} {block indentless : Bool} {place : Nat}
    (ht : ends.contains t = false)
    (h : Takes (node fuel block indentless) ⟨t :: ts, false, ns, r⟩ place s₂) :
    Takes (nodeUnless (fuel + 1) ends block indentless) ⟨t :: ts, seen, ns, r⟩ place s₂ := by
  rw [Build.nodeUnless]
  refine (takes_sees ends).bind ?_
  have hsees : (t :: ts).head?.any ends.contains = false := ht
  rw [hsees, if_neg (by decide)]
  exact h.forget

/-- A text where a node may be left out. -/
theorem takes_text {fuel : Nat} {ends : List Token} {block indentless : Bool} {text : Text}
    {plain : Bool} (hends : ends.contains (.scalar text plain) = false)
    (hplain : plain = true → Tag.implicit text = .text) (hfuel : 2 ≤ fuel) :
    Takes (Build.nodeUnless fuel ends block indentless)
      ⟨.scalar text plain :: ts, seen, ns, r + 1⟩ ns.length
      ⟨ts, false, ns ++ [textNode text], r + 1⟩ := by
  obtain ⟨k, rfl⟩ := Nat.exists_eq_add_of_le' hfuel
  exact Takes.nodeUnless hends (takes_node_scalar hplain)

/-! ## Lists and maps -/

/-- The places of items from a place on, and one of them put first. -/
theorem range'_length_append {α : Type} (xs : List α) (x : α) (n : Nat) :
    xs.length :: List.range' (xs ++ [x]).length n = List.range' xs.length (n + 1) := by
  rw [List.length_append, List.range'_succ]
  rfl

/-- The nodes of a list at a place, its items behind it. -/
def listNodes (place : Nat) (ls : List Text) : List Node :=
  ⟨.sequence, .sequence (List.range' (place + 1) ls.length)⟩ :: ls.map textNode

/-- The nodes of entries from a place on: each key, its list, and the items of that. -/
def entryNodes : (place : Nat) → List (Text × List Text) → List Node
  | _, [] => []
  | place, (k, ls) :: es =>
    textNode k :: (listNodes (place + 1) ls ++ entryNodes (place + 2 + ls.length) es)

/-- The places of the keys and lists of entries. -/
def entryPlaces : (place : Nat) → List (Text × List Text) → List (Nat × Nat)
  | _, [] => []
  | place, (_, ls) :: es => (place, place + 1) :: entryPlaces (place + 2 + ls.length) es

/-- How many nodes entries have. -/
def nodeCount (es : List (Text × List Text)) : Nat := (es.map fun e => e.2.length + 2).sum

variable {ls : List Text} {column : Nat} {v : List Char}

/-- One more item of a list without indentation. -/
theorem Takes.looseItem {fuel : Nat} {text : Text} {plain : Bool} {places : List Nat}
    (hplain : plain = true → Tag.implicit text = .text) (hfuel : 2 ≤ fuel)
    (h : Takes (looseItems fuel) ⟨ts, false, ns ++ [textNode text], r + 1⟩ places s₂) :
    Takes (looseItems (fuel + 1)) ⟨.entry :: .scalar text plain :: ts, seen, ns, r + 1⟩
      (ns.length :: places) s₂ := by
  rw [looseItems]
  exact takes_accept.bind ((takes_text rfl hplain hfuel).bind (h.bind (.pure _ _)))

theorem takes_looseItems_end {fuel : Nat} (h : ts.head? ≠ some .entry) :
    Takes (looseItems (fuel + 1)) ⟨ts, seen, ns, r⟩ [] ⟨ts, true, ns, r⟩ := by
  rw [looseItems]
  exact (takes_accept_other h).bind (.pure _ _)

/-- One more item of an indented list. -/
theorem Takes.blockItem {fuel : Nat} {text : Text} {plain : Bool} {places : List Nat}
    (hplain : plain = true → Tag.implicit text = .text) (hfuel : 2 ≤ fuel)
    (h : Takes (blockItems fuel) ⟨ts, false, ns ++ [textNode text], r + 1⟩ places s₂) :
    Takes (blockItems (fuel + 1)) ⟨.entry :: .scalar text plain :: ts, seen, ns, r + 1⟩
      (ns.length :: places) s₂ := by
  rw [blockItems]
  exact takes_accept.bind ((takes_text rfl hplain hfuel).bind (h.bind (.pure _ _)))

theorem takes_blockItems_end {fuel : Nat} :
    Takes (blockItems (fuel + 1)) ⟨.blockEnd :: ts, seen, ns, r⟩ [] ⟨ts, false, ns, r⟩ := by
  rw [blockItems]
  refine (takes_accept_other (by simp)).bind ?_
  exact takes_expect.bind (.pure _ _)

theorem takes_looseItems (h : ItemLines column ls ts v) {fuel : Nat} (hfuel : ls.length + 2 ≤ fuel)
    {rest : List Token} (hrest : rest.head? ≠ some .entry) :
    Takes (looseItems fuel) ⟨ts ++ rest, seen, ns, r + 1⟩ (List.range' ns.length ls.length)
      ⟨rest, true, ns ++ ls.map textNode, r + 1⟩ := by
  induction h generalizing fuel ns seen with
  | last hw =>
      obtain ⟨k, rfl⟩ : ∃ k, fuel = k + 3 := Nat.exists_eq_add_of_le' hfuel
      exact Takes.looseItem hw.implicit (by omega) (takes_looseItems_end hrest)
  | @more t plain w ls ts v hw h ih =>
      obtain ⟨k, rfl⟩ : ∃ k, fuel = k + 1 := Nat.exists_eq_add_of_le' (by omega)
      have hk : ls.length + 2 ≤ k := Nat.le_of_succ_le_succ hfuel
      have hrec : Takes (looseItems k) ⟨ts ++ rest, false, ns ++ [textNode t], r + 1⟩ _ _ := ih hk
      have hitems : Takes (looseItems (k + 1))
          ⟨.entry :: .scalar t plain :: (ts ++ rest), seen, ns, r + 1⟩ _ _ :=
        Takes.looseItem hw.implicit (by omega) hrec
      rwa [range'_length_append, List.append_assoc] at hitems

theorem takes_blockItems (h : ItemLines column ls ts v) {fuel : Nat} (hfuel : ls.length + 2 ≤ fuel)
    {rest : List Token} :
    Takes (blockItems fuel) ⟨ts ++ .blockEnd :: rest, seen, ns, r + 1⟩
      (List.range' ns.length ls.length) ⟨rest, false, ns ++ ls.map textNode, r + 1⟩ := by
  induction h generalizing fuel ns seen with
  | last hw =>
      obtain ⟨k, rfl⟩ : ∃ k, fuel = k + 3 := Nat.exists_eq_add_of_le' hfuel
      exact Takes.blockItem hw.implicit (by omega) takes_blockItems_end
  | @more t plain w ls ts v hw h ih =>
      obtain ⟨k, rfl⟩ : ∃ k, fuel = k + 1 := Nat.exists_eq_add_of_le' (by omega)
      have hk : ls.length + 2 ≤ k := Nat.le_of_succ_le_succ hfuel
      have hrec : Takes (blockItems k)
          ⟨ts ++ .blockEnd :: rest, false, ns ++ [textNode t], r + 1⟩ _ _ := ih hk
      have hitems : Takes (blockItems (k + 1))
          ⟨.entry :: .scalar t plain :: (ts ++ .blockEnd :: rest), seen, ns, r + 1⟩ _ _ :=
        Takes.blockItem hw.implicit (by omega) hrec
      rwa [range'_length_append, List.append_assoc] at hitems

/-- The tokens that end a key or a value of a map. -/
def entryEnds : List Token := [.key, .value, .blockEnd]

/-- The list behind a key. -/
theorem takes_valueUnless {apart : Bool} {w : List Char} (h : ValueLines apart ls ts w) {fuel : Nat}
    (hfuel : ls.length + 5 ≤ fuel) {rest : List Token} (hrest : rest.head? ≠ some .entry) :
    Takes (valueUnless fuel entryEnds true true) ⟨.value :: (ts ++ rest), seen, ns, r + 2⟩ ns.length
      ⟨rest, false, ns ++ listNodes ns.length ls, r + 2⟩ := by
  obtain ⟨k, rfl⟩ : ∃ k, fuel = k + 3 := Nat.exists_eq_add_of_le' (by omega)
  have hk : ls.length + 2 ≤ k := by omega
  have hlength {node : Node} : (ns ++ [node]).length = ns.length + 1 := by simp
  rw [valueUnless]
  refine takes_accept.bind ?_
  rw [if_pos rfl]
  -- one case for each way in which a list is written; the nodes are the same
  cases h with
  | empty =>
      obtain ⟨k, rfl⟩ : ∃ j, k = j + 1 := Nat.exists_eq_add_of_le' (by omega)
      exact Takes.nodeUnless rfl takes_node_empty
  | loose h =>
      have hloose : Takes (looseItems k)
          ⟨_ ++ rest, false, ns ++ [⟨.sequence, .sequence []⟩], r + 1⟩ _ _ :=
        takes_looseItems h hk hrest
      have hitems := hloose.unseen
      rw [hlength, List.append_assoc] at hitems
      obtain ⟨ts', rfl⟩ := h.tokens
      exact Takes.nodeUnless rfl (takes_node_loose hitems)
  | @nested _ ts _ h =>
      have hitems : Takes (blockItems k)
          ⟨ts ++ .blockEnd :: rest, false, ns ++ [⟨.sequence, .sequence []⟩], r + 1⟩ _ _ :=
        takes_blockItems h hk
      rw [hlength, List.append_assoc] at hitems
      rw [List.cons_append, List.append_assoc]
      exact Takes.nodeUnless rfl (takes_node_block hitems)

/-- One more entry of a map. -/
theorem Takes.entry {fuel : Nat} {key : Text} {plain : Bool} {place : Nat}
    {places : List (Nat × Nat)} (hplain : plain = true → Tag.implicit key = .text) (hfuel : 2 ≤ fuel)
    (hvalue : Takes (valueUnless fuel entryEnds true true) ⟨ts, false, ns ++ [textNode key], r + 1⟩
      place s₁)
    (h : Takes (blockEntries fuel) s₁ places s₂) :
    Takes (blockEntries (fuel + 1)) ⟨.key :: .scalar key plain :: ts, seen, ns, r + 1⟩
      ((ns.length, place) :: places) s₂ := by
  rw [blockEntries]
  exact takes_accept.bind ((takes_text rfl hplain hfuel).bind
    (hvalue.bind (h.bind (.pure _ _))))

theorem takes_blockEntries_end {fuel : Nat} :
    Takes (blockEntries (fuel + 1)) ⟨.blockEnd :: ts, seen, ns, r⟩ [] ⟨ts, false, ns, r⟩ := by
  rw [blockEntries]
  refine (takes_accept_other (by simp)).bind ?_
  exact takes_expect.bind (.pure _ _)

theorem takes_blockEntries {es : List (Text × List Text)} (h : EntryLines es ts v) {fuel : Nat}
    (hfuel : nodeCount es + 6 ≤ fuel) {rest : List Token} :
    Takes (blockEntries fuel) ⟨ts ++ .blockEnd :: rest, seen, ns, r + 2⟩
      (entryPlaces ns.length es) ⟨rest, false, ns ++ entryNodes ns.length es, r + 2⟩ := by
  induction h generalizing fuel ns seen with
  | nil =>
      obtain ⟨k, rfl⟩ : ∃ k, fuel = k + 1 := Nat.exists_eq_add_of_le' (by omega)
      simpa [entryPlaces, entryNodes] using takes_blockEntries_end
  | @cons k ls es apart plain ts us v w x hkey hvalue h ih =>
      obtain ⟨j, rfl⟩ : ∃ j, fuel = j + 1 := Nat.exists_eq_add_of_le' (by omega)
      have hj : nodeCount es + ls.length + 2 + 6 ≤ j + 1 := by
        simp only [nodeCount, List.map_cons, List.sum_cons] at hfuel ⊢
        omega
      have hrest : (us ++ .blockEnd :: rest).head? ≠ some .entry := by
        cases h <;> simp
      have hvalue' : Takes (valueUnless j entryEnds true true)
          ⟨.value :: (ts ++ (us ++ .blockEnd :: rest)), false, ns ++ [textNode k], r + 2⟩ _ _ :=
        takes_valueUnless hvalue (by omega) hrest
      have hlast : Takes (blockEntries j) ⟨us ++ .blockEnd :: rest, false,
          ns ++ [textNode k] ++ listNodes (ns ++ [textNode k]).length ls, r + 2⟩ _ _ :=
        ih (by omega)
      have hentries : Takes (blockEntries (j + 1)) ⟨_, seen, ns, r + 2⟩ _ _ :=
        Takes.entry hkey.implicit (by omega) hvalue' hlast
      -- the places of the entries behind this one are counted from the nodes before them
      have hlength : (ns ++ [textNode k]).length = ns.length + 1 := by simp
      have hall : (ns ++ [textNode k] ++ listNodes (ns.length + 1) ls).length =
          ns.length + 2 + ls.length := by
        simp [listNodes]
        omega
      rw [hlength, hall] at hentries
      simpa [entryPlaces, entryNodes] using hentries

/-! ## Documents -/

theorem takes_documentEnds {fuel : Nat} (h : ts.head? ≠ some .documentEnd) :
    Takes (documentEnds (fuel + 1)) ⟨ts, seen, ns, r⟩ () ⟨ts, true, ns, r⟩ := by
  rw [documentEnds]
  exact (takes_accept_other h).bind (.pure _ _)

/-- The nodes of a document that is a map of lists of texts. -/
def documentNodes (es : List (Text × List Text)) : List Node :=
  ⟨.map, .map (entryPlaces 1 es)⟩ :: entryNodes 1 es

theorem takes_document {es : List (Text × List Text)} (h : EntryLines es ts v) {fuel : Nat}
    (hfuel : nodeCount es + 7 ≤ fuel) :
    Takes (document fuel) ⟨.blockMap :: ts ++ [.blockEnd], false, [], r + 3⟩ (some 0)
      ⟨[], true, documentNodes es, r + 3⟩ := by
  obtain ⟨k, rfl⟩ : ∃ k, fuel = k + 1 := Nat.exists_eq_add_of_le' (by omega)
  have hentries : Takes (blockEntries k) ⟨ts ++ [.blockEnd], false, [⟨.map, .map []⟩], r + 2⟩ _ _ :=
    takes_blockEntries h (by omega)
  have hnode : Takes (node (k + 1) true false) ⟨.blockMap :: ts ++ [.blockEnd], true, [], r + 3⟩ _ _ :=
    takes_node_map hentries
  have hhandles : Takes (modify fun f => { f with handles := usualHandles })
      ⟨.blockMap :: ts ++ [.blockEnd], true, [], r + 3⟩ ()
      ⟨.blockMap :: ts ++ [.blockEnd], true, [], r + 3⟩ :=
    fun f hf => ⟨_, rfl, hf.feeds, hf.ready, hf.nodes, hf.room⟩
  refine takes_peek.bind ?_
  refine hhandles.bind (hnode.bind ?_)
  exact (takes_documentEnds (by simp)).bind (takes_peek.bind (.pure _ _))

end

end Build

open Build

/-- Every node takes a character. -/
theorem nodeCount_le {es : List (Text × List Text)} {ts : List Token} {v : List Char}
    (h : EntryLines es ts v) : nodeCount es ≤ v.length := by
  induction h with
  | nil => exact Nat.le_refl 0
  | @cons k ls es apart plain ts us v w x hkey hvalue h ih =>
      have hk : 1 ≤ v.length := hkey.length_pos
      have hls := hvalue.length_le
      simp only [nodeCount, List.map_cons, List.sum_cons] at ih ⊢
      simp only [List.length_append, List.length_cons]
      omega

/-- **The nodes of the text of a map of lists of texts.** -/
theorem Graph.ofText_entryLines {es : List (Text × List Text)} {ts : List Token} {v : List Char}
    (h : EntryLines es ts v) (hes : es ≠ []) (hmark : v.head? ≠ some '\uFEFF') {levels : Nat}
    (hlevels : 3 ≤ levels) :
    Graph.ofText levels v = .ok (some ⟨(documentNodes es).toArray, 0⟩) := by
  obtain ⟨r, rfl⟩ := Nat.exists_eq_add_of_le' hlevels
  have hfuel : nodeCount es + 7 ≤ stepsPerCharacter * (v.length + 2) := by
    have hle := nodeCount_le h
    unfold stepsPerCharacter
    omega
  obtain ⟨f, hrun, hf⟩ := takes_document (r := r) h hfuel ⟨Scanner.start v, #[], [], [], r + 3⟩
    ⟨Scanner.feeds_entryLines h hes hmark, by simp, rfl, rfl⟩
  have hnodes : f.nodes = (documentNodes es).toArray := Array.toList_inj.mp hf.nodes
  unfold Graph.ofText
  dsimp only
  rw [hrun]
  show Except.ok (some _) = _
  rw [hnodes]

end Casebook.Yaml

import Casebook.Proofs.Json.String

/-!
# Values in JSON and back

Values that are made of texts come back from their JSON, in any shape and whatever follows them.
Main statement: `read_write`.
-/

namespace Casebook.Json

/-- The entries of a map whose keys are texts. -/
def ofTexts (entries : List (Text × Value)) : List (Value × Value) :=
  entries.map fun e => (.text e.1, e.2)

/-- Values of null and texts, with at most so many lists and maps inside of each other. The keys of
a map are texts, each of them once, and no text has halves of surrogate pairs. -/
inductive IsTextual : (room : Nat) → Value → Prop
  | null {room : Nat} : IsTextual room .null
  | text {room : Nat} {t : Text} (h : t.hasHalves = false) : IsTextual room (.text t)
  | list {room : Nat} {items : List Value} (h : ∀ v ∈ items, IsTextual room v) :
      IsTextual (room + 1) (.list items)
  | map {room : Nat} {entries : List (Text × Value)} (hdistinct : (entries.map Prod.fst).Nodup)
      (hkeys : ∀ e ∈ entries, e.1.hasHalves = false) (h : ∀ e ∈ entries, IsTextual room e.2) :
      IsTextual (room + 1) (.map (ofTexts entries))

/-! ## Blanks -/

theorem skip_break (shape : Shape) (cs : List Char) : skip (shape.break ++ cs) = skip cs := by
  cases shape with
  | line => rfl
  | block level =>
      have hblank : ∀ c ∈ Shape.break (.block level), isSpace c = true := by
        intro c hc
        rcases List.mem_cons.mp hc with rfl | hc
        · rfl
        · rw [(List.mem_replicate.mp hc).2]
          rfl
      exact List.dropWhile_append_of_pos hblank

theorem skip_colon (shape : Shape) (cs : List Char) :
    ∃ after, skip (shape.colon ++ cs) = ':' :: after ∧ skip after = skip cs := by
  cases shape with
  | line => exact ⟨cs, rfl, rfl⟩
  | block level => exact ⟨' ' :: cs, rfl, rfl⟩

theorem skip_of_not_isSpace {c : Char} (h : isSpace c = false) (cs : List Char) :
    skip (c :: cs) = c :: cs :=
  List.dropWhile_cons_of_neg (by rw [h]; exact Bool.false_ne_true)

/-! ## Brackets -/

/-- What is written behind the first part of a list or map. -/
def behind (shape : Shape) (closing : Char) : List (List Char) → List Char
  | [] => shape.break ++ [closing]
  | part :: parts => ',' :: (shape.inner.break ++ part ++ behind shape closing parts)

theorem bracketed_cons (shape : Shape) (opening closing : Char) (part : List Char)
    (parts : List (List Char)) :
    bracketed shape opening closing (part :: parts) =
      opening :: (shape.inner.break ++ part ++ behind shape closing parts) := by
  have hbehind : ∀ part, [','].intercalate ((part :: parts).map (shape.inner.break ++ ·)) ++
      (shape.break ++ [closing]) = shape.inner.break ++ part ++ behind shape closing parts := by
    induction parts with
    | nil =>
        intro part
        rw [List.map_cons, List.map_nil, List.intercalate_singleton]
        rfl
    | cons next parts ih =>
        intro part
        rw [List.map_cons, List.intercalate_cons_of_ne_nil (by simp), List.append_assoc, ih next,
          List.append_assoc]
        rfl
  show opening :: ([','].intercalate _ ++ shape.break ++ [closing]) = _
  rw [List.append_assoc, hbehind]

theorem length_behind_cons (shape : Shape) (closing : Char) (part : List Char)
    (parts : List (List Char)) : (behind shape closing (part :: parts)).length =
      shape.inner.break.length + part.length + (behind shape closing parts).length + 1 := by
  show (shape.inner.break ++ part ++ behind shape closing parts).length + 1 = _
  rw [List.length_append, List.length_append]

theorem length_behind_pos (shape : Shape) (closing : Char) (parts : List (List Char)) :
    0 < (behind shape closing parts).length := by
  cases parts with
  | nil => simp [behind]
  | cons part parts => exact Nat.succ_pos _

theorem skip_behind_nil (shape : Shape) {closing : Char} (h : isSpace closing = false)
    (rest : List Char) : skip (behind shape closing [] ++ rest) = closing :: rest := by
  show skip (shape.break ++ [closing] ++ rest) = _
  rw [List.append_assoc, skip_break]
  exact skip_of_not_isSpace h rest

theorem skip_behind_cons (shape : Shape) (closing : Char) (part : List Char)
    (parts : List (List Char)) (rest : List Char) :
    skip (behind shape closing (part :: parts) ++ rest) =
      ',' :: (shape.inner.break ++ (part ++ (behind shape closing parts ++ rest))) := by
  show skip (',' :: (shape.inner.break ++ part ++ behind shape closing parts) ++ rest) = _
  rw [List.cons_append, skip_of_not_isSpace (by decide)]
  simp only [List.append_assoc]

/-- The part begins with a character that is no blank. -/
def IsFlush (part : List Char) : Prop := ∃ c cs, part = c :: cs ∧ isSpace c = false

theorem skip_part (shape : Shape) {part : List Char} (h : IsFlush part) (rest : List Char) :
    skip (shape.break ++ (part ++ rest)) = part ++ rest := by
  obtain ⟨c, cs, rfl, hspace⟩ := h
  rw [skip_break]
  exact skip_of_not_isSpace hspace _

theorem exists_bracketed_eq_cons (shape : Shape) (opening closing : Char)
    (parts : List (List Char)) : ∃ cs, bracketed shape opening closing parts = opening :: cs := by
  cases parts with
  | nil => exact ⟨_, rfl⟩
  | cons part parts => exact ⟨_, bracketed_cons ..⟩

/-- A value begins with a character that is neither a blank nor a closing bracket, nor the mark
that is refused in front of a document. -/
theorem exists_write_eq_cons {room : Nat} {v : Value} (h : IsTextual room v) (shape : Shape) :
    ∃ c cs, write shape v = c :: cs ∧ isSpace c = false ∧ c ≠ ']' ∧ c ≠ '\uFEFF' := by
  cases h with
  | null => exact ⟨'n', _, rfl, by decide, by decide, by decide⟩
  | text _ => exact ⟨'"', _, rfl, by decide, by decide, by decide⟩
  | @list _ items _ =>
      obtain ⟨cs, hcs⟩ := exists_bracketed_eq_cons shape '[' ']' (writeItems shape.inner items)
      exact ⟨'[', cs, by rw [write, hcs], by decide, by decide, by decide⟩
  | @map _ entries _ _ _ =>
      obtain ⟨cs, hcs⟩ := exists_bracketed_eq_cons shape '{' '}'
        (writeEntries shape.inner (ofTexts entries))
      exact ⟨'{', cs, by rw [write, hcs], by decide, by decide, by decide⟩

theorem IsTextual.isFlush {room : Nat} {v : Value} (h : IsTextual room v) (shape : Shape) :
    IsFlush (write shape v) := by
  obtain ⟨c, cs, hcs, hspace, -⟩ := exists_write_eq_cons h shape
  exact ⟨c, cs, hcs, hspace⟩

/-! ## Steps of reading -/

section
variable {fuel room : Nat} {cs rest after : List Char} {c : Char}

theorem readValue_null : readValue (fuel + 1) room ("null".toList ++ rest) = .ok (.null, rest) := by
  have hword : readWord? ("null".toList ++ rest) = some (.null, rest) := rfl
  have hshape : "null".toList ++ rest = 'n' :: 'u' :: 'l' :: 'l' :: rest := rfl
  rw [hshape] at hword ⊢
  rw [readValue, hword]
  all_goals simp

theorem readValue_text {t : Text} (h : t.hasHalves = false) :
    readValue (fuel + 1) room (writeString t ++ rest) = .ok (.text t, rest) := by
  obtain ⟨inner, hinner, hread⟩ := readString_written h (writeString t ++ rest) rest
  rw [hinner] at hread ⊢
  rw [readValue, hread]
  rfl

/-- What stands behind an opening bracket is an empty list, or the first item is read next. -/
theorem readValue_bracket : readValue (fuel + 1) (room + 1) ('[' :: cs) =
    match skip cs with
    | ']' :: after => .ok (.list [], after)
    | next => readItems fuel room [] next := by
  rw [readValue, if_neg (Nat.succ_ne_zero room)]
  rfl

theorem readValue_emptyList (h : skip cs = ']' :: after) :
    readValue (fuel + 1) (room + 1) ('[' :: cs) = .ok (.list [], after) := by
  rw [readValue_bracket, h]
  rfl

theorem readValue_items (h : skip cs = c :: after) (hc : c ≠ ']') :
    readValue (fuel + 1) (room + 1) ('[' :: cs) = readItems fuel room [] (c :: after) := by
  rw [readValue_bracket, h]
  split
  · next heq => exact absurd (List.cons.inj heq).1 hc
  · rfl

/-- What stands behind an opening brace is an empty map, or the first entry is read next. -/
theorem readValue_brace : readValue (fuel + 1) (room + 1) ('{' :: cs) =
    match skip cs with
    | '}' :: after => .ok (.map [], after)
    | next => readEntries fuel room [] next := by
  rw [readValue, if_neg (Nat.succ_ne_zero room)]
  rfl

theorem readValue_emptyMap (h : skip cs = '}' :: after) :
    readValue (fuel + 1) (room + 1) ('{' :: cs) = .ok (.map [], after) := by
  rw [readValue_brace, h]
  rfl

theorem readValue_entries (h : skip cs = c :: after) (hc : c ≠ '}') :
    readValue (fuel + 1) (room + 1) ('{' :: cs) = readEntries fuel room [] (c :: after) := by
  rw [readValue_brace, h]
  split
  · next heq => exact absurd (List.cons.inj heq).1 hc
  · rfl

/-- Behind an item the list ends, or a comma leads to the next item. -/
theorem readItems_item {before : List Value} {v : Value}
    (hv : readValue fuel room cs = .ok (v, rest)) :
    readItems (fuel + 1) room before cs =
      match skip rest with
      | ']' :: after => .ok (.list (before ++ [v]), after)
      | ',' :: after => readItems fuel room (before ++ [v]) (skip after)
      | next => .error ⟨.comma, next⟩ := by
  rw [readItems, hv]
  rfl

theorem readItems_last {before : List Value} {v : Value} (hv : readValue fuel room cs = .ok (v, rest))
    (h : skip rest = ']' :: after) :
    readItems (fuel + 1) room before cs = .ok (.list (before ++ [v]), after) := by
  rw [readItems_item hv, h]
  rfl

theorem readItems_next {before : List Value} {v : Value} (hv : readValue fuel room cs = .ok (v, rest))
    (h : skip rest = ',' :: after) :
    readItems (fuel + 1) room before cs = readItems fuel room (before ++ [v]) (skip after) := by
  rw [readItems_item hv, h]
  rfl

section
variable {before : List (Value × Value)} {inner behindColon : List Char} {key : Text} {v : Value}

/-- What is read of one entry: its key, its value, and what follows it. -/
def ReadsEntry (fuel room : Nat) (cs : List Char) (key : Text) (v : Value) (rest : List Char) :
    Prop :=
  ∃ inner behindKey behindColon, cs = '"' :: inner ∧
    readString cs inner = .ok (key.points, behindKey) ∧ skip behindKey = ':' :: behindColon ∧
    readValue fuel room (skip behindColon) = .ok (v, rest)

/-- Behind an entry the map ends, or a comma leads to the next entry. -/
theorem readEntries_entry (h : ReadsEntry fuel room cs key v rest) :
    readEntries (fuel + 1) room before cs =
      match skip rest with
      | '}' :: after => .ok (.map (Value.putEntry before (.text key) v), after)
      | ',' :: after => readEntries fuel room (Value.putEntry before (.text key) v) (skip after)
      | next => .error ⟨.comma, next⟩ := by
  obtain ⟨inner, behindKey, behindColon, rfl, hkey, hcolon, hv⟩ := h
  rw [readEntries, hkey]
  simp only [Bind.bind, Except.bind]
  rw [hcolon]
  simp only
  rw [hv]
  rfl

theorem readEntries_last (h : ReadsEntry fuel room cs key v rest) (hlast : skip rest = '}' :: after) :
    readEntries (fuel + 1) room before cs =
      .ok (.map (Value.putEntry before (.text key) v), after) := by
  rw [readEntries_entry h, hlast]
  rfl

theorem readEntries_next (h : ReadsEntry fuel room cs key v rest) (hnext : skip rest = ',' :: after) :
    readEntries (fuel + 1) room before cs =
      readEntries fuel room (Value.putEntry before (.text key) v) (skip after) := by
  rw [readEntries_entry h, hnext]
  rfl

end

end

/-! ## Values -/

/-- The value is read back from its text in any shape. -/
def IsReadBack (room : Nat) (v : Value) : Prop :=
  ∀ shape fuel rest, (write shape v).length ≤ fuel →
    readValue fuel room (write shape v ++ rest) = .ok (v, rest)

theorem readItems_written {room : Nat} {v : Value} {items : List Value} (shape : Shape)
    (htextual : ∀ u ∈ v :: items, IsTextual room u) (hback : ∀ u ∈ v :: items, IsReadBack room u)
    {before : List Value} {fuel : Nat} {rest : List Char}
    (hfuel : (write shape.inner v).length +
      (behind shape ']' (writeItems shape.inner items)).length ≤ fuel + 1) :
    readItems (fuel + 1) room before
      (write shape.inner v ++ (behind shape ']' (writeItems shape.inner items) ++ rest)) =
        .ok (.list (before ++ v :: items), rest) := by
  obtain ⟨hv, hrest⟩ := List.forall_mem_cons.mp hback
  have hbehind := length_behind_pos shape ']' (writeItems shape.inner items)
  have hfirst := hv shape.inner fuel (behind shape ']' (writeItems shape.inner items) ++ rest)
    (by omega)
  induction items generalizing v before fuel with
  | nil => exact readItems_last hfirst (skip_behind_nil shape (by decide) rest)
  | cons next items ih =>
      have hlength : (behind shape ']' (writeItems shape.inner (next :: items))).length = _ :=
        length_behind_cons shape ']' (write shape.inner next) (writeItems shape.inner items)
      have htextual' := fun u hu => htextual u (List.mem_cons_of_mem v hu)
      have hflush := (htextual' next List.mem_cons_self).isFlush shape.inner
      have hpos := length_behind_pos shape ']' (writeItems shape.inner items)
      obtain ⟨fuel, rfl⟩ := Nat.exists_eq_succ_of_ne_zero (n := fuel) (by omega)
      obtain ⟨hnext, hothers⟩ := List.forall_mem_cons.mp hrest
      rw [readItems_next hfirst (skip_behind_cons ..), skip_part shape.inner hflush,
        ih htextual' hrest (by omega) hnext hothers hpos (hnext shape.inner fuel _ (by omega)),
        List.append_assoc]
      rfl

/-! ## Maps -/

/-- What is written for an entry of a map. -/
def entryText (shape : Shape) (e : Text × Value) : List Char :=
  writeString e.1 ++ shape.colon ++ write shape e.2

theorem isFlush_entryText (shape : Shape) (e : Text × Value) : IsFlush (entryText shape e) :=
  ⟨'"', _, rfl, by decide⟩

theorem length_write_lt (shape : Shape) (e : Text × Value) :
    (write shape e.2).length < (entryText shape e).length := by
  unfold entryText writeString
  simp only [List.length_append, List.length_cons]
  omega

theorem readsEntry_written {room fuel : Nat} {shape : Shape} {e : Text × Value}
    (hkey : e.1.hasHalves = false) (htextual : IsTextual room e.2) (hback : IsReadBack room e.2)
    (hfuel : (write shape e.2).length ≤ fuel) (rest : List Char) :
    ReadsEntry fuel room (entryText shape e ++ rest) e.1 e.2 rest := by
  obtain ⟨inner, hinner, hread⟩ := readString_written hkey (entryText shape e ++ rest)
    (shape.colon ++ (write shape e.2 ++ rest))
  obtain ⟨behindColon, hcolon, hskip⟩ := skip_colon shape (write shape e.2 ++ rest)
  refine ⟨inner, _, behindColon, ?_, hread, hcolon, ?_⟩
  · rw [← hinner]
    unfold entryText
    simp only [List.append_assoc]
  · obtain ⟨c, cs, hcs, hspace, -⟩ := exists_write_eq_cons htextual shape
    have hvalue := hback shape fuel rest hfuel
    rw [hskip]
    rw [hcs] at hvalue ⊢
    rw [List.cons_append, skip_of_not_isSpace hspace]
    exact hvalue

theorem putEntry_ofTexts {entries : List (Text × Value)} {key : Text}
    (hkey : key ∉ entries.map Prod.fst) (v : Value) :
    Value.putEntry (ofTexts entries) (.text key) v = ofTexts (entries ++ [(key, v)]) := by
  have hany : ¬ (ofTexts entries).any (fun e => Value.sameKey e.1 (.text key)) = true := by
    rw [List.any_eq_true]
    rintro ⟨e, he, hsame⟩
    obtain ⟨⟨t, u⟩, hmem, rfl⟩ := List.mem_map.mp he
    have heq : t = key := beq_iff_eq.mp hsame
    exact hkey (heq ▸ List.mem_map_of_mem hmem)
  unfold Value.putEntry
  rw [if_neg hany]
  unfold ofTexts
  rw [List.map_append]
  rfl

theorem readEntries_written {room : Nat} {e : Text × Value} {entries : List (Text × Value)}
    (shape : Shape) (hkeys : ∀ f ∈ e :: entries, f.1.hasHalves = false)
    (htextual : ∀ f ∈ e :: entries, IsTextual room f.2)
    (hback : ∀ f ∈ e :: entries, IsReadBack room f.2) {before : List (Text × Value)}
    (hdistinct : ((before ++ e :: entries).map Prod.fst).Nodup) {fuel : Nat} {rest : List Char}
    (hfuel : (entryText shape.inner e).length +
      (behind shape '}' (entries.map (entryText shape.inner))).length ≤ fuel + 1) :
    readEntries (fuel + 1) room (ofTexts before)
      (entryText shape.inner e ++
        (behind shape '}' (entries.map (entryText shape.inner)) ++ rest)) =
        .ok (.map (ofTexts (before ++ e :: entries)), rest) := by
  have hlt := length_write_lt shape.inner e
  have hpos := length_behind_pos shape '}' (entries.map (entryText shape.inner))
  have hentry : ReadsEntry fuel room (entryText shape.inner e ++
      (behind shape '}' (entries.map (entryText shape.inner)) ++ rest)) e.1 e.2
      (behind shape '}' (entries.map (entryText shape.inner)) ++ rest) :=
    readsEntry_written (hkeys e List.mem_cons_self) (htextual e List.mem_cons_self)
      (hback e List.mem_cons_self) (by omega) _
  have hnew : e.1 ∉ before.map Prod.fst := by
    rw [List.map_append, List.map_cons] at hdistinct
    exact fun hmem => List.disjoint_of_nodup_append hdistinct hmem List.mem_cons_self
  induction entries generalizing e before fuel with
  | nil => rw [readEntries_last hentry (skip_behind_nil shape (by decide) rest), putEntry_ofTexts hnew]
  | cons next entries ih =>
      have hlength : (behind shape '}' ((next :: entries).map (entryText shape.inner))).length = _ :=
        length_behind_cons shape '}' (entryText shape.inner next) _
      have hlt' := length_write_lt shape.inner next
      obtain ⟨fuel, rfl⟩ := Nat.exists_eq_succ_of_ne_zero (n := fuel) (by omega)
      have hback' := fun f hf => hback f (List.mem_cons_of_mem e hf)
      have htextual' := fun f hf => htextual f (List.mem_cons_of_mem e hf)
      have hkeys' := fun f hf => hkeys f (List.mem_cons_of_mem e hf)
      have hmoved : before ++ e :: next :: entries = (before ++ [e]) ++ next :: entries := by
        rw [List.append_assoc]
        rfl
      rw [hmoved] at hdistinct ⊢
      have hnext : next.1 ∉ (before ++ [e]).map Prod.fst := by
        rw [List.map_append, List.map_cons] at hdistinct
        exact fun hmem => List.disjoint_of_nodup_append hdistinct hmem List.mem_cons_self
      have hpos' := length_behind_pos shape '}' (entries.map (entryText shape.inner))
      rw [readEntries_next hentry (skip_behind_cons ..), skip_part shape.inner
        (isFlush_entryText shape.inner next), putEntry_ofTexts hnew]
      exact ih hkeys' htextual' hback' hdistinct (by omega) hlt' hpos'
        (readsEntry_written (hkeys' next List.mem_cons_self) (htextual' next List.mem_cons_self)
          (hback' next List.mem_cons_self) (by omega) _) hnext

/-! ## Any value -/

theorem readValue_list {room : Nat} {v : Value} {items : List Value} (shape : Shape)
    (htextual : ∀ u ∈ v :: items, IsTextual room u) (hback : ∀ u ∈ v :: items, IsReadBack room u)
    {fuel : Nat} {rest : List Char}
    (hfuel : (bracketed shape '[' ']' (writeItems shape.inner (v :: items))).length ≤ fuel) :
    readValue fuel (room + 1)
      (bracketed shape '[' ']' (writeItems shape.inner (v :: items)) ++ rest) =
        .ok (.list (v :: items), rest) := by
  rw [writeItems, bracketed_cons] at hfuel ⊢
  simp only [List.length_cons, List.length_append] at hfuel
  have hpos := length_behind_pos shape ']' (writeItems shape.inner items)
  obtain ⟨fuel, rfl⟩ := Nat.exists_eq_succ_of_ne_zero (n := fuel) (by omega)
  obtain ⟨fuel, rfl⟩ := Nat.exists_eq_succ_of_ne_zero (n := fuel) (by omega)
  obtain ⟨c, cs, hcs, hspace, hc, -⟩ :=
    exists_write_eq_cons (htextual v List.mem_cons_self) shape.inner
  have hskip := skip_part shape.inner ⟨c, cs, hcs, hspace⟩
    (behind shape ']' (writeItems shape.inner items) ++ rest)
  have hread : readItems (fuel + 1) room [] (write shape.inner v ++
      (behind shape ']' (writeItems shape.inner items) ++ rest)) = .ok (.list (v :: items), rest) :=
    readItems_written shape htextual hback (by omega)
  rw [← hread, List.cons_append, List.append_assoc, List.append_assoc]
  rw [hcs] at hskip ⊢
  exact readValue_items hskip hc

theorem readValue_map {room : Nat} {e : Text × Value} {entries : List (Text × Value)}
    (shape : Shape) (hkeys : ∀ f ∈ e :: entries, f.1.hasHalves = false)
    (htextual : ∀ f ∈ e :: entries, IsTextual room f.2)
    (hback : ∀ f ∈ e :: entries, IsReadBack room f.2)
    (hdistinct : ((e :: entries).map Prod.fst).Nodup) {fuel : Nat} {rest : List Char}
    (hfuel : (bracketed shape '{' '}' ((e :: entries).map (entryText shape.inner))).length ≤ fuel) :
    readValue fuel (room + 1)
      (bracketed shape '{' '}' ((e :: entries).map (entryText shape.inner)) ++ rest) =
        .ok (.map (ofTexts (e :: entries)), rest) := by
  rw [List.map_cons, bracketed_cons] at hfuel ⊢
  simp only [List.length_cons, List.length_append] at hfuel
  have hpos := length_behind_pos shape '}' (entries.map (entryText shape.inner))
  obtain ⟨fuel, rfl⟩ := Nat.exists_eq_succ_of_ne_zero (n := fuel) (by omega)
  obtain ⟨fuel, rfl⟩ := Nat.exists_eq_succ_of_ne_zero (n := fuel) (by omega)
  have hskip := skip_part shape.inner (isFlush_entryText shape.inner e)
    (behind shape '}' (entries.map (entryText shape.inner)) ++ rest)
  have hread : readEntries (fuel + 1) room (ofTexts []) (entryText shape.inner e ++
      (behind shape '}' (entries.map (entryText shape.inner)) ++ rest)) =
        .ok (.map (ofTexts (e :: entries)), rest) :=
    readEntries_written shape hkeys htextual hback hdistinct (by omega)
  rw [← hread, List.cons_append, List.append_assoc, List.append_assoc]
  exact readValue_entries hskip (by decide)

theorem writeEntries_ofTexts (shape : Shape) (entries : List (Text × Value)) :
    writeEntries shape (ofTexts entries) = entries.map (entryText shape) := by
  induction entries with
  | nil => rfl
  | cons e entries ih =>
      show _ :: writeEntries shape (ofTexts entries) = _
      rw [ih]
      rfl

/-- **Values of texts are read back from their JSON**, in any shape. -/
theorem readValue_written {room : Nat} {v : Value} (h : IsTextual room v) : IsReadBack room v := by
  induction h with
  | null =>
      intro shape fuel rest hfuel
      obtain ⟨fuel, rfl⟩ := Nat.exists_eq_succ_of_ne_zero (n := fuel) (by rintro rfl; cases hfuel)
      exact readValue_null
  | text htext =>
      intro shape fuel rest hfuel
      obtain ⟨fuel, rfl⟩ := Nat.exists_eq_succ_of_ne_zero (n := fuel) (by rintro rfl; cases hfuel)
      exact readValue_text htext
  | @list room items hitems ih =>
      intro shape fuel rest hfuel
      rw [write] at hfuel ⊢
      cases items with
      | nil =>
          obtain ⟨fuel, rfl⟩ :=
            Nat.exists_eq_succ_of_ne_zero (n := fuel) (by rintro rfl; cases hfuel)
          exact readValue_emptyList (skip_of_not_isSpace (by decide) rest)
      | cons v items => exact readValue_list shape hitems ih hfuel
  | @map room entries hdistinct hkeys hvalues ih =>
      intro shape fuel rest hfuel
      have hwrite : write shape (.map (ofTexts entries)) =
          bracketed shape '{' '}' (entries.map (entryText shape.inner)) := by
        rw [write, writeEntries_ofTexts]
      show readValue fuel (room + 1) (write shape (.map (ofTexts entries)) ++ rest) = _
      replace hfuel := hwrite ▸ hfuel
      rw [hwrite]
      cases entries with
      | nil =>
          obtain ⟨fuel, rfl⟩ :=
            Nat.exists_eq_succ_of_ne_zero (n := fuel) (by rintro rfl; cases hfuel)
          exact readValue_emptyMap (skip_of_not_isSpace (by decide) rest)
      | cons e entries => exact readValue_map shape hkeys hvalues ih hdistinct hfuel

/-! ## Documents -/

theorem itemRefusal?_eq_none {labels : List Nat} {room : Nat} {items : List Value}
    (h : ∀ v ∈ items, refusalIn? labels room v = none) : itemRefusal? labels room items = none := by
  induction items with
  | nil => rfl
  | cons v items ih =>
      obtain ⟨hv, hitems⟩ := List.forall_mem_cons.mp h
      rw [itemRefusal?, hv, ih hitems]
      rfl

theorem entryRefusal?_eq_none {labels : List Nat} {room : Nat} {entries : List (Text × Value)}
    (hkeys : ∀ e ∈ entries, e.1.hasHalves = false)
    (h : ∀ e ∈ entries, refusalIn? labels room e.2 = none) :
    entryRefusal? labels room (ofTexts entries) = none := by
  induction entries with
  | nil => rfl
  | cons e entries ih =>
      obtain ⟨hkey, hkeys⟩ := List.forall_mem_cons.mp hkeys
      obtain ⟨hv, hentries⟩ := List.forall_mem_cons.mp h
      have htext : keyRefusal? (.text e.1) = none := by
        show (Option.map _ _) = none
        rw [Text.halfRun?_eq_none hkey]
        rfl
      show entryRefusal? labels room ((.text e.1, e.2) :: ofTexts entries) = none
      rw [entryRefusal?, htext, hv, ih hkeys hentries]
      rfl

/-- Values of texts are not refused if there is room for them. -/
theorem refusalIn?_eq_none {room : Nat} {v : Value} (h : IsTextual room v) (labels : List Nat)
    (more : Nat) : refusalIn? labels (room + more + 1) v = none := by
  induction h with
  | null => rfl
  | text htext =>
      show (Option.map _ _) = none
      rw [Text.halfRun?_eq_none htext]
      rfl
  | @list room items _ ih =>
      have hroom : room + 1 + more + 1 = (room + more + 1) + 1 := by omega
      rw [hroom, refusalIn?]
      exact itemRefusal?_eq_none ih
  | @map room entries _ hkeys _ ih =>
      have hroom : room + 1 + more + 1 = (room + more + 1) + 1 := by omega
      rw [hroom, refusalIn?]
      exact entryRefusal?_eq_none hkeys ih

/-! ### Line ends -/

theorem not_mem_escapeChar (c : Char) : '\r' ∉ escapeChar c := by
  have hdigits : ∀ n < 32, '\r' ∉ '\\' :: 'u' :: Text.hex 4 n := by
    intro n hn
    interval_cases n <;> decide
  unfold escapeChar
  split_ifs with hquote hback h8 hc hn hr ht hcontrol
  · decide
  · decide
  · decide
  · decide
  · decide
  · decide
  · decide
  · exact hdigits _ hcontrol
  · exact fun hmem => hr (List.mem_singleton.mp hmem).symm

theorem not_mem_writeString {t : Text} (h : t.hasHalves = false) : '\r' ∉ writeString t := by
  unfold writeString
  simp only [List.cons_append, List.mem_cons, List.mem_append, List.mem_flatMap, not_or,
    not_exists, not_and]
  refine ⟨by decide, ?_, by decide⟩
  intro p hp
  cases p with
  | char c => exact not_mem_escapeChar c
  | half half => cases Text.hasHalves_eq_false_iff.mp h _ hp

theorem not_mem_break (shape : Shape) : '\r' ∉ shape.break := by
  cases shape with
  | line => exact List.not_mem_nil
  | block level =>
      intro hmem
      rcases List.mem_cons.mp hmem with heq | hmem
      · exact absurd heq (by decide)
      · exact absurd (List.mem_replicate.mp hmem).2 (by decide)

theorem not_mem_behind {shape : Shape} {closing : Char} {parts : List (List Char)}
    (hclosing : closing ≠ '\r') (h : ∀ part ∈ parts, '\r' ∉ part) :
    '\r' ∉ behind shape closing parts := by
  induction parts with
  | nil =>
      have hbreak := not_mem_break shape
      simp [behind, hbreak, Ne.symm hclosing]
  | cons part parts ih =>
      obtain ⟨hpart, hparts⟩ := List.forall_mem_cons.mp h
      have hbreak := not_mem_break shape.inner
      simp [behind, hbreak, hpart, ih hparts]

theorem not_mem_bracketed {shape : Shape} {opening closing : Char} {parts : List (List Char)}
    (hopening : opening ≠ '\r') (hclosing : closing ≠ '\r') (h : ∀ part ∈ parts, '\r' ∉ part) :
    '\r' ∉ bracketed shape opening closing parts := by
  cases parts with
  | nil => simp [bracketed, Ne.symm hopening, Ne.symm hclosing]
  | cons part parts =>
      obtain ⟨hpart, hparts⟩ := List.forall_mem_cons.mp h
      have hbreak := not_mem_break shape.inner
      have hbehind : '\r' ∉ behind shape closing parts := not_mem_behind hclosing hparts
      rw [bracketed_cons]
      simp [hbreak, hpart, hbehind, Ne.symm hopening]

theorem writeItems_eq_map (shape : Shape) (items : List Value) :
    writeItems shape items = items.map (write shape) := by
  induction items with
  | nil => rfl
  | cons v items ih => rw [writeItems, ih, List.map_cons]

/-- Values of texts are written without carriage returns. -/
theorem not_mem_write {room : Nat} {v : Value} (h : IsTextual room v) (shape : Shape) :
    '\r' ∉ write shape v := by
  induction h generalizing shape with
  | null =>
      show '\r' ∉ "null".toList
      decide
  | text htext => exact not_mem_writeString htext
  | @list room items _ ih =>
      rw [write, writeItems_eq_map]
      refine not_mem_bracketed (by decide) (by decide) ?_
      intro part hpart
      obtain ⟨v, hv, rfl⟩ := List.mem_map.mp hpart
      exact ih v hv shape.inner
  | @map room entries _ hkeys _ ih =>
      have hwrite : write shape (.map (ofTexts entries)) =
          bracketed shape '{' '}' (entries.map (entryText shape.inner)) := by
        rw [write, writeEntries_ofTexts]
      rw [hwrite]
      refine not_mem_bracketed (by decide) (by decide) ?_
      intro part hpart
      obtain ⟨e, he, rfl⟩ := List.mem_map.mp hpart
      have hcolon : '\r' ∉ shape.inner.colon := by
        cases shape with
        | line => decide
        | block level =>
            show '\r' ∉ [':', ' ']
            decide
      have hkey := not_mem_writeString (hkeys e he)
      have hv := ih e he shape.inner
      unfold entryText
      simp [hcolon, hkey, hv]

/-- Values of texts have a text in JSON. -/
theorem pretty_eq_ok {room : Nat} {v : Value} (h : IsTextual room v) {outer : Nat}
    (hroom : room < outer + depthLimit) :
    pretty outer v = .ok (String.ofList (write (.block 0) v)) := by
  have hrefusal : refusal? outer v = none := by
    obtain ⟨more, hmore⟩ := Nat.exists_eq_add_of_le (Nat.succ_le_of_lt hroom)
    unfold refusal?
    rw [hmore, Nat.succ_add]
    exact refusalIn?_eq_none h [] more
  unfold pretty written
  rw [hrefusal]

/-- **The JSON of a value of texts is that value**, if there are levels enough. -/
theorem read_write {levels : Nat} {v : Value} (h : IsTextual levels v) (shape : Shape) :
    read levels (write shape v) = .ok v := by
  obtain ⟨c, cs, hcs, hspace, -, hmark⟩ := exists_write_eq_cons h shape
  have hread := readValue_written h shape (2 * (write shape v).length + 2) [] (by omega)
  rw [List.append_nil] at hread
  unfold read readStop
  rw [hcs] at hread ⊢
  split
  · next heq => exact absurd (List.cons.inj heq).1 hmark
  · rw [skip_of_not_isSpace hspace, hread]
    rfl

end Casebook.Json

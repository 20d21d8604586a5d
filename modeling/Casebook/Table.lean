/-!
# Tables

A finite map as a list of entries, its keys in the order in which they first came in.
Putting a value under a key that is there replaces the value and keeps the place.
`lookup_put` says what is found after that.
-/

namespace Casebook.Table

variable {κ α : Type} [DecidableEq κ]

/-- The table with a value put under a key. -/
def put (key : κ) (a : α) : List (κ × α) → List (κ × α)
  | [] => [(key, a)]
  | (k, b) :: rest => if k = key then (key, a) :: rest else (k, b) :: put key a rest

/-- Under its key the new value is found, under others what was there. -/
theorem lookup_put (key k : κ) (a : α) (entries : List (κ × α)) :
    (put key a entries).lookup k = if k = key then some a else entries.lookup k := by
  induction entries with
  | nil =>
    by_cases h : k = key
    · simp [put, h]
    · simp [put, h, List.lookup_cons, beq_eq_false_iff_ne.mpr h]
  | cons e rest ih =>
    obtain ⟨k', b⟩ := e
    by_cases h' : k' = key
    · subst h'
      by_cases h : k = k'
      · simp [put, h]
      · simp [put, List.lookup_cons, h, beq_eq_false_iff_ne.mpr h]
    · by_cases h : k = k'
      · subst h; simp [put, h']
      · simp [put, h', List.lookup_cons, beq_eq_false_iff_ne.mpr h, ih]

/-- Keys stay as they are; a new one comes last. -/
theorem keys_put (key : κ) (a : α) (entries : List (κ × α)) :
    (put key a entries).map Prod.fst =
      if key ∈ entries.map Prod.fst then entries.map Prod.fst
      else entries.map Prod.fst ++ [key] := by
  induction entries with
  | nil => simp [put]
  | cons e rest ih =>
    obtain ⟨k, b⟩ := e
    by_cases h : k = key
    · simp [put, h]
    · have h' : ¬ key = k := fun e => h e.symm
      by_cases hm : key ∈ rest.map Prod.fst
      · simp only [put, h, if_false, List.map_cons, ih, List.mem_cons, hm, or_true, if_true]
      · simp only [put, h, if_false, List.map_cons, ih, List.mem_cons, hm, h', or_false,
          List.cons_append]

end Casebook.Table

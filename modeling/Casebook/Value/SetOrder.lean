import Casebook.Value.Basic

/-!
# Order of the numbers in a set

A set of numbers is a row of slots, and its members come in the order of their slots. Where a
number stands follows from its key, a remainder that is the same for numbers that are equal,
whatever their kind. The members are put in one after the other; one whose slot is taken goes on
to the next free slot of a fixed walk, which comes to every slot.

A set that holds anything else has no order of its own: its members stay as they were written.
-/

namespace Casebook

open Number

namespace SetOrder

/-- The modulus of the keys, a prime one less than the 61st power of two. -/
def modulus : Nat := twoTo 61 - 1

/-- The key of `mantissa * 2 ^ exponent`, with a sign. Modulo the prime the powers of two repeat
after 61 of them, so the key of a fraction is that of an integer. No key is minus one. -/
def keyOf (negative : Bool) (mantissa : Nat) (exponent : Int) : Int :=
  let key := mantissa * twoTo (exponent % 61).toNat % modulus
  if !negative then key
  else if key = 1 then -2
  else -key

/-- The key of a number. -/
def key? (v : Value) : Option Int :=
  match v.bare with
  | .bool b => some (if b then 1 else 0)
  | .int i => some (keyOf (i < 0) i.natAbs 0)
  | .float (.finite negative mantissa exponent) => some (keyOf negative mantissa exponent)
  | .float (.infinite negative) => some (if negative then -314159 else 314159)
  | _ => none

/-- How many slots a set of so many members has. -/
def slotCount (members : Nat) : Nat := if members < 5 then 8 else twoTo ((2 * members).log2 + 1)

/-- The slots that are tried together: ten in a row where ten are left, or one alone. -/
def neighbours (count slot : Nat) : List Nat :=
  if slot + 9 < count then List.range' slot 10 else [slot]

/-- Puts a member into the first free slot of its walk. From one group of neighbours the walk jumps
to another; the rest of the key bends the first jumps, and soon none of it is left. -/
def put {α : Type} (a : α) : (jumps slot rest : Nat) → Array (Option α) → Array (Option α)
  | 0, _, _, slots => slots.push (some a)
  | jumps + 1, slot, rest, slots =>
    match (neighbours slots.size slot).find? fun i => (slots.getD i none).isNone with
    | some i => slots.setIfInBounds i (some a)
    | none =>
      let rest := rest / 32
      put a jumps ((5 * slot + 1 + rest) % slots.size) rest slots

/-- The members by their slots, each with its key, which counts modulo the 64th power of two. -/
def slots {α : Type} (members : List (Int × α)) : Array (Option α) :=
  members.foldl (fun slots m =>
      let key := (m.1 % Int.ofNat (twoTo 64)).toNat
      put m.2 (slots.size + 13) (key % slots.size) key slots)
    (Array.replicate (slotCount members.length) none)

/-- The members of a set in its order, by the values that they stand for. -/
def arrange {α : Type} (value : α → Value) (members : List α) : List α :=
  match members.mapM fun a => (key? (value a)).map fun key => (key, a) with
  | some keyed => (slots keyed).toList.filterMap id
  | none => members

end SetOrder

end Casebook

/-!
# Texts

A text is a list of points. A point is a character or half of a surrogate pair: a code that is
no character, and that an escape can name all the same. Texts of the library itself are texts of
characters (`ofString`); what is read from a document may hold halves, and what has to do without
them asks for the characters (`chars?`).
-/

namespace Casebook

/-- Half of a surrogate pair. -/
structure Half where
  code : Nat
  isHalf : 0xD800 ≤ code ∧ code < 0xE000
deriving Repr, DecidableEq

namespace Half

/-- The first half of a pair. -/
def isHigh (h : Half) : Bool := h.code < 0xDC00

/-- The half stands for a byte that could not be decoded, which the names of files may hold. -/
def isRawByte (h : Half) : Bool := 0xDC80 ≤ h.code && h.code ≤ 0xDCFF

/-- The character that a first and a second half make together. -/
def joined (high low : Half) : Char :=
  Char.ofNat (0x10000 + (high.code - 0xD800) * 1024 + (low.code - 0xDC00))

end Half

/-- What stands at one place of a text. -/
inductive Point
  | char (c : Char)
  | half (h : Half)
deriving Repr, DecidableEq

namespace Point

instance : Coe Char Point := ⟨.char⟩

/-- The point of a code. -/
def ofCode (n : Nat) : Point :=
  if h : 0xD800 ≤ n ∧ n < 0xE000 then .half ⟨n, h⟩ else .char (Char.ofNat n)

def code : Point → Nat
  | .char c => c.toNat
  | .half h => h.code

def char? : Point → Option Char
  | .char c => some c
  | .half _ => none

def isHalf : Point → Bool
  | .char _ => false
  | .half _ => true

/-- The point is a character that passes a test. -/
def passes (test : Char → Bool) : Point → Bool
  | .char c => test c
  | .half _ => false

/-- The order of points by code, point by point, a list before its extensions. -/
def listLe : List Point → List Point → Bool
  | [], _ => true
  | _ :: _, [] => false
  | p :: ps, q :: qs => if p = q then listLe ps qs else p.code ≤ q.code

end Point

structure Text where
  points : List Point
deriving Repr, DecidableEq, Inhabited

namespace Text

/-- The text of some characters. -/
def ofChars (cs : List Char) : Text := ⟨cs.map .char⟩

/-- The text of a string. -/
def ofString (s : String) : Text := ofChars s.toList

instance : Coe String Text := ⟨ofString⟩

instance : Append Text := ⟨fun s t => ⟨s.points ++ t.points⟩⟩

/-- The characters of a text, if there are no halves in it. -/
def chars? (t : Text) : Option (List Char) := t.points.mapM Point.char?

/-- The text as a string, if there are no halves in it. -/
def string? (t : Text) : Option String := t.chars?.map String.ofList

def length (t : Text) : Nat := t.points.length

def isEmpty (t : Text) : Bool := t.points.isEmpty

/-- There are halves of surrogate pairs in the text. -/
def hasHalves (t : Text) : Bool := t.points.any Point.isHalf

/-- The texts one after the other, with a separator between them. -/
def joined (separator : Text) (ts : List Text) : Text :=
  ⟨List.intercalate separator.points (ts.map points)⟩

/-- The order of texts by the codes of their points. -/
def le (s t : Text) : Bool := Point.listLe s.points t.points

/-- The text without its first and last points that pass a test. -/
def trimmed (test : Char → Bool) (t : Text) : Text :=
  let rest := t.points.dropWhile (Point.passes test)
  ⟨(rest.reverse.dropWhile (Point.passes test)).reverse⟩

theorem points_append (s t : Text) : (s ++ t).points = s.points ++ t.points := rfl

theorem chars?_ofChars (cs : List Char) : (ofChars cs).chars? = some cs := by
  simp only [chars?, ofChars, List.mapM_map]
  induction cs with
  | nil => rfl
  | cons c cs ih => simp [List.mapM_cons, Point.char?] at ih ⊢; simp [ih]

/-- A text holds halves if and only if it is no text of characters. -/
theorem chars?_eq_none_iff (t : Text) : t.chars? = none ↔ t.hasHalves = true := by
  obtain ⟨ps⟩ := t
  simp only [chars?, hasHalves]
  induction ps with
  | nil => simp
  | cons p ps ih =>
    cases p with
    | half h => simp [List.mapM_cons, Point.char?, Point.isHalf]
    | char c =>
      simp only [List.mapM_cons, Point.char?, List.any_cons, Point.isHalf, Bool.false_or, ← ih]
      cases List.mapM Point.char? ps <;> simp

end Text

end Casebook

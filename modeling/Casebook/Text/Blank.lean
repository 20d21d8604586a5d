import Casebook.Text.Point

/-!
# Blank characters

Which characters are trimmed from the ends of names, expected lines and
messages, and the trimming itself. The class is wider than the six ASCII
blanks: it has the four information separators, the next-line control and the
Unicode space, line and paragraph separators.
-/

namespace Casebook.Text

/-- A blank character: a Unicode separator or a control that moves the cursor
or separates units of information. -/
def isBlank (c : Char) : Bool :=
  let n := c.toNat
  (9 ≤ n && n ≤ 13) || (28 ≤ n && n ≤ 32) || n == 0x85 || n == 0xA0 || n == 0x1680 ||
    (0x2000 ≤ n && n ≤ 0x200A) || n == 0x2028 || n == 0x2029 || n == 0x202F ||
    n == 0x205F || n == 0x3000

/-- A blank that may stand around a numeral: any but the information separators. -/
def isNumeralBlank (c : Char) : Bool := isBlank c && !(28 ≤ c.toNat && c.toNat ≤ 31)

/-- The characters without the blanks that may stand around a numeral. -/
def dropNumeralBlanks (cs : List Char) : List Char :=
  (((cs.dropWhile isNumeralBlank).reverse).dropWhile isNumeralBlank).reverse

/-- The text without the blanks at its end. -/
def trimEnd (t : Text) : Text :=
  ⟨(t.points.reverse.dropWhile (Point.passes isBlank)).reverse⟩

/-- The text without the blanks at either end. -/
def trim (t : Text) : Text := t.trimmed isBlank

/-- The pieces of a text that are free of blanks. -/
def blankSplit (t : Text) : List Text :=
  let add := fun p (pieces : List (List Point)) =>
    if Point.passes isBlank p then [] :: pieces
    else
      match pieces with
      | [] => [[p]]
      | piece :: rest => (p :: piece) :: rest
  ((t.points.foldr add []).filter (!·.isEmpty)).map Text.mk

/-- Every character that core counts as white space is blank. -/
theorem isBlank_of_isWhitespace {c : Char} (h : c.isWhitespace = true) : isBlank c = true := by
  simp only [Char.isWhitespace, Bool.or_eq_true, decide_eq_true_eq] at h
  rcases h with ((h | h) | h) | h <;> subst h <;> decide

end Casebook.Text

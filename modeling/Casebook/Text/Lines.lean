import Casebook.Text.Point

/-!
# Lines of a text

Three ways to see lines. A file read as text has every line end turned into a
line feed (`withLineFeeds`). A case file is cut after each line feed, which stays with
its line (`cutLines`), so that the pieces put together are the text again. A block
of expected output is split at every mandatory break, which is dropped
(`splitLines`).
-/

namespace Casebook.Text

/-- A carriage return, alone or before a line feed, becomes one line feed. -/
def withLineFeeds : List Char → List Char
  | [] => []
  | '\r' :: '\n' :: cs => '\n' :: withLineFeeds cs
  | '\r' :: cs => '\n' :: withLineFeeds cs
  | c :: cs => c :: withLineFeeds cs

/-- Cuts after each line feed. The last piece has none if the text does not end in one. -/
def cutLines : List Char → List (List Char)
  | [] => []
  | c :: cs =>
    if c = '\n' then ['\n'] :: cutLines cs
    else
      match cutLines cs with
      | [] => [[c]]
      | l :: ls => (c :: l) :: ls

/-- Cutting loses nothing. -/
theorem flatten_cutLines (cs : List Char) : (cutLines cs).flatten = cs := by
  induction cs with
  | nil => rfl
  | cons c cs ih =>
    by_cases h : c = '\n'
    · simp [cutLines, h, ih]
    · rw [cutLines, if_neg h]
      split
      · next heq => rw [heq] at ih; simp_all
      · next heq => rw [heq] at ih; simp_all

/-- The pieces between the separators; always one more than there are separators. -/
def splitAt {α : Type} [DecidableEq α] (sep : α) : List α → List (List α)
  | [] => [[]]
  | c :: cs =>
    if c = sep then [] :: splitAt sep cs
    else
      match splitAt sep cs with
      | [] => [[c]]
      | l :: ls => (c :: l) :: ls

/-- The pieces of a text between the separators. -/
def split (sep : Char) (t : Text) : List Text := (splitAt (Point.char sep) t.points).map Text.mk

/-- A mandatory line break: line feed, carriage return, vertical tab, form feed, the
file, group and record separators, next line, and the line and paragraph separators. -/
def isLineBreak (c : Char) : Bool :=
  let n := c.toNat
  (10 ≤ n && n ≤ 13) || (28 ≤ n && n ≤ 30) || n == 0x85 || n == 0x2028 || n == 0x2029

/-- Splits at mandatory breaks, a carriage return and line feed together being one.
A break at the end starts no further line. -/
def splitLines : List Char → List (List Char)
  | [] => []
  | '\r' :: '\n' :: cs => [] :: splitLines cs
  | c :: cs =>
    if isLineBreak c then [] :: splitLines cs
    else
      match splitLines cs with
      | [] => [[c]]
      | l :: ls => (c :: l) :: ls

end Casebook.Text

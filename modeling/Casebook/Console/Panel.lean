import Casebook.Console.Wrap
import Casebook.Depth
import Casebook.Fault

/-!
# Printing on the console

The console has lines of a fixed width. Marked-up text is shown without its tags and
wrapped; a panel puts it into a frame with a title.
-/

namespace Casebook.Console

open Text

/-- The cells of a line of the console. -/
def lineWidth : Nat := 120

/-- Marked-up text in lines of a width. The styles of what is left of it must be good, and the
arguments of its tags may have some levels. -/
def content (limit levels : Nat) (markup : Text) : Outcome (List Styled) := do
  let lines := wrap limit (← (Styled.ofMarkup levels markup).mapError .markup)
  (lines.forM Styled.check).mapError fun fault => .markup (.color fault)
  return lines

/-- Marked-up text as it appears on the console. -/
def print (markup : Text) : Outcome Text := do
  let lines ← content lineWidth (Depth.ofArguments Depth.printing) markup
  return ⟨lines.flatMap fun line => line.shown lineWidth ++ [Point.char '\n']⟩

/-- The cells of a line inside a panel: a bar and a blank stand on both sides. -/
def panelWidth : Nat := lineWidth - 4

/-- A line of the frame. -/
def bar (n : Nat) : Text := .ofChars (List.replicate n '─')

/-- The upper side of the frame with a title in the middle. -/
def titleLine (title : String) : Text :=
  let title : Text := " " ++ Text.ofString title ++ " "
  let rest := panelWidth - width title.points
  "╭─" ++ bar (rest / 2) ++ title ++ bar (rest - rest / 2) ++ "─╮\n"

/-- A line of the panel. -/
def panelLine (line : Styled) : Text :=
  let ps := line.shown panelWidth
  let taken := min (piecesWidth line.pieces) panelWidth
  "│ " ++ ⟨ps⟩ ++ .ofChars (List.replicate (panelWidth - taken) ' ') ++ " │\n"

/-- Marked-up text in a panel. -/
def panel (title : String) (markup : Text) : Outcome Text := do
  let lines ← content panelWidth (Depth.ofArguments Depth.framing) markup
  return titleLine title ++ .joined "" (lines.map panelLine) ++ "╰" ++ bar (lineWidth - 2) ++ "╯\n"

end Casebook.Console

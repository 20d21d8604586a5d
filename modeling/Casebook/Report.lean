import Casebook.Text.Blank

/-!
# Reports of failed searches

A fault of the setup says in one sentence what failed, then which places were searched
and with what result, and what might help.
-/

namespace Casebook

/-- One place that was searched. -/
structure Attempt where
  location : Text
  found : Bool
  /-- Why the search there failed, or what was wrong with what it found. -/
  reason : Option Text
deriving Repr, DecidableEq

/-- What failed, the places searched in order, and suggestions in order. -/
structure Report where
  summary : Text
  attempts : List Attempt
  suggestions : List Text
deriving Repr, DecidableEq

/-- One place, marked by whether the search there succeeded. An empty reason is left out. -/
def Attempt.line (a : Attempt) : Text :=
  let mark := if a.found then "✓" else "✗"
  let reason : Text := match a.reason with
    | some r => if r.isEmpty then "" else " (" ++ r ++ ")"
    | none => ""
  "  " ++ mark ++ " " ++ a.location ++ reason

namespace Report

/-- The suggestions, numbered from one. -/
def numbered (suggestions : List Text) : List Text :=
  suggestions.mapIdx fun i t => s!"  {i + 1}. " ++ t

/-- The lines of the report; blank lines part its sections. -/
def lines (r : Report) : List Text :=
  let searched : List Text :=
    if r.attempts.isEmpty then [] else
      Text.ofString "Searched:" :: r.attempts.map Attempt.line ++ [Text.ofString ""]
  let suggested : List Text :=
    if r.suggestions.isEmpty then [] else Text.ofString "Suggestions:" :: numbered r.suggestions
  r.summary :: "" :: searched ++ suggested

/-- The report as one text, without blanks at its end. -/
def render (r : Report) : Text := (Text.joined "\n" r.lines).trimEnd

end Report

end Casebook

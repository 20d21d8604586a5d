import Casebook.Text.Point

/-!
# Beginnings and endings of texts

Tests for how a text begins and ends, and the rest after a beginning.
-/

namespace Casebook.Text

/-- The text begins with `start`. -/
def begins (start t : Text) : Bool := start.points.isPrefixOf t.points

/-- The text ends with `ending`. -/
def ends (ending t : Text) : Bool := ending.points.isSuffixOf t.points

/-- What follows `start`, if the text begins with it. -/
def after? (start t : Text) : Option Text :=
  if begins start t then some ⟨t.points.drop start.length⟩ else none

/-- A beginning and what follows it make up the text. -/
theorem append_of_after? {start t rest : Text} (h : after? start t = some rest) :
    start ++ rest = t := by
  unfold after? begins at h
  split at h
  · next hp =>
    obtain ⟨u, hu⟩ := List.isPrefixOf_iff_prefix.mp hp
    simp only [← hu, length, List.drop_left, Option.some.injEq] at h
    subst h
    show Text.mk (start.points ++ u) = t
    rw [hu]
  · simp at h

end Casebook.Text

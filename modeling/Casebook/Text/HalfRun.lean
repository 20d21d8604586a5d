import Casebook.Text.Hex
import Casebook.Text.Point

/-!
# Halves in the way

What cannot hold halves of surrogate pairs refuses a text for the first run of them, and says
where the run stands.
-/

namespace Casebook.Text

/-- Halves side by side in a text that has to do without. -/
structure HalfRun where
  /-- How many points stand before them. -/
  position : Nat
  length : Nat
  /-- The code of the first of them. -/
  code : Nat
deriving Repr, DecidableEq

/-- The half at a point. -/
def half? : Point → Option Half
  | .half h => some h
  | .char _ => none

/-- The first run of halves in a text of which so many points stand before. Halves that pass
a test do no harm at the front of a run. -/
def firstRun? (harmless : Half → Bool) (position : Nat) : List Point → Option HalfRun
  | [] => none
  | p :: ps =>
    let run := ((p :: ps).takeWhile Point.isHalf).filterMap half?
    match run.dropWhile harmless with
    | [] => firstRun? harmless (position + 1) ps
    | first :: more =>
      some ⟨position + run.length - (more.length + 1), more.length + 1, first.code⟩

/-- The first run of halves in a text. -/
def halfRun? (t : Text) : Option HalfRun := firstRun? (fun _ => false) 0 t.points

/-- The text reported for halves that cannot be encoded. -/
def HalfRun.message (r : HalfRun) : String :=
  let place :=
    if r.length = 1 then
      s!"character '\\u{String.ofList (hex 4 r.code)}' in position {r.position}"
    else s!"characters in position {r.position}-{r.position + r.length - 1}"
  s!"'utf-8' codec can't encode {place}: surrogates not allowed"

/-- The characters of a text, or the first run of halves in it. -/
def characters (t : Text) : Except HalfRun (List Char) :=
  match t.halfRun? with
  | some run => .error run
  | none => .ok (t.points.filterMap Point.char?)

end Casebook.Text

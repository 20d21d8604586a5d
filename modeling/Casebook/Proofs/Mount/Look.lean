import Casebook.Mount.View
import Mathlib

/-!
# Looks, step by step

A look answers a question about files from the view and may leave another view behind. What
it does is read off here one step at a time: a step and the rest after it, a path below the
mount root, the load of a stub file.
-/

namespace Casebook.Mount.Look

open Disk

variable {α β : Type} {v v' : View}

theorem run_bind {x : Look α} {a : α} (h : x.run v = (.ok a, v')) (f : α → Look β) :
    (x >>= f).run v = (f a).run v' := by
  show (do let result ← x.run v; ExceptT.bindCont f result.1 result.2 : Id _) = _
  rw [h]
  rfl

theorem run_bind_error {x : Look α} {fault : Fault} (h : x.run v = (.error fault, v'))
    (f : α → Look β) : (x >>= f).run v = (.error fault, v') := by
  show (do let result ← x.run v; ExceptT.bindCont f result.1 result.2 : Id _) = _
  rw [h]
  rfl

theorem run_mapM {f : α → Look β} {g : α → β} {as : List α}
    (h : ∀ a ∈ as, (f a).run v = (.ok (g a), v)) : (as.mapM f).run v = (.ok (as.map g), v) := by
  induction as with
  | nil => rfl
  | cons a as ih =>
      obtain ⟨ha, has⟩ := List.forall_mem_cons.mp h
      rw [List.mapM_cons, run_bind ha, run_bind (ih has)]
      rfl

theorem run_onPath {w : Workspace} {path name : Text} (h : v.name? path = some name)
    (hidden : Look α) (stub : Stub.Provider → Text → Look α) (real : Look α) :
    (onPath w path hidden stub real).run v = (stub v.provider name).run v := by
  unfold onPath
  rw [@run_bind _ _ v v get v rfl, h]

theorem run_load {w : Workspace} {name : Text} {text : Outcome Text}
    {provider : Stub.Provider} (h : v.provider.load w name = (text, provider)) :
    (load w name).run v =
      ((text.mapError (stubFault name)).bind fun text =>
        (Text.encode? text).mapError Casebook.Fault.unencodable, { v with provider }) := by
  unfold load
  rw [@run_bind _ _ v v get v rfl]
  dsimp only
  rw [h]
  cases text with
  | error fault => rfl
  | ok text =>
      show ExceptT.run (m := StateM View)
        (liftM ((Text.encode? text).mapError Casebook.Fault.unencodable)) _ =
          ((Text.encode? text).mapError Casebook.Fault.unencodable, _)
      cases Text.encode? text <;> rfl

end Casebook.Mount.Look

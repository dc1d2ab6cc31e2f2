import GameRunner.Library.Table

/-!
# What is worked out of arguments

The functions of the library look at their arguments first, and an argument that is missing is a
fault. What they do if there is none is told here as a condition on whatever is worked out.
-/

namespace GameRunner

namespace Builtin

variable {α β : Type}

/-- Whatever is worked out of arguments, unless there is a fault, meets a condition. -/
def WorksOut (P : α → Prop) (x : Except Fault α) : Prop := ∀ a, x = .ok a → P a

namespace WorksOut

variable {P : β → Prop} {Q : α → Prop} {x : Except Fault α}

theorem pure {b : β} (h : P b) : WorksOut P (Pure.pure b) := by
  intro b' hb
  cases hb
  exact h

theorem fault (fault : Fault) : WorksOut P (.error fault) := by
  intro b hb
  cases hb

theorem bind {f : α → Except Fault β} (h : ∀ a, x = .ok a → WorksOut P (f a)) :
    WorksOut P (x >>= f) := by
  cases x with
  | error e => exact fault e
  | ok a => exact h a rfl

theorem map {f : α → β} (h : WorksOut (fun a => P (f a)) x) : WorksOut P (x.map f) := by
  cases x with
  | error e => exact fault e
  | ok a => exact pure (h a rfl)

end WorksOut

end Builtin

end GameRunner

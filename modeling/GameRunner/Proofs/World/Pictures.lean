import GameRunner.World.Basic

/-!
# What is added to the screen

Within a frame of the screen commands are only ever added to those that are there. Some commands draw
something; the others choose a view or fill the window.
-/

namespace GameRunner

/-- Whether a command draws something. -/
def DrawCommand.isPicture : DrawCommand → Bool
  | .view _ => false
  | .clear _ => false
  | _ => true

namespace World

/-- Later in a frame of the screen, when commands of some kind have been added. -/
def Adds (P : DrawCommand → Prop) (w v : World) : Prop :=
  ∃ commands, v.screen.commands = w.screen.commands ++ commands ∧ ∀ c ∈ commands, P c

/-- Later in a frame of the screen, when nothing but pictures have been added. -/
abbrev AddsPictures : World → World → Prop := Adds fun c => c.isPicture = true

namespace Adds

variable {P Q : DrawCommand → Prop} {w v u : World}

theorem of_eq (h : v.screen = w.screen) : w.Adds P v :=
  ⟨[], by rw [h, List.append_nil], fun _ hc => absurd hc List.not_mem_nil⟩

theorem refl (w : World) : w.Adds P w := .of_eq rfl

theorem trans (h : w.Adds P v) (h' : v.Adds P u) : w.Adds P u := by
  obtain ⟨commands, hv, hcommands⟩ := h
  obtain ⟨more, hu, hmore⟩ := h'
  refine ⟨commands ++ more, by rw [hu, hv, List.append_assoc], fun c hc => ?_⟩
  rcases List.mem_append.mp hc with hc | hc
  · exact hcommands c hc
  · exact hmore c hc

theorem mono (hP : ∀ c, P c → Q c) (h : w.Adds P v) : w.Adds Q v := by
  obtain ⟨commands, hv, hcommands⟩ := h
  exact ⟨commands, hv, fun c hc => hP c (hcommands c hc)⟩

theorem paint (w : World) {c : DrawCommand} (hc : P c) : w.Adds P (w.paint c) := by
  refine ⟨[c], Screen.commands_add w.screen c, fun d hd => ?_⟩
  rw [List.mem_singleton.mp hd]
  exact hc

end Adds

end World

end GameRunner

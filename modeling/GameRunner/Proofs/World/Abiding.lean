import GameRunner.World.Basic
import Mathlib.Tactic

/-!
# What stays within a frame

Once a frame has begun, neither code nor the engine touches the number of the frame, what has been
recorded or what is played back. All that ever happens to the keys is that code forgets one of them
or says which one counts as pressed last. Entries that were cut off are only ever counted up.
-/

namespace GameRunner

namespace KeyState

/-- What code can do to the keys. -/
inductive Edit
  | clear (key : Int32)
  | setLast (key : Int32)
  deriving Repr, DecidableEq

def edit (s : KeyState) : Edit → KeyState
  | .clear key => s.clearKey key
  | .setLast key => { s with last := key }

/-- Edits one after the other. -/
def editAll (s : KeyState) (edits : List Edit) : KeyState := edits.foldl edit s

end KeyState

namespace World

/-- A world later in the same frame. -/
structure Abides (w v : World) : Prop where
  keys : ∃ edits, v.keys = w.keys.editAll edits
  frame : v.frame = w.frame
  recording : v.recording = w.recording
  playback : v.playback = w.playback
  cutOff : w.cutOff ≤ v.cutOff

namespace Abides

variable {w v u : World}

theorem of_eq (hkeys : v.keys = w.keys) (hframe : v.frame = w.frame)
    (hrecording : v.recording = w.recording) (hplayback : v.playback = w.playback)
    (hcut : v.cutOff = w.cutOff) : w.Abides v :=
  ⟨⟨[], hkeys⟩, hframe, hrecording, hplayback, hcut.ge⟩

theorem refl (w : World) : w.Abides w := .of_eq rfl rfl rfl rfl rfl

theorem trans (h : w.Abides v) (h' : v.Abides u) : w.Abides u where
  keys := by
    obtain ⟨edits, hv⟩ := h.keys
    obtain ⟨more, hu⟩ := h'.keys
    refine ⟨edits ++ more, ?_⟩
    rw [hu, hv]
    exact List.foldl_append.symm
  frame := h'.frame.trans h.frame
  recording := h'.recording.trans h.recording
  playback := h'.playback.trans h.playback
  cutOff := h.cutOff.trans h'.cutOff

theorem log (w : World) (s : Severity) (line : Unit → String) : w.Abides (w.log s line) := by
  unfold World.log
  split_ifs
  · exact .of_eq rfl rfl rfl rfl rfl
  · exact .refl w

end Abides

end World

/-- Effects of some kind that stay within a frame. -/
structure Abiding (E : World → World → Prop) (w v : World) : Prop where
  effect : E w v
  abides : w.Abides v

theorem Abiding.mono {E E' : World → World → Prop} (hE : ∀ w v, E w v → E' w v) {w v : World}
    (h : Abiding E w v) : Abiding E' w v :=
  ⟨hE w v h.effect, h.abides⟩

end GameRunner

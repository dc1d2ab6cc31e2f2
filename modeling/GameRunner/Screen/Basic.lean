import GameRunner.Journal
import GameRunner.Screen.Command

/-!
# The screen

A screen without a window: it keeps the commands of the current frame. Text is measured in cells of
a fixed size, so no font is needed.
-/

namespace GameRunner

/-- The commands of the current frame, the latest first, and the number of frames begun. -/
structure Screen where
  latest : List DrawCommand := []
  frames : Nat := 0

namespace Screen

/-- The commands of the current frame in order. -/
def commands (s : Screen) : List DrawCommand := s.latest.reverse

/-- Begins a frame; the commands of the one before are dropped. -/
def begin (s : Screen) : Screen := ⟨[], s.frames + 1⟩

/-- Adds a command. -/
def add (s : Screen) (c : DrawCommand) : Screen := { s with latest := c :: s.latest }

@[simp] theorem commands_begin (s : Screen) : s.begin.commands = [] := rfl

@[simp] theorem commands_add (s : Screen) (c : DrawCommand) :
    (s.add c).commands = s.commands ++ [c] := by
  simp [commands, add]

/-- What is reported of a command. -/
def report (c : DrawCommand) (log : Journal) : Journal :=
  log.add .trace fun _ => "Headless: " ++ c.report

end Screen

/-- The size of the cell that a character of text takes. -/
def cellSize : Float × Float := (8, 16)

/-- Width and height of a text: its longest line and the number of its lines. -/
def measureText (text : String) : Float × Float :=
  let lines := (text.toList.splitOn '\n').map List.length
  (Float.ofNat (lines.foldl max 0) * cellSize.1, Float.ofNat lines.length * cellSize.2)

end GameRunner

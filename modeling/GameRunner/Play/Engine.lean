import GameRunner.Machine.Run
import GameRunner.Play.Draw
import GameRunner.Play.Step

/-!
# Playing a game

The setup of a game, its start and the operations of a host on it. Code entries may be nested up to
`nestingLimit`; an operation that needs more does not come to an end and has no result. Nor has one
that breaks off.
-/

namespace GameRunner

/-- How deep code entries may be nested. -/
def nestingLimit : Nat := 100000

namespace Setup

/-- The setup for a game with settings. -/
def ofGame (game : Game) (settings : Settings) : Setup :=
  { game, program := .ofGame game, settings }

/-- Runs a code entry. -/
def exec (s : Setup) : Exec := Machine.execute s nestingLimit

end Setup

namespace World

/-- The world before the first frame, with what is reported about the program of the game. -/
def ofSetup (s : Setup) (entropy : UInt64) (journal : Journal) : World :=
  start s entropy (s.program.report s.game journal)

/-- The room that the settings name, or else the first one of the game. -/
def chooseRoom (s : Setup) (w : World) : Int32 × World :=
  match s.settings.startRoom with
  | none => (s.game.firstRoom, w)
  | some selector =>
    match s.game.resolveRoom? selector with
    | some index => (index, w)
    | none => (s.game.firstRoom, w.log .warn fun _ =>
        s!"start room '{selector}' not found, using the room order")

/-- Plays frames, each followed by forgetting what happened to the keys. -/
def playFrames (exec : Exec) (s : Setup) : Nat → World → Option World
  | 0, w => some w
  | n + 1, w => do playFrames exec s n (← w.step exec s).endInput

end World

end GameRunner

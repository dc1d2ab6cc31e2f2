import GameRunner.Library.Collection
import GameRunner.Library.Number
import GameRunner.Library.Picture
import GameRunner.Library.Scene
import GameRunner.Library.Service
import GameRunner.Library.Text

/-!
# The library

All functions that game code can call without the game having defined them.
-/

namespace GameRunner

namespace Builtin

/-- All functions by name. -/
def library : FunctionTable :=
  chance ++ numbers ++ colors ++ texts ++ pictures ++ pens ++ instances ++ places ++ maps ++ lists ++
    keys ++ types ++ globals ++ assets ++ services

/-- The function with a name. -/
def named? (name : String) : Option Builtin := library.lookup name

end Builtin

end GameRunner

import GameRunner.Proofs.Code.Statements
import GameRunner.Proofs.Machine.Running
import GameRunner.Proofs.World.Growth

/-!
# The frame law of code

However code is nested, and however it ends, a run of it only adds to the roster and changes neither
the room nor the course of the game.
-/

namespace GameRunner

namespace Machine

/-- Every run of code that comes to an end leaves each instance where it was, as the same instance
and destroyed if it was so before, puts new ones behind them under free ids, and leaves the course
of the game alone. The ids are free until the last of all has been given away. -/
theorem execute_frame {s : Setup} {depth : Nat} {w w' : World} {code self : Int32}
    {other : Option Int32} (h : execute s depth w code self other = some w') :
    w.SameCourse w' ∧ (w.IdsBelow → Int32.maxValue ∉ w'.instances.ids → w.Grows w') := by
  have hp : w.Progresses w' := keeps_execute (fun _ _ he => he.progresses)
    (fun _ _ _ hwv hvu => hwv.trans hvu) World.progresses_withContext depth w code self other w' h
  exact ⟨hp.course, hp.grows⟩

/-- Code that destroys the instance it runs on. -/
def farewellSetup : Setup where
  game := { functionTable := #[⟨"instance_destroy", 1, 0⟩] }
  program :=
    { code := #[⟨#[{ (Statement.call 0 0).instruction 0 with functionIndex := 0 },
        Statement.popz.instruction 8, Statement.exit.instruction 12]⟩]
      references := ⟨[], []⟩
      scripts := .empty }
  settings := {}

/-- Two instances in the third room. -/
def farewellWorld : World where
  instances := ⟨[.create 100001 3 0 0, .create 100002 4 0 0], by decide⟩
  nextId := 100003
  room := 2
  generator := .ofSeed 1

/-- The instance is destroyed and both stay in their places. -/
theorem execute_frame_farewell :
    ∃ w', execute farewellSetup 1 farewellWorld 0 100001 none = some w' ∧
      w'.instances.toList.map (·.destroyed) = [true, false] ∧
      farewellWorld.IdsBelow ∧ Int32.maxValue ∉ w'.instances.ids ∧
      farewellWorld.SameCourse w' ∧ farewellWorld.Grows w' := by
  have hsome : (execute farewellSetup 1 farewellWorld 0 100001 none).isSome := by decide +kernel
  obtain ⟨w', hw'⟩ := Option.isSome_iff_exists.mp hsome
  have hend : ∀ v ∈ execute farewellSetup 1 farewellWorld 0 100001 none,
      v.instances.toList.map (·.destroyed) = [true, false] ∧
        Int32.maxValue ∉ v.instances.ids := by
    decide +kernel
  have hids : farewellWorld.IdsBelow := by decide +kernel
  obtain ⟨hdestroyed, hmax⟩ := hend w' hw'
  obtain ⟨hcourse, hgrows⟩ := execute_frame hw'
  exact ⟨w', hw', hdestroyed, hids, hmax, hcourse, hgrows hids hmax⟩

end Machine

end GameRunner

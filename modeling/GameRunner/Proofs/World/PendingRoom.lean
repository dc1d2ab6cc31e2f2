import GameRunner.Proofs.Machine.Faults

/-!
# The room that is to be entered

Only a request for a room changes which room is to be entered next. Reports, changes of instances and
the writing of variables leave it alone.
-/

namespace GameRunner

namespace World

variable {w v : World}

theorem OnlyReports.pendingRoom (h : w.OnlyReports v) : v.pendingRoom = w.pendingRoom := by
  obtain ⟨lines, rfl⟩ := h
  rfl

theorem pendingRoom_log (w : World) (severity : Severity) (line : Unit → String) :
    (w.log severity line).pendingRoom = w.pendingRoom :=
  (OnlyReports.log w severity line).pendingRoom

theorem pendingRoom_reportEvent (s : Setup) (w : World) (id object : Int32) (type : Nat)
    (subtype : Int32) (other : Option Int32) :
    (reportEvent s w id object type subtype other).pendingRoom = w.pendingRoom := by
  unfold reportEvent
  dsimp only
  split_ifs
  · exact pendingRoom_log w _ _
  · rfl

theorem pendingRoom_reportUnknown (w : World) (name : String) (count : Nat) :
    (w.reportUnknown name count).pendingRoom = w.pendingRoom := by
  unfold reportUnknown
  split_ifs
  · rfl
  · exact pendingRoom_log w _ _

theorem pendingRoom_modifySelf (w : World) (f : Instance → Instance) :
    (w.modifySelf f).pendingRoom = w.pendingRoom := by
  unfold modifySelf
  split <;> rfl

theorem pendingRoom_startPath (g : Game) (w : World) (path : Int32) (speed : Float)
    (endAction : Int32) (absolute : Bool) :
    (w.startPath g path speed endAction absolute).pendingRoom = w.pendingRoom := by
  unfold startPath
  split
  · rfl
  · split
    · rfl
    · exact pendingRoom_log w _ _

end World

theorem Strokes.pendingRoom {w v : World} (h : Strokes w v) : v.pendingRoom = w.pendingRoom := by
  induction h with
  | refl => rfl
  | tail _ hstroke ih =>
    rw [← ih]
    cases hstroke <;> rfl

end GameRunner

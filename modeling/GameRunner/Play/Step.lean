import GameRunner.Event.Alarm
import GameRunner.Event.Collision
import GameRunner.Play.Motion
import GameRunner.Play.Room

/-!
# A frame

The order of things in a frame: input, a room that has been asked for, the events of the frame, motion
and animation. Instances that were destroyed meanwhile leave the roster at the end.
-/

namespace GameRunner

namespace World

/-- Starts a frame: counts it, and plays back or records the keys. -/
def beginFrame (w : World) : World :=
  let w := { w with frame := w.frame + 1 }
  let w := match w.playback with
    | some p =>
      let keys := p.apply w.frame w.keys
      { w with keys, journal := Playback.report w.frame keys w.journal }
    | none => w
  { w with recording := w.recording.map fun r => r.record w.frame w.keys }

/-- Enters the room that has been asked for. -/
def enterPending (exec : Exec) (s : Setup) (w : World) : Option World :=
  match w.pendingRoom with
  | some index => { w with pendingRoom := none }.enterRoom exec s index
  | none => some w

/-- The events of the keys that were pressed. -/
def runKeys (exec : Exec) (s : Setup) (w : World) : Option World :=
  w.keys.pressed.toList.foldlM (fun w key => w.dispatch exec s EventType.keyPress key) w

/-- Removes the instances that were destroyed. -/
def purge (w : World) : World := { w with instances := w.instances.filter Instance.live }

/-- Plays one frame. -/
def step (exec : Exec) (s : Setup) (w : World) : Option World := do
  let w ← w.beginFrame.enterPending exec s
  let w := w.mapLive Instance.rememberPlace
  let w ← w.dispatch exec s EventType.step StepEvent.first
  let w ← w.runAlarms exec s
  let w ← w.runKeys exec s
  let w ← w.dispatch exec s EventType.step StepEvent.normal
  let w ← w.runCollisions exec s
  let w ← w.dispatch exec s EventType.step StepEvent.last
  let w := (w.mapLive (Instance.followPath s.game)).mapLive Instance.applyMotion
  let w ← w.runOutside exec s
  let w ← w.runAnimation exec s
  return w.purge

/-- Lets the keys forget what happened in the frame. -/
def endInput (w : World) : World := { w with keys := w.keys.nextFrame }

end World

end GameRunner

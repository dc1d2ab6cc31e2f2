import GameRunner.Event.Fire

/-!
# Alarms

An instance has twelve alarms. One that is set counts down once a frame, and when it reaches zero its
event happens and the alarm is off.
-/

namespace GameRunner

namespace Instance

/-- Whether some alarm is set. -/
def hasAlarm (i : Instance) : Bool := i.alarms.any (0 ≤ ·)

/-- Counts an alarm down if it is set. The flag tells whether it has run out. -/
def tickAlarm? (i : Instance) (slot : Fin alarmCount) : Option (Instance × Bool) :=
  if 0 ≤ i.alarms[slot] then
    let left := i.alarms[slot] - 1
    if left = 0 then some ({ i with alarms := i.alarms.set slot (-1) }, true)
    else some ({ i with alarms := i.alarms.set slot left }, false)
  else none

end Instance

namespace World

/-- Counts down one alarm of an instance if it is live. -/
def tickAlarm (exec : Exec) (s : Setup) (id : Int32) (w : World) (slot : Fin alarmCount) :
    Option World :=
  match w.instance? id with
  | none => some w
  | some i =>
    if i.destroyed then some w
    else
      match i.tickAlarm? slot with
      | none => some w
      | some (ticked, expired) =>
        let w := w.modify id fun _ => ticked
        if expired then
          let w := w.log .debug fun _ => s!"alarm[{slot.val}] fires for {id} at frame {w.frame}"
          w.fire exec s id EventType.alarm (Int32.ofNat slot) none
        else some w

/-- Counts down the alarms of an instance in turn. One without alarms is passed over. -/
def tickAlarms (exec : Exec) (s : Setup) (w : World) (id : Int32) : Option World :=
  if ((w.instance? id).map Instance.hasAlarm).getD false then
    (List.finRange alarmCount).foldlM (tickAlarm exec s id) w
  else some w

/-- Counts down the alarms of all instances. -/
def runAlarms (exec : Exec) (s : Setup) (w : World) : Option World :=
  w.liveIds.foldlM (tickAlarms exec s) w

end World

end GameRunner

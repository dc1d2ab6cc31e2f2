import GameRunner.Library.Action

/-!
# Instances, rooms and paths
-/

namespace GameRunner

namespace Builtin

/-- The first instance of those that a selector names whose box satisfies a condition. The calling
instance can be left out. -/
def firstColliding (g : Game) (w : World) (selector : Int32) (leaveOut : Bool)
    (hit : Box → Bool) : Value :=
  let (self, other) := w.callers
  let found := (w.select g selector self other).find? fun id =>
    !(leaveOut && w.self == some id) &&
      (((w.instance? id).bind fun i => i.box? g).map hit).getD false
  (found.map Value.ofInt).getD .noone

/-- The entry of a list under an index, which may be negative. -/
def nth? (l : List α) (n : Int32) : Option α := if 0 ≤ n then l[n.toInt.toNat]? else none

/-- Functions of instances. -/
def instances : FunctionTable :=
  [("instance_create", .action fun args => do
      let x ← real args 0
      let y ← real args 1
      let object ← int args 2
      return .create object x y),
    ("instance_destroy", .action fun _ => .ok .destroy),
    ("action_kill_object", .action fun _ => .ok .destroy),
    ("action_move_to", .action fun args => do return .moveTo (← real args 0) (← real args 1)),
    ("instance_exists", asking fun args => do
      let selector ← int args 0
      return fun s w =>
        let (self, other) := w.callers
        .ofBool !(w.select s.game selector self other).isEmpty),
    ("instance_number", asking fun args => do
      let object ← int args 0
      return fun _ w => .ofNat (w.ofObject object).length),
    ("instance_find", asking fun args => do
      let object ← int args 0
      let n ← int args 1
      return fun _ w => ((nth? (w.ofObject object) n).map Value.ofInt).getD .noone),
    ("collision_point", asking fun args => do
      let x ← real args 0
      let y ← real args 1
      let object ← int args 2
      let leaveOut ← arg args 4
      return fun s w => firstColliding s.game w object leaveOut.toBool fun b => b.containsPoint x y),
    ("collision_rectangle", asking fun args => do
      let x1 ← real args 0
      let y1 ← real args 1
      let x2 ← real args 2
      let y2 ← real args 3
      let object ← int args 4
      let leaveOut ← arg args 6
      return fun s w => firstColliding s.game w object leaveOut.toBool fun b =>
        b.touchesRect x1 y1 x2 y2),
    ("script_execute", .runScript),
    ("event_inherited", .action fun _ => .ok .inherit)]

/-- Functions of rooms and paths. -/
def places : FunctionTable :=
  [("room_goto", .action fun args => do
      let room ← int args 0
      return .gotoRoom fun _ => room),
    ("room_goto_next", .action fun _ => .ok (.gotoRoom (· + 1))),
    ("room_goto_previous", .action fun _ => .ok (.gotoRoom (· - 1))),
    ("room_exists", asking fun args => do
      let room ← int args 0
      return fun s _ => .ofBool (s.game.room? room).isSome),
    ("path_start", .action fun args => do
      let path ← int args 0
      let speed ← real args 1
      let endAction ← int args 2
      let absolute ← arg args 3
      return .startPath path speed endAction absolute.toBool),
    ("path_end", .action fun _ => .ok .leavePath)]

end Builtin

end GameRunner

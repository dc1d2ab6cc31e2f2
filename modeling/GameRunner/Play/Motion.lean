import GameRunner.Event.Fire
import GameRunner.Instance.Motion

/-!
# Motion and animation of all instances
-/

namespace GameRunner

namespace Instance

/-- Remembers the place at the start of a frame. -/
def rememberPlace (i : Instance) : Instance := { i with xPrevious := i.x, yPrevious := i.y }

/-- One frame along the path that the instance is on, if any. -/
def followPath (g : Game) (i : Instance) : Instance :=
  match g.path? i.pathIndex with
  | some p => i.advancePath p
  | none => i

/-- Whether the instance lies outside a room of the given size altogether. -/
def isOutside (g : Game) (width height : Float) (i : Instance) : Bool :=
  match i.box? g with
  | some b => b.right < 0 || width < b.left || b.bottom < 0 || height < b.top
  | none => i.x < 0 || width < i.x || i.y < 0 || height < i.y

/-- Advances an animation with a number of pictures. The flag tells whether it has come to its end and
starts over. -/
def animate (pictures : Nat) (i : Instance) : Instance × Bool :=
  let next := i.imageIndex + i.imageSpeed
  let count := Float.ofNat pictures
  if count ≤ next then ({ i with imageIndex := next - count }, true)
  else ({ i with imageIndex := next }, false)

end Instance

namespace World

/-- Marks whether an instance is outside the room; when it has just left, an event tells it so. -/
def checkOutside (exec : Exec) (s : Setup) (width height : Float) (w : World) (id : Int32) :
    Option World :=
  match w.instance? id with
  | none => some w
  | some i =>
    let outside := i.isOutside s.game width height
    if outside = i.outsideRoom then some w
    else
      let w := w.modify id fun i => { i with outsideRoom := outside }
      if outside then w.fire exec s id EventType.misc MiscEvent.outsideRoom none else some w

/-- Marks which instances are outside the room. -/
def runOutside (exec : Exec) (s : Setup) (w : World) : Option World :=
  let room := s.game.room? w.room
  let width := Number.ofInt32 ((room.map (·.width)).getD 0)
  let height := Number.ofInt32 ((room.map (·.height)).getD 0)
  w.visitLive (checkOutside exec s width height) w.liveIds

/-- Advances the animation of an instance. A sprite with fewer than two pictures has none. -/
def animate (exec : Exec) (s : Setup) (w : World) (id : Int32) : Option World :=
  match w.instance? id with
  | none => some w
  | some i =>
    let pictures := ((s.game.sprite? i.spriteIndex).map (·.frames.length)).getD 0
    if pictures ≤ 1 then some w
    else
      let (i, ended) := i.animate pictures
      let w := w.modify id fun _ => i
      if ended then w.fire exec s id EventType.misc MiscEvent.animationEnd none else some w

/-- Advances all animations. -/
def runAnimation (exec : Exec) (s : Setup) (w : World) : Option World :=
  w.visitLive (animate exec s) w.liveIds

end World

end GameRunner

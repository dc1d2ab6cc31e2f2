import GameRunner.Game.Basic
import GameRunner.Geometry.Box
import GameRunner.Geometry.Path
import GameRunner.Instance.Basic

/-!
# Motion and extent of instances
-/

namespace GameRunner

namespace Instance

/-- The collision box, from the margins of the mask or else of the sprite, about the origin and
scaled with the picture. -/
def box? (g : Game) (i : Instance) : Option Box :=
  (g.sprite? (if 0 ≤ i.maskIndex then i.maskIndex else i.spriteIndex)).map fun s =>
    Box.ofCorners
      (i.x + Number.ofInt32 (s.marginLeft - s.originX) * i.imageXScale)
      (i.y + Number.ofInt32 (s.marginTop - s.originY) * i.imageYScale)
      (i.x + Number.ofInt32 (s.marginRight - s.originX) * i.imageXScale)
      (i.y + Number.ofInt32 (s.marginBottom - s.originY) * i.imageYScale)

/-- Gravity adds to the velocity. -/
def applyGravity (i : Instance) : Instance :=
  if i.gravity != 0 then
    { i with
      hSpeed := i.hSpeed + i.gravity * Number.cosDegrees i.gravityDirection
      vSpeed := i.vSpeed - i.gravity * Number.sinDegrees i.gravityDirection }.syncPolar
  else i

/-- Friction takes from the speed until the instance rests. -/
def applyFriction (i : Instance) : Instance :=
  if i.friction != 0 && i.speed != 0 then
    let slowed := i.speed - i.friction
    if slowed ≤ 0 then { i with speed := 0, hSpeed := 0, vSpeed := 0 }
    else { i with speed := slowed }.syncCartesian
  else i

/-- One frame of free motion: gravity, friction, then the velocity moves the instance. -/
def applyMotion (i : Instance) : Instance :=
  let i := i.applyGravity.applyFriction
  { i with x := i.x + i.hSpeed, y := i.y + i.vSpeed }

/-- Takes the instance off its path. -/
def stopPath (i : Instance) : Instance :=
  { i with pathIndex := -1, pathPosition := 0, pathSpeed := 0 }

/-- Puts the instance at a position on a path. -/
def placeOnPath (i : Instance) (p : Path) (position : Float) : Instance :=
  match p.pointAt? position with
  | some (x, y) => { i with x := x + i.pathXOffset, y := y + i.pathYOffset }
  | none => i

/-- One frame of motion along a path. A path without length does not move the instance. -/
def advancePath (i : Instance) (p : Path) : Instance :=
  let length := p.length
  if length ≤ 0 then i
  else
    match advancePosition (.ofInt i.pathEndAction) i.pathPosition i.pathSpeed length with
    | .goOn position speed =>
      { i with pathPosition := position, pathSpeed := speed }.placeOnPath p position
    | .leave atEnd => (i.placeOnPath p (if atEnd then 1 else 0)).stopPath

end Instance

end GameRunner

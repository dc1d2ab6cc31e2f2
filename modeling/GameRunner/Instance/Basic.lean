import GameRunner.Dict
import GameRunner.Value

/-!
# Instances

An instance is a member of a room: a place, a picture, a motion, alarms, and variables of its own.
Built-in fields are read and written by name. The velocity is kept both by its components and by
speed and direction, and writing one of these brings the others in line.
-/

namespace GameRunner

/-- The number of alarms of an instance. -/
def alarmCount : Nat := 12

/-- The ids of instances start here; smaller numbers name objects. -/
def firstInstanceId : Int32 := 100000

/-- An instance. An alarm of `-1` is off. The returned value is what a script running on the
instance has returned. An instance that has left the room is marked, so that this is reported
once. -/
structure Instance where
  id : Int32
  objectIndex : Int32
  x : Float
  y : Float
  spriteIndex : Int32 := -1
  imageIndex : Float := 0
  imageSpeed : Float := 1
  imageXScale : Float := 1
  imageYScale : Float := 1
  imageAngle : Float := 0
  imageBlend : Int32 := 0xffffff
  imageAlpha : Float := 1
  depth : Int32 := 0
  visible : Bool := true
  solid : Bool := false
  persistent : Bool := false
  xPrevious : Float := x
  yPrevious : Float := y
  xStart : Float := x
  yStart : Float := y
  hSpeed : Float := 0
  vSpeed : Float := 0
  speed : Float := 0
  direction : Float := 0
  friction : Float := 0
  gravity : Float := 0
  gravityDirection : Float := 270
  maskIndex : Int32 := -1
  pathIndex : Int32 := -1
  pathPosition : Float := 0
  pathSpeed : Float := 0
  pathEndAction : Int32 := 0
  pathOrientation : Float := 0
  pathScale : Float := 1
  pathXOffset : Float := 0
  pathYOffset : Float := 0
  alarms : Vector Int32 alarmCount := Vector.replicate alarmCount (-1)
  vars : Dict String Value := .empty
  returned : Option Value := none
  destroyed : Bool := false
  outsideRoom : Bool := false

namespace Instance

/-- A new instance at a place. -/
def create (id object : Int32) (x y : Float) : Instance :=
  { id, objectIndex := object, x, y }

/-- Whether the instance takes part in the game. -/
def live (i : Instance) : Bool := !i.destroyed

/-- Brings speed and direction in line with the components of the velocity. -/
def syncPolar (i : Instance) : Instance :=
  { i with
    speed := Number.hypotenuse i.hSpeed i.vSpeed
    direction := Number.direction i.hSpeed i.vSpeed }

/-- Brings the components of the velocity in line with speed and direction. -/
def syncCartesian (i : Instance) : Instance :=
  { i with
    hSpeed := i.speed * Number.cosDegrees i.direction
    vSpeed := -i.speed * Number.sinDegrees i.direction }

/-- The value of a built-in field. -/
def field? (i : Instance) (name : String) : Option Value :=
  match name with
  | "x" => some (.real i.x)
  | "y" => some (.real i.y)
  | "xprevious" => some (.real i.xPrevious)
  | "yprevious" => some (.real i.yPrevious)
  | "xstart" => some (.real i.xStart)
  | "ystart" => some (.real i.yStart)
  | "hspeed" => some (.real i.hSpeed)
  | "vspeed" => some (.real i.vSpeed)
  | "speed" => some (.real i.speed)
  | "direction" => some (.real i.direction)
  | "friction" => some (.real i.friction)
  | "gravity" => some (.real i.gravity)
  | "gravity_direction" => some (.real i.gravityDirection)
  | "sprite_index" => some (.ofInt i.spriteIndex)
  | "image_index" => some (.real i.imageIndex)
  | "image_speed" => some (.real i.imageSpeed)
  | "image_xscale" => some (.real i.imageXScale)
  | "image_yscale" => some (.real i.imageYScale)
  | "image_angle" => some (.real i.imageAngle)
  | "image_blend" => some (.ofInt i.imageBlend)
  | "image_alpha" => some (.real i.imageAlpha)
  | "depth" => some (.ofInt i.depth)
  | "visible" => some (.ofBool i.visible)
  | "solid" => some (.ofBool i.solid)
  | "persistent" => some (.ofBool i.persistent)
  | "object_index" => some (.ofInt i.objectIndex)
  | "id" => some (.ofInt i.id)
  | "mask_index" => some (.ofInt i.maskIndex)
  | "path_index" => some (.ofInt i.pathIndex)
  | "path_position" => some (.real i.pathPosition)
  | "path_speed" => some (.real i.pathSpeed)
  | "path_endaction" => some (.ofInt i.pathEndAction)
  | "path_orientation" => some (.real i.pathOrientation)
  | "path_scale" => some (.real i.pathScale)
  | "alarm" => some .zero
  | _ => none

/-- The instance with a built-in field changed, if the name is that of a field that can be. -/
def withField? (i : Instance) (name : String) (v : Value) : Option Instance :=
  match name with
  | "x" => some { i with x := v.toReal }
  | "y" => some { i with y := v.toReal }
  | "xprevious" => some { i with xPrevious := v.toReal }
  | "yprevious" => some { i with yPrevious := v.toReal }
  | "xstart" => some { i with xStart := v.toReal }
  | "ystart" => some { i with yStart := v.toReal }
  | "hspeed" => some { i with hSpeed := v.toReal }.syncPolar
  | "vspeed" => some { i with vSpeed := v.toReal }.syncPolar
  | "speed" => some { i with speed := v.toReal }.syncCartesian
  | "direction" => some { i with direction := v.toReal }.syncCartesian
  | "friction" => some { i with friction := v.toReal }
  | "gravity" => some { i with gravity := v.toReal }
  | "gravity_direction" => some { i with gravityDirection := v.toReal }
  | "sprite_index" => some { i with spriteIndex := v.toInt }
  | "image_index" => some { i with imageIndex := v.toReal }
  | "image_speed" => some { i with imageSpeed := v.toReal }
  | "image_xscale" => some { i with imageXScale := v.toReal }
  | "image_yscale" => some { i with imageYScale := v.toReal }
  | "image_angle" => some { i with imageAngle := v.toReal }
  | "image_blend" => some { i with imageBlend := v.toInt }
  | "image_alpha" => some { i with imageAlpha := v.toReal }
  | "depth" => some { i with depth := v.toInt }
  | "visible" => some { i with visible := v.toBool }
  | "solid" => some { i with solid := v.toBool }
  | "persistent" => some { i with persistent := v.toBool }
  | "mask_index" => some { i with maskIndex := v.toInt }
  | "path_index" => some { i with pathIndex := v.toInt }
  | "path_position" => some { i with pathPosition := v.toReal }
  | "path_speed" => some { i with pathSpeed := v.toReal }
  | "path_endaction" => some { i with pathEndAction := v.toInt }
  | "path_orientation" => some { i with pathOrientation := v.toReal }
  | "path_scale" => some { i with pathScale := v.toReal }
  | _ => none

/-- Stores into a built-in field, or else into a variable of the instance. -/
def store (i : Instance) (name : String) (v : Value) : Instance :=
  match i.withField? name v with
  | some i => i
  | none => { i with vars := i.vars.insert name v }

/-- An element of an array variable. Alarms are the elements of the built-in array `alarm`. -/
def element (i : Instance) (name : String) (index : Int32) : Value :=
  if name = "alarm" then
    if 0 ≤ index then
      match i.alarms[index.toInt.toNat]? with
      | some n => .ofInt n
      | none => .real (-1)
    else .real (-1)
  else
    match i.vars.get? name with
    | some v => v.arrayGet index
    | none => .zero

/-- Stores an element of an array variable. -/
def storeElement (i : Instance) (name : String) (index : Int32) (v : Value) : Instance :=
  if name = "alarm" then
    if 0 ≤ index then
      { i with alarms := i.alarms.setIfInBounds index.toInt.toNat v.toInt }
    else i
  else
    let slot := (i.vars.get? name).getD .zero
    { i with vars := i.vars.insert name (slot.arraySet index v) }

end Instance

end GameRunner

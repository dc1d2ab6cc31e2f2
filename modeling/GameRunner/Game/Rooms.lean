/-!
# Objects and rooms

An object describes the instances made of it and what they do when events happen. A room is a place
with a size, backgrounds, tiles, views and the instances that it starts with.
-/

namespace GameRunner

/-- The code run for one subtype of an event, in order; `-1` stands for no code. -/
structure EventHandler where
  subtype : Int32
  actions : List Int32
  deriving Repr, DecidableEq, Inhabited

/-- A kind of instance. Events that an object does not handle are handled by its parent. -/
structure GameObject where
  name : String := ""
  sprite : Int32 := -1
  visible : Bool := true
  solid : Bool := false
  depth : Int32 := 0
  persistent : Bool := false
  parent : Int32 := -1
  mask : Int32 := -1
  events : List (List EventHandler) := []
  deriving Repr, DecidableEq, Inhabited

/-- The handler of an event type and subtype in an object's own table. -/
def GameObject.handler? (o : GameObject) (type : Nat) (subtype : Int32) : Option EventHandler :=
  (o.events[type]?).bind fun handlers => handlers.find? fun h => h.subtype = subtype

/-- A background of a room. -/
structure BackgroundLayer where
  enabled : Bool
  foreground : Bool
  background : Int32
  x : Int32
  y : Int32
  tileX : Bool
  tileY : Bool
  speedX : Int32
  speedY : Int32
  stretch : Bool
  deriving Repr, DecidableEq, Inhabited

/-- A part of the room and where in the window it is shown. -/
structure View where
  enabled : Bool
  viewX : Int32
  viewY : Int32
  viewW : Int32
  viewH : Int32
  portX : Int32
  portY : Int32
  portW : Int32
  portH : Int32
  borderH : Int32
  borderV : Int32
  speedH : Int32
  speedV : Int32
  followObject : Int32
  deriving Repr, DecidableEq, Inhabited

/-- An instance that a room starts with. -/
structure Placement where
  x : Int32
  y : Int32
  object : Int32
  instanceId : Int32
  creationCode : Int32
  scaleX : Float32
  scaleY : Float32
  color : Int32
  rotation : Float32

/-- A piece of a background placed in a room. -/
structure Tile where
  x : Int32
  y : Int32
  background : Int32
  sourceX : Int32
  sourceY : Int32
  width : Int32
  height : Int32
  depth : Int32
  instanceId : Int32
  scaleX : Float32
  scaleY : Float32
  color : Int32

/-- A room. -/
structure Room where
  name : String := ""
  caption : String := ""
  width : Int32 := 0
  height : Int32 := 0
  speed : Int32 := 0
  persistent : Bool := false
  bgColor : Int32 := 0
  drawBgColor : Bool := false
  creationCode : Int32 := -1
  flags : Int32 := 0
  backgrounds : List BackgroundLayer := []
  views : List View := []
  placements : List Placement := []
  tiles : List Tile := []

end GameRunner

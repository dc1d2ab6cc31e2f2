import GameRunner.Instance.Motion
import GameRunner.World.Selection

/-!
# Variables

A name means a built-in field of an instance, a value computed from it, a variable of the instance, a
value of the engine or a global variable, in this order. The views of the room can be read and
written as arrays.
-/

namespace GameRunner

namespace World

/-- Window and room size where there is no room. -/
def defaultSize : Int32 × Int32 := (640, 480)

/-- Room speed where there is no room. -/
def defaultSpeed : Int32 := 30

/-- Whether the current room counts as persistent. -/
def isRoomPersistent (w : World) : Bool :=
  0 ≤ w.room && (w.roomPersistent[w.room.toInt.toNat]?).getD false

/-- A value of the engine or else a global variable. -/
def globalValue (g : Game) (w : World) (name : String) : Value :=
  let room := g.room? w.room
  match name with
  | "room" => .ofInt w.room
  | "room_speed" => .ofInt ((room.map (·.speed)).getD defaultSpeed)
  | "fps" => .ofInt ((room.map (·.speed)).getD defaultSpeed)
  | "room_width" => .ofInt ((room.map (·.width)).getD defaultSize.1)
  | "room_height" => .ofInt ((room.map (·.height)).getD defaultSize.2)
  | "view_current" => .ofInt w.currentView
  | "current_time" => .real w.clock.elapsed
  | "instance_count" => .ofNat w.instances.live.length
  | "keyboard_key" => .ofInt w.keys.current
  | "keyboard_lastkey" => .ofInt w.keys.last
  | "mouse_x" => .real w.keys.mouseX
  | "mouse_y" => .real w.keys.mouseY
  | "os_type" => .one
  | "game_id" => .ofInt g.info.gameId
  | "working_directory" => .str ""
  | "program_directory" => .str ""
  | "temp_directory" => .str "/tmp/"
  | "browser_width" => .ofInt g.info.windowWidth
  | "browser_height" => .ofInt g.info.windowHeight
  | "display_aa" => .zero
  | "application_surface" => .real (-1)
  | "path_action_stop" => .zero
  | "path_action_restart" => .one
  | "path_action_continue" => .real 2
  | "path_action_reverse" => .real 3
  | _ => (w.globals.get? name).getD .zero

/-- Stores a global variable. The room speed cannot be stored. -/
def storeGlobal (w : World) (name : String) (v : Value) : World :=
  match name with
  | "room_speed" => w
  | "keyboard_lastkey" => { w with keys := { w.keys with last := v.toInt } }
  | _ => { w with globals := w.globals.insert name v }

/-- An edge of the collision box as code sees it, in whole pixels. -/
def boxEdge? (b : Box) (name : String) : Option Float :=
  match name with
  | "bbox_left" => some b.left.floor
  | "bbox_top" => some b.top.floor
  | "bbox_right" => some (b.right - 1).ceil
  | "bbox_bottom" => some (b.bottom - 1).ceil
  | _ => none

/-- Whether a name is that of an edge of the collision box. -/
def isBoxEdge (name : String) : Bool :=
  ["bbox_left", "bbox_right", "bbox_top", "bbox_bottom"].contains name

/-- A value computed from an instance and its sprite. -/
def computed? (g : Game) (w : World) (i : Instance) (name : String) : Option Value :=
  if isBoxEdge name then
    some (((i.box? g).bind fun b => (boxEdge? b name).map Value.real).getD .zero)
  else
    let sprite := g.sprite? i.spriteIndex
    match name with
    | "sprite_width" =>
      some (.real ((sprite.map fun s => Number.ofInt32 s.width * i.imageXScale.abs).getD 0))
    | "sprite_height" =>
      some (.real ((sprite.map fun s => Number.ofInt32 s.height * i.imageYScale.abs).getD 0))
    | "image_number" => some (.ofNat ((sprite.map (·.frames.length)).getD 0))
    | "room_persistent" => some (.ofBool w.isRoomPersistent)
    | _ => none

/-- The value of a name on an instance. -/
def valueOn (g : Game) (w : World) (id : Int32) (name : String) : Value :=
  match w.instance? id with
  | none => .zero
  | some i =>
    match i.field? name with
    | some v => v
    | none =>
      match computed? g w i name with
      | some v => v
      | none =>
        match i.vars.get? name with
        | some v => v
        | none => globalValue g w name

/-- Stores under a name on an instance. -/
def storeOn (w : World) (id : Int32) (name : String) (v : Value) : World :=
  if name = "room_persistent" then
    if 0 ≤ w.room then
      { w with roomPersistent := w.roomPersistent.set w.room.toInt.toNat v.toBool }
    else w
  else w.modify id fun i => i.store name v

/-- An element of an array on an instance. -/
def elementOn (w : World) (id : Int32) (name : String) (index : Int32) : Value :=
  ((w.instance? id).map fun i => i.element name index).getD .zero

/-- Stores an element of an array on an instance. -/
def storeElementOn (w : World) (id : Int32) (name : String) (index : Int32) (v : Value) : World :=
  w.modify id fun i => i.storeElement name index v

/-- An element of a global array. -/
def globalElement (w : World) (name : String) (index : Int32) : Value :=
  ((w.globals.get? name).map fun v => v.arrayGet index).getD .zero

/-- Stores an element of a global array. -/
def storeGlobalElement (w : World) (name : String) (index : Int32) (v : Value) : World :=
  let slot := (w.globals.get? name).getD .zero
  { w with globals := w.globals.insert name (slot.arraySet index v) }

/-- The view with an index. -/
def view? (w : World) (index : Int32) : Option View :=
  if 0 ≤ index then w.views[index.toInt.toNat]? else none

/-- An element of one of the view arrays; a view that does not exist has default values. -/
def viewElement? (w : World) (name : String) (index : Int32) : Option Value :=
  let view := w.view? index
  let number (f : View → Int32) (default : Int32) : Option Value :=
    some (.ofInt ((view.map f).getD default))
  match name with
  | "view_xview" => number (·.viewX) 0
  | "view_yview" => number (·.viewY) 0
  | "view_wview" => number (·.viewW) defaultSize.1
  | "view_hview" => number (·.viewH) defaultSize.2
  | "view_xport" => number (·.portX) 0
  | "view_yport" => number (·.portY) 0
  | "view_wport" => number (·.portW) defaultSize.1
  | "view_hport" => number (·.portH) defaultSize.2
  | "view_hborder" => number (·.borderH) 0
  | "view_vborder" => number (·.borderV) 0
  | "view_hspeed" => number (·.speedH) 0
  | "view_vspeed" => number (·.speedV) 0
  | "view_object" => number (·.followObject) (-1)
  | "view_visible" => some (.ofBool ((view.map (·.enabled)).getD false))
  | _ => none

/-- A view with one of its fields changed. -/
def viewWith? (view : View) (name : String) (v : Value) : Option View :=
  let n := v.toInt
  match name with
  | "view_xview" => some { view with viewX := n }
  | "view_yview" => some { view with viewY := n }
  | "view_wview" => some { view with viewW := n }
  | "view_hview" => some { view with viewH := n }
  | "view_xport" => some { view with portX := n }
  | "view_yport" => some { view with portY := n }
  | "view_wport" => some { view with portW := n }
  | "view_hport" => some { view with portH := n }
  | "view_hborder" => some { view with borderH := n }
  | "view_vborder" => some { view with borderV := n }
  | "view_hspeed" => some { view with speedH := n }
  | "view_vspeed" => some { view with speedV := n }
  | "view_object" => some { view with followObject := n }
  | "view_visible" => some { view with enabled := v.toReal > 0.5 }
  | _ => none

/-- Stores an element of one of the view arrays, if the name is that of one and the view exists. -/
def storeViewElement? (w : World) (name : String) (index : Int32) (v : Value) : Option World :=
  (w.view? index).bind fun view => (viewWith? view name v).map fun view =>
    { w with views := w.views.set index.toInt.toNat view }

end World

end GameRunner

import GameRunner.Event.Fire

/-!
# Drawing a frame

Each view that is enabled shows the room: backgrounds first, then tiles and instances from the
deepest to the nearest, then foregrounds. Without views the whole room fills the window. A view whose
size is too far from that of the room breaks off the drawing.
-/

namespace GameRunner

namespace Game

/-- Whether a background exists and has a picture. -/
def isDrawable (g : Game) (background : Int32) : Bool :=
  match tableAt? g.backgrounds background with
  | some b => 0 ≤ b.textureItem
  | none => false

/-- The commands for the background layers of a room, or for its foreground layers. -/
def layerCommands (g : Game) (room : Room) (foreground : Bool) : List DrawCommand :=
  let layers := room.backgrounds.filter fun l =>
    l.enabled && l.foreground == foreground && g.isDrawable l.background
  layers.map fun l =>
    .background l.background (Number.ofInt32 l.x) (Number.ofInt32 l.y) l.tileX l.tileY

/-- The commands for the tiles of a room at a depth. -/
def tileCommands (g : Game) (room : Room) (depth : Int32) : List DrawCommand :=
  (room.tiles.filter fun t => t.depth = depth && g.isDrawable t.background).map fun t =>
    .tile t.background t.x t.y t.depth

/-- The nearest handler of the draw event that has any actions. -/
def drawHandler? (g : Game) (object : Int32) : Option (Int32 × EventHandler) :=
  (g.lineage object).findSome? fun o =>
    match o.2.handler? EventType.draw 0 with
    | some h => if h.actions.isEmpty then none else some (o.1, h)
    | none => none

end Game

/-- Different numbers, the greatest first. -/
def insertDescending (n : Int32) : List Int32 → List Int32
  | [] => [n]
  | m :: rest => if m < n then n :: m :: rest else if m = n then m :: rest
    else m :: insertDescending n rest

/-- The different numbers of a list, the greatest first. -/
def descending (l : List Int32) : List Int32 := l.foldr insertDescending []

namespace Instance

/-- The sprite of an instance as it is drawn by default. -/
def spriteCommand? (i : Instance) : Option DrawCommand :=
  if 0 ≤ i.spriteIndex then
    some (.sprite i.spriteIndex (Number.toInt32 i.imageIndex) i.x i.y
      ⟨i.imageXScale, i.imageYScale, i.imageAngle, i.imageBlend, i.imageAlpha⟩)
  else none

end Instance

namespace World

/-- Draws commands in order. -/
def paintAll (w : World) (commands : List DrawCommand) : World := commands.foldl paint w

/-- Draws an instance if it is visible: by the first action of its draw handler if it has one, else
by its sprite. -/
def drawInstance (exec : Exec) (s : Setup) (w : World) (id : Int32) : Option World :=
  match w.instance? id with
  | none => some w
  | some i =>
    if !i.visible then some w
    else
      match s.game.drawHandler? i.objectIndex with
      | some (object, handler) =>
        w.during ⟨EventType.draw, 0, object⟩ (runAll exec id none
          ((handler.actions.take 1).filter (0 ≤ ·)))
      | none => some (w.paintAll i.spriteCommand?.toList)

/-- The ids of the live instances at a depth. -/
def liveAt (w : World) (depth : Int32) : List Int32 :=
  (w.instances.live.filter fun i => i.depth = depth).map (·.id)

/-- Draws the tiles and instances at a depth. -/
def drawDepth (exec : Exec) (s : Setup) (room : Room) (w : World) (depth : Int32) : Option World :=
  let w := w.paintAll (s.game.tileCommands room depth)
  w.visitLive (drawInstance exec s) (w.liveAt depth)

/-- The depths at which there is something. -/
def depths (room : Room) (w : World) : List Int32 :=
  descending (room.tiles.map (·.depth) ++ w.instances.live.map (·.depth))

/-- Draws the room once. -/
def drawLayers (exec : Exec) (s : Setup) (room : Room) (w : World) : Option World := do
  let w := w.paintAll (s.game.layerCommands room false)
  let w ← (depths room w).foldlM (drawDepth exec s room) w
  return w.paintAll (s.game.layerCommands room true)

/-- The view of a room that has none: the whole room fills the window. -/
def wholeRoom (g : Game) (room : Room) : ViewRect where
  viewX := 0
  viewY := 0
  viewW := room.width
  viewH := room.height
  portX := 0
  portY := 0
  portW := g.info.windowWidth
  portH := g.info.windowHeight

/-- A coordinate of a view kept within the room. -/
def keepWithin (coordinate room view : Int32) : Option Int32 :=
  (Number.difference? room view).map fun space =>
    let most := if 0 ≤ space then space else 0
    if coordinate < 0 then 0 else if most < coordinate then most else coordinate

/-- A view kept within the room. -/
def clampView (room : Room) (v : View) : Option View := do
  let viewX ← keepWithin v.viewX room.width v.viewW
  let viewY ← keepWithin v.viewY room.height v.viewH
  return { v with viewX, viewY }

/-- The rectangles of a view. -/
def viewRect (v : View) : ViewRect :=
  ⟨v.viewX, v.viewY, v.viewW, v.viewH, v.portX, v.portY, v.portW, v.portH⟩

/-- The command that fills the window with the colour of the room, if it has one. -/
def clearCommands (room : Room) : List DrawCommand :=
  if room.drawBgColor then [.clear room.bgColor] else []

/-- Draws the room as one of its views shows it. Only the first view fills the window. -/
def drawView (exec : Exec) (s : Setup) (room : Room) (w : World) (index : Nat) : Option World :=
  match w.views[index]? with
  | none => some w
  | some v => do
    let v ← clampView room v
    let w := { w with currentView := Int32.ofNat index, views := w.views.set index v }
    let w := w.paint (.view (viewRect v))
    let w := w.paintAll (if index = 0 then clearCommands room else [])
    w.drawLayers exec s room

/-- The positions of the views that are enabled. -/
def enabledViews (w : World) : List Nat :=
  (w.views.zipIdx.filter fun v => v.1.enabled).map Prod.snd

/-- Draws the current room. -/
def draw (exec : Exec) (s : Setup) (w : World) : Option World :=
  match s.game.room? w.room with
  | none => some w
  | some room =>
    let w := { w with screen := w.screen.begin }
    match w.enabledViews with
    | [] =>
      let w := { w with currentView := 0 }.paint (.view (wholeRoom s.game room))
      (w.paintAll (clearCommands room)).drawLayers exec s room
    | enabled => enabled.foldlM (drawView exec s room) w

end World

end GameRunner

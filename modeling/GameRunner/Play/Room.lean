import GameRunner.Event.Fire
import GameRunner.Number.Convert

/-!
# Entering a room

When a room is left, its instances are dropped except for the persistent ones, which are carried
over. The new room then makes the instances that it starts with, runs its creation code, and the
events follow: creation for the instances placed, game start for the first room ever, room start.
-/

namespace GameRunner

namespace World

/-- Makes the instance of a placement. -/
def place (g : Game) (w : World) (p : Placement) : Int32 × World :=
  let (id, w) := w.create g p.object (Number.ofInt32 p.x) (Number.ofInt32 p.y)
    (if 0 ≤ p.instanceId then some p.instanceId else none)
  (id, w.modify id fun i =>
    { i with
      imageXScale := Number.widen p.scaleX
      imageYScale := Number.widen p.scaleY
      imageAngle := Number.widen p.rotation })

/-- Makes the instances of placements and runs their creation code, except for placements whose
instance is carried over. Gives the ids of the instances made. -/
def placeAll (exec : Exec) (g : Game) (carried : List Int32) :
    List Placement → World → Option (List Int32 × World)
  | [], w => some ([], w)
  | p :: rest, w =>
    if carried.contains p.instanceId then
      placeAll exec g carried rest (w.log .debug fun _ =>
        s!"placement {p.instanceId} already present as a persistent instance")
    else do
      let (id, w) := w.place g p
      let w ← if 0 ≤ p.creationCode then exec w p.creationCode id none else some w
      let (ids, w) ← placeAll exec g carried rest w
      return (id :: ids, w)

/-- Runs the creation code of a room on its first instance. A room without instances gets one for
this purpose, which is destroyed afterwards. -/
def runCreationCode (exec : Exec) (g : Game) (room : Room) (w : World) : Option World :=
  if 0 ≤ room.creationCode then
    match w.instances.ids.head? with
    | some id => exec w room.creationCode id none
    | none => do
      let (id, w) := w.create g (-1) 0 0 none
      let w ← exec w room.creationCode id none
      return w.modify id fun i => { i with destroyed := true }
  else some w

/-- Leaves the current room for another one and keeps the persistent instances. -/
def leaveRoom (w : World) (index : Int32) (room : Room) : World :=
  { w with
    instances := w.instances.filter fun i => i.persistent && !i.destroyed
    room := index
    views := room.views
    currentView := 0 }

/-- The event at the start of the game, when the first room is entered. -/
def startGame (exec : Exec) (s : Setup) (w : World) : Option World :=
  if w.started then some w
  else dispatch exec s { w with started := true } EventType.misc MiscEvent.gameStart

/-- The events at the start of a room. -/
def startRoom (exec : Exec) (s : Setup) (placed : List Int32) (w : World) : Option World := do
  let w ← w.visitLive (fun w id => w.fire exec s id EventType.create 0 none) placed
  let w ← w.startGame exec s
  w.dispatch exec s EventType.misc MiscEvent.roomStart

/-- Enters a room. Nothing happens if there is no such room. -/
def enterRoom (exec : Exec) (s : Setup) (w : World) (index : Int32) : Option World :=
  match s.game.room? index with
  | none => some (w.log .warn fun _ => s!"room transition to {index} ignored: no such room")
  | some room => do
    let w ← w.dispatch exec s EventType.misc MiscEvent.roomEnd
    let w := w.leaveRoom index room
    let carried := w.instances.ids
    let w := w.log .info fun _ =>
      s!"Entering room {room.name} ({room.width}x{room.height}), {room.placements.length} " ++
        s!"placements, {carried.length} carried over"
    let (placed, w) ← placeAll exec s.game carried room.placements w
    let w ← w.runCreationCode exec s.game room
    w.startRoom exec s placed

end World

end GameRunner

import GameRunner.Archive.Chunk
import GameRunner.Game.Rooms

/-!
# Object and room tables

Event tables and the lists of a room go through several levels of pointers. A nested list that
cannot be read is replaced by an empty one; the records themselves have to be there.
-/

namespace GameRunner.Archive

/-- The code of an event action. The stored number is either the position of a code record or
already an index; anything else becomes `-1`. -/
def actionCode (code : PointerIndex) (raw : Int32) : Load Int32 := do
  if raw < 0 then return -1
  let n := raw.toInt.toNat
  match code.find? n with
  | some i => return Int32.ofNat i
  | none =>
    if n < code.distinct then return raw
    note .warn fun _ =>
      "event action refers to code " ++ Text.hex n ++ ", which is not a code entry"
    return -1

/-- Creation code has to be the position of a code record; anything else becomes `-1`. -/
def creationCode (code : PointerIndex) (raw : Int32) : Int32 :=
  if raw < 0 then -1 else code.findOr raw.toInt.toNat

/-- The handler of one event subtype: the subtype, then a list of actions. -/
def eventHandler (b : ByteArray) (code : PointerIndex) (ptr : Nat) : Load EventHandler := do
  let actions ← (← pointerList b (ptr + 4)).mapM fun action => do
    actionCode code (← i32At b (action + 0x20))
  return { subtype := ← i32At b ptr, actions }

/-- An event table: a list by event type of lists of handlers. -/
def eventTable (b : ByteArray) (code : PointerIndex) (pos : Nat) :
    Load (List (List EventHandler)) := do
  (← pointerList b pos).mapM fun type => do
    (← pointerList b type).mapM (eventHandler b code)

/-- An object. Vertices of a physics shape, of eight bytes each, stand before the event table. -/
def object (b : ByteArray) (code : PointerIndex) (ptr : Nat) : Load GameObject := do
  let name ← stringRefAt b ptr
  let vertices ← natAt b (ptr + 0x40)
  let events ← orEmpty "event table" name (eventTable b code (ptr + 0x50 + vertices * 8))
  let sprite ← i32At b (ptr + 4)
  let visible ← boolAt b (ptr + 8)
  let solid ← boolAt b (ptr + 0x0c)
  let depth ← i32At b (ptr + 0x10)
  let persistent ← boolAt b (ptr + 0x14)
  let parent ← i32At b (ptr + 0x18)
  let mask ← i32At b (ptr + 0x1c)
  return { name, sprite, visible, solid, depth, persistent, parent, mask, events }

/-- The objects. -/
def objects (b : ByteArray) (code : PointerIndex) (c : Chunk) : Load (List GameObject) := do
  let found ← (← pointerList b c.start).mapM (object b code)
  note .debug fun _ => s!"OBJT: {found.length} objects"
  return found

/-- A list of records behind a list of pointers. -/
def records (b : ByteArray) (record : Nat → Read α) (pos : Nat) : Read (List α) := do
  (← pointerList b pos).mapM record

/-- A background layer. -/
def backgroundLayer (b : ByteArray) (p : Nat) : Read BackgroundLayer := do
  return { enabled := ← boolAt b p
           foreground := ← boolAt b (p + 4)
           background := ← i32At b (p + 8)
           x := ← i32At b (p + 12)
           y := ← i32At b (p + 16)
           tileX := ← boolAt b (p + 20)
           tileY := ← boolAt b (p + 24)
           speedX := ← i32At b (p + 28)
           speedY := ← i32At b (p + 32)
           stretch := ← boolAt b (p + 36) }

/-- A view. -/
def view (b : ByteArray) (p : Nat) : Read View := do
  return { enabled := ← boolAt b p
           viewX := ← i32At b (p + 4)
           viewY := ← i32At b (p + 8)
           viewW := ← i32At b (p + 12)
           viewH := ← i32At b (p + 16)
           portX := ← i32At b (p + 20)
           portY := ← i32At b (p + 24)
           portW := ← i32At b (p + 28)
           portH := ← i32At b (p + 32)
           borderH := ← i32At b (p + 36)
           borderV := ← i32At b (p + 40)
           speedH := ← i32At b (p + 44)
           speedV := ← i32At b (p + 48)
           followObject := ← i32At b (p + 52) }

/-- A placement. -/
def placement (b : ByteArray) (code : PointerIndex) (p : Nat) : Read Placement := do
  return { x := ← i32At b p
           y := ← i32At b (p + 4)
           object := ← i32At b (p + 8)
           instanceId := ← i32At b (p + 12)
           creationCode := creationCode code (← i32At b (p + 16))
           scaleX := ← f32At b (p + 20)
           scaleY := ← f32At b (p + 24)
           color := ← i32At b (p + 28)
           rotation := ← f32At b (p + 32) }

/-- A tile. -/
def tile (b : ByteArray) (p : Nat) : Read Tile := do
  return { x := ← i32At b p
           y := ← i32At b (p + 4)
           background := ← i32At b (p + 8)
           sourceX := ← i32At b (p + 12)
           sourceY := ← i32At b (p + 16)
           width := ← i32At b (p + 20)
           height := ← i32At b (p + 24)
           depth := ← i32At b (p + 28)
           instanceId := ← i32At b (p + 32)
           scaleX := ← f32At b (p + 36)
           scaleY := ← f32At b (p + 40)
           color := ← i32At b (p + 44) }

/-- The list that the pointer at a position leads to. -/
def recordsVia (b : ByteArray) (record : Nat → Read α) (pos : Nat) : Read (List α) := do
  records b record (← natAt b pos)

/-- A room. -/
def room (b : ByteArray) (code : PointerIndex) (ptr : Nat) : Load Room := do
  let name ← stringRefAt b ptr
  let backgrounds ← orEmpty "background list" name (recordsVia b (backgroundLayer b) (ptr + 0x28))
  let views ← orEmpty "view list" name (recordsVia b (view b) (ptr + 0x2c))
  let placements ← orEmpty "instance list" name (recordsVia b (placement b code) (ptr + 0x30))
  let tiles ← orEmpty "tile list" name (recordsVia b (tile b) (ptr + 0x34))
  let caption ← stringRefAt b (ptr + 4)
  let width ← i32At b (ptr + 8)
  let height ← i32At b (ptr + 0x0c)
  let speed ← i32At b (ptr + 0x10)
  let persistent ← boolAt b (ptr + 0x14)
  let bgColor ← i32At b (ptr + 0x18)
  let drawBgColor ← boolAt b (ptr + 0x1c)
  let creation ← i32At b (ptr + 0x20)
  let flags ← i32At b (ptr + 0x24)
  return { name, caption, width, height, speed, persistent, bgColor, drawBgColor,
           creationCode := creationCode code creation, flags, backgrounds, views, placements,
           tiles }

/-- The rooms. -/
def rooms (b : ByteArray) (code : PointerIndex) (c : Chunk) : Load (List Room) := do
  let found ← (← pointerList b c.start).mapM (room b code)
  note .debug fun _ => s!"ROOM: {found.length} rooms"
  return found

end GameRunner.Archive

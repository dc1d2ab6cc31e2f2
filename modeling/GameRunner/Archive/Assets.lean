import GameRunner.Archive.Chunk
import GameRunner.Game.Assets

/-!
# Asset tables

Strings, general information, textures, sprites, backgrounds, paths and fonts. Except for general
information, each table is a list of pointers to records.
-/

namespace GameRunner.Archive

/-- The string table. -/
def strings (b : ByteArray) (c : Chunk) : Load (List String) := do
  let found ← (← pointerList b c.start).mapM (stringAt b ·)
  note .debug fun _ => s!"STRG: {found.length} strings"
  return found

/-- General information. -/
def info (b : ByteArray) (c : Chunk) : Load GameInfo := do
  let d := c.start
  let count ← natAt b (d + 0x80)
  let _ ← bytesAt b (d + 0x84) (count * 4)
  let order ← (List.range count).mapM fun i => (i32At b (d + 0x84 + i * 4) : Load Int32)
  let version ← u8At b (d + 1)
  let name ← stringRefAt b (d + 0x28)
  let displayName ← stringRefAt b (d + 0x64)
  let gameId ← i32At b (d + 0x14)
  let width ← i32At b (d + 0x3c)
  let height ← i32At b (d + 0x40)
  note .debug fun _ =>
    s!"GEN8: '{name}' bytecode {version} window {width}x{height}, {order.length} rooms in order"
  return { bytecodeVersion := version, name, displayName, gameId, windowWidth := width,
           windowHeight := height, roomOrder := order }

/-- A texture item. -/
def textureItem (b : ByteArray) (ptr : Nat) : Read TextureItem := do
  return { sourceX := ← u16At b ptr
           sourceY := ← u16At b (ptr + 2)
           sourceWidth := ← u16At b (ptr + 4)
           sourceHeight := ← u16At b (ptr + 6)
           targetX := ← u16At b (ptr + 8)
           targetY := ← u16At b (ptr + 10)
           targetWidth := ← u16At b (ptr + 12)
           targetHeight := ← u16At b (ptr + 14)
           boundingWidth := ← u16At b (ptr + 16)
           boundingHeight := ← u16At b (ptr + 18)
           texturePage := ← u16At b (ptr + 20) }

/-- The texture items, and where their records start. -/
def textureItems (b : ByteArray) (c : Chunk) : Load (PointerIndex × List TextureItem) := do
  let pointers ← pointerList b c.start
  let items ← pointers.mapM (textureItem b ·)
  note .debug fun _ => s!"TPAG: {items.length} items"
  return (.ofList pointers, items)

/-- Pages that start at the given offsets and extend to the next one, the last to `stop`. -/
def pagesFrom (stop : Nat) : List Nat → List TexturePage
  | [] => []
  | offset :: rest => ⟨offset, rest.headD stop - offset⟩ :: pagesFrom stop rest

/-- The texture pages. -/
def texturePages (b : ByteArray) (c : Chunk) : Load (List TexturePage) := do
  let offsets ← (← pointerList b c.start).mapM fun ptr => (natAt b (ptr + 4) : Load Nat)
  let pages := pagesFrom c.stop offsets
  note .debug fun _ => s!"TXTR: {pages.length} texture pages"
  return pages

/-- The texture items of a sprite's frames. -/
def spriteFrames (b : ByteArray) (items : PointerIndex) (pos : Nat) : Read (List Int32) := do
  return (← pointerList b pos).map items.findOr

/-- A sprite. -/
def sprite (b : ByteArray) (items : PointerIndex) (ptr : Nat) : Load Sprite := do
  let name ← stringRefAt b ptr
  let frames ← orEmpty "frame list" name (spriteFrames b items (ptr + 0x38))
  let width ← i32At b (ptr + 4)
  let height ← i32At b (ptr + 8)
  let marginLeft ← i32At b (ptr + 0x0c)
  let marginRight ← i32At b (ptr + 0x10)
  let marginBottom ← i32At b (ptr + 0x14)
  let marginTop ← i32At b (ptr + 0x18)
  let originX ← i32At b (ptr + 0x30)
  let originY ← i32At b (ptr + 0x34)
  return { name, width, height, marginLeft, marginRight, marginTop, marginBottom, originX, originY,
           frames }

/-- The sprites. -/
def sprites (b : ByteArray) (items : PointerIndex) (c : Chunk) : Load (List Sprite) := do
  let found ← (← pointerList b c.start).mapM (sprite b items)
  note .debug fun _ => s!"SPRT: {found.length} sprites"
  return found

/-- A background. -/
def background (b : ByteArray) (items : PointerIndex) (ptr : Nat) : Read Background := do
  let name ← stringRefAt b ptr
  return { name, textureItem := items.findOr (← natAt b (ptr + 0x10)) }

/-- The backgrounds. -/
def backgrounds (b : ByteArray) (items : PointerIndex) (c : Chunk) : Load (List Background) := do
  let found ← (← pointerList b c.start).mapM (background b items ·)
  note .debug fun _ => s!"BGND: {found.length} backgrounds"
  return found

/-- The points of a path: a count, then three numbers each. -/
def pathPoints (b : ByteArray) (pos : Nat) : Read (List PathPoint) := do
  let count ← natAt b pos
  let _ ← bytesAt b (pos + 4) (count * 12)
  (List.range count).mapM fun i => do
    let p := pos + 4 + i * 12
    return ⟨← f32At b p, ← f32At b (p + 4), ← f32At b (p + 8)⟩

/-- A path. -/
def path (b : ByteArray) (ptr : Nat) : Load Path := do
  let name ← stringRefAt b ptr
  let points ← orEmpty "point list" name (pathPoints b (ptr + 16))
  let smooth ← boolAt b (ptr + 4)
  let closed ← boolAt b (ptr + 8)
  let precision ← i32At b (ptr + 12)
  return { name, smooth, closed, precision, points }

/-- The paths. -/
def paths (b : ByteArray) (c : Chunk) : Load (List Path) := do
  let found ← (← pointerList b c.start).mapM (path b)
  note .debug fun _ => s!"PATH: {found.length} paths"
  return found

/-- A glyph. -/
def glyph (b : ByteArray) (ptr : Nat) : Read Glyph := do
  return { character := ← u16At b ptr
           x := ← u16At b (ptr + 2)
           y := ← u16At b (ptr + 4)
           width := ← u16At b (ptr + 6)
           height := ← u16At b (ptr + 8)
           shift := ← u16At b (ptr + 10)
           offset := ← u16At b (ptr + 12) }

/-- The glyphs of a font. -/
def glyphs (b : ByteArray) (pos : Nat) : Read (List Glyph) := do
  (← pointerList b pos).mapM (glyph b)

/-- A font. -/
def font (b : ByteArray) (items : PointerIndex) (ptr : Nat) : Load Font := do
  let name ← stringRefAt b ptr
  let glyphs ← orEmpty "glyph list" name (glyphs b (ptr + 40))
  let displayName ← stringRefAt b (ptr + 4)
  let emSize ← i32At b (ptr + 8)
  let textureItem := items.findOr (← natAt b (ptr + 28))
  let scaleX ← f32At b (ptr + 32)
  let scaleY ← f32At b (ptr + 36)
  return { name, displayName, emSize, textureItem, scaleX, scaleY, glyphs }

/-- The fonts. -/
def fonts (b : ByteArray) (items : PointerIndex) (c : Chunk) : Load (List Font) := do
  let found ← (← pointerList b c.start).mapM (font b items)
  note .debug fun _ => s!"FONT: {found.length} fonts"
  return found

end GameRunner.Archive

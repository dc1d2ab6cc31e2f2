import GameRunner.Archive.Block
import GameRunner.Game.Basic
import GameRunner.Program.Threading

/-!
# Writing archives

A draft describes a game of which an archive is to be written: its tables and its code as it was
assembled. Pictures are left out, so sprites have no frames and rooms neither backgrounds nor tiles.
The layout follows the order in which the chunks are read. The string table comes first, and every
name leads into it; code entries lie behind their records, tied into chains of references.
-/

namespace GameRunner

/-- A code entry before it is placed. -/
structure DraftCode where
  name : String := ""
  locals : UInt16 := 0
  arguments : UInt16 := 0
  assembly : Assembly := .empty

/-- A game to be written. The chains of variables and functions are filled in on writing. -/
structure Draft where
  info : GameInfo := {}
  strings : List String := []
  sprites : List Sprite := []
  paths : List Path := []
  code : List DraftCode := []
  objects : List GameObject := []
  rooms : List Room := []
  scripts : List Script := []
  variableTable : List Variable := []
  functionTable : List Function := []

namespace Draft

open Archive

/-- Every name in the draft, in the order of the tables. -/
def names (d : Draft) : List String :=
  [d.info.name, d.info.displayName] ++ d.sprites.map (·.name) ++ d.paths.map (·.name) ++
    d.code.map (·.name) ++ d.objects.map (·.name) ++
    d.rooms.flatMap (fun r => [r.name, r.caption]) ++ d.scripts.map (·.name) ++
    d.variableTable.map (·.name) ++ d.functionTable.map (·.name)

/-- The strings of the draft, followed by the names that are not among them. -/
def stringTable (d : Draft) : List String :=
  d.names.foldl (fun table name =>
    if name.isEmpty || table.contains name then table else table ++ [name]) d.strings

/-- An entry of the string table: the length of a text, its bytes and a zero. -/
def stringEntry (s : String) : Block :=
  .nat s.utf8ByteSize ++ .ofBytes s.toUTF8.data.toList ++ .ofBytes [0]

/-- The string table. -/
def stringBlock (d : Draft) : Block := .list (d.stringTable.map stringEntry)

/-- Where the bytes of the texts in the string table lie. Its chunk is the first one. -/
def stringPositions (d : Draft) : List Nat :=
  (Block.positions (20 + 4 * d.stringTable.length) (d.stringTable.map stringEntry)).map (· + 4)

/-- A reference to a text, null if the string table does not have it. -/
def stringRef (d : Draft) (s : String) : Block :=
  .nat (((d.stringTable.zip d.stringPositions).findRev? fun e => e.1 == s).map (·.2) |>.getD 0)

/-- General information. -/
def infoBlock (d : Draft) : Block :=
  .ofBytes [0, d.info.bytecodeVersion, 0, 0] ++ .zeros 0x10 ++ .int d.info.gameId ++
    .zeros 0x10 ++ d.stringRef d.info.name ++ .zeros 0x10 ++ .int d.info.windowWidth ++
    .int d.info.windowHeight ++ .zeros 0x20 ++ d.stringRef d.info.displayName ++ .zeros 0x18 ++
    .nat d.info.roomOrder.length ++ .concat (d.info.roomOrder.map .int)

/-- A sprite without frames. -/
def spriteBlock (d : Draft) (s : Sprite) : Block :=
  d.stringRef s.name ++ .int s.width ++ .int s.height ++ .int s.marginLeft ++
    .int s.marginRight ++ .int s.marginBottom ++ .int s.marginTop ++ .zeros 0x14 ++
    .int s.originX ++ .int s.originY ++ .list []

/-- A path. -/
def pathBlock (d : Draft) (p : Path) : Block :=
  d.stringRef p.name ++ .flag p.smooth ++ .flag p.closed ++ .int p.precision ++
    .nat p.points.length ++
    .concat (p.points.map fun q => .single q.x ++ .single q.y ++ .single q.speed)

/-- The chunks before the code. -/
def chunksBeforeCode (d : Draft) : Block :=
  .chunk "STRG" d.stringBlock ++ .chunk "GEN8" d.infoBlock ++ .chunk "TPAG" (.list []) ++
    .chunk "TXTR" (.list []) ++ .chunk "SPRT" (.list (d.sprites.map d.spriteBlock)) ++
    .chunk "BGND" (.list []) ++ .chunk "PATH" (.list (d.paths.map d.pathBlock)) ++
    .chunk "FONT" (.list [])

/-- Where the first code record lies: behind the envelope, the chunks before, and the tag, the size
and the pointers of the code chunk. -/
def firstRecord (d : Draft) : Nat := 8 + d.chunksBeforeCode.size + 12 + 4 * d.code.length

/-- The code as it was assembled. -/
def assemblies (d : Draft) : List Assembly := d.code.map (·.assembly)

/-- Where the code entries start. Each record takes sixteen bytes. -/
def codeStarts (d : Draft) : List Nat :=
  startsFrom (d.firstRecord + 16 * d.code.length) (d.assemblies.map (·.bytes.size))

/-- The code with its chains. -/
def threaded (d : Draft) : List ByteArray :=
  Assembly.threadAll d.codeStarts d.assemblies d.variableTable.length d.functionTable.length

/-- The variables with their chains. -/
def threadedVariables (d : Draft) : List Variable :=
  d.variableTable.zipIdx.map fun v => Assembly.threadVariable d.codeStarts d.assemblies v.1 v.2

/-- The functions with their chains. -/
def threadedFunctions (d : Draft) : List Function :=
  d.functionTable.zipIdx.map fun f => Assembly.threadFunction d.codeStarts d.assemblies f.1 f.2

/-- The record of a code entry. The address of the code is relative to the field that holds it. -/
def codeRecord (d : Draft) (c : DraftCode) (start : Nat) : Block :=
  d.stringRef c.name ++ .nat c.assembly.bytes.size ++ .half c.locals ++ .half c.arguments ++
    .wordAt fun pos => (Int32.ofInt ((start : Int) - pos)).toUInt32

/-- The code chunk. -/
def codeBlock (d : Draft) : Block :=
  .list ((d.code.zip d.codeStarts).map fun c => d.codeRecord c.1 c.2) ++
    .concat (d.threaded.map fun bytes => .ofBytes bytes.data.toList)

/-- Creation code is written as the position of its record, `-1` if there is none. -/
def creationRef (d : Draft) (code : Int32) : Int32 :=
  if 0 ≤ code && code.toInt.toNat < d.code.length then
    Int32.ofNat (d.firstRecord + 16 * code.toInt.toNat)
  else -1

/-- An action of an event handler. -/
def actionBlock (code : Int32) : Block := .zeros 0x20 ++ .int code

/-- The handler of an event subtype. -/
def handlerBlock (h : EventHandler) : Block := .int h.subtype ++ .list (h.actions.map actionBlock)

/-- An object. -/
def objectBlock (d : Draft) (o : GameObject) : Block :=
  d.stringRef o.name ++ .int o.sprite ++ .flag o.visible ++ .flag o.solid ++ .int o.depth ++
    .flag o.persistent ++ .int o.parent ++ .int o.mask ++ .zeros 0x30 ++
    .list (o.events.map fun handlers => .list (handlers.map handlerBlock))

/-- A view. -/
def viewBlock (v : View) : Block :=
  .flag v.enabled ++ .concat ([v.viewX, v.viewY, v.viewW, v.viewH, v.portX, v.portY, v.portW,
    v.portH, v.borderH, v.borderV, v.speedH, v.speedV, v.followObject].map .int)

/-- A placement. -/
def placementBlock (d : Draft) (p : Placement) : Block :=
  .int p.x ++ .int p.y ++ .int p.object ++ .int p.instanceId ++
    .int (d.creationRef p.creationCode) ++ .single p.scaleX ++ .single p.scaleY ++ .int p.color ++
    .single p.rotation

/-- A room: its record ends with pointers to its lists, which follow. -/
def roomBlock (d : Draft) (r : Room) : Block :=
  let views := Block.list (r.views.map viewBlock)
  let placements := Block.list (r.placements.map d.placementBlock)
  d.stringRef r.name ++ d.stringRef r.caption ++ .int r.width ++ .int r.height ++ .int r.speed ++
    .flag r.persistent ++ .int r.bgColor ++ .flag r.drawBgColor ++
    .int (d.creationRef r.creationCode) ++ .int r.flags ++
    .pointer 16 ++ .pointer 16 ++ .pointer (12 + views.size) ++
    .pointer (8 + views.size + placements.size) ++
    .list [] ++ views ++ placements ++ .list []

/-- A script. -/
def scriptBlock (d : Draft) (s : Script) : Block := d.stringRef s.name ++ .int s.code

/-- A variable. -/
def variableBlock (d : Draft) (v : Variable) : Block :=
  d.stringRef v.name ++ .int v.instanceType ++ .int v.id ++ .int v.occurrences ++
    .int v.firstOccurrence

/-- The variables behind a header of twelve bytes. -/
def variablesBlock (d : Draft) : Block :=
  .nat d.variableTable.length ++ .nat d.variableTable.length ++ .nat 0 ++
    .concat (d.threadedVariables.map d.variableBlock)

/-- A function. -/
def functionBlock (d : Draft) (f : Function) : Block :=
  d.stringRef f.name ++ .int f.occurrences ++ .int f.firstOccurrence

/-- The functions behind their number. -/
def functionsBlock (d : Draft) : Block :=
  .nat d.functionTable.length ++ .concat (d.threadedFunctions.map d.functionBlock)

/-- The code chunk and those behind it. -/
def chunksFromCode (d : Draft) : Block :=
  .chunk "CODE" d.codeBlock ++ .chunk "OBJT" (.list (d.objects.map d.objectBlock)) ++
    .chunk "ROOM" (.list (d.rooms.map d.roomBlock)) ++
    .chunk "SCPT" (.list (d.scripts.map d.scriptBlock)) ++
    .chunk "VARI" d.variablesBlock ++ .chunk "FUNC" d.functionsBlock

/-- The archive as a block, envelope included. -/
def archiveBlock (d : Draft) : Block := .chunk "FORM" (d.chunksBeforeCode ++ d.chunksFromCode)

/-- The archive. -/
def archive (d : Draft) : ByteArray := Bytes.ofList (d.archiveBlock.bytes 0)

/-- Creation code as it is read back: what is no code entry is none. -/
def creationCode (d : Draft) (code : Int32) : Int32 :=
  if 0 ≤ code && code.toInt.toNat < d.code.length then code else -1

/-- A code entry in its place. The highest bit of the number of arguments is written as it is but
does not count when it is read. -/
def placedCode (c : DraftCode) (start : Nat) (bytes : ByteArray) : CodeEntry :=
  { name := c.name, locals := c.locals, arguments := c.arguments &&& 0x7fff, offset := start,
    bytes }

/-- A room whose creation codes are code entries or none. -/
def placedRoom (d : Draft) (r : Room) : Room :=
  { r with
    creationCode := d.creationCode r.creationCode
    placements := r.placements.map fun p => { p with creationCode := d.creationCode p.creationCode } }

/-- The game that the archive holds. -/
def game (d : Draft) : Game where
  info := d.info
  strings := d.stringTable.toArray
  sprites := d.sprites.toArray
  paths := d.paths.toArray
  code := (((d.code.zip d.codeStarts).zip d.threaded).map fun c =>
    placedCode c.1.1 c.1.2 c.2).toArray
  objects := d.objects.toArray
  rooms := (d.rooms.map d.placedRoom).toArray
  scripts := d.scripts.toArray
  variableTable := d.threadedVariables.toArray
  functionTable := d.threadedFunctions.toArray
  buffer := d.archive

end Draft

end GameRunner

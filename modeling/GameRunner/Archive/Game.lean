import GameRunner.Archive.Assets
import GameRunner.Archive.Code
import GameRunner.Archive.Rooms
import GameRunner.Game.Basic

/-!
# Games from archives

All required chunks have to be there before any of them is read. Tables are read in an order in
which each comes after those that it refers to by position.
-/

namespace GameRunner.Archive

/-- Reads all tables of an archive. -/
def game (b : ByteArray) : Load Game := do
  let chunks ← chunks b
  for tag in requiredTags do
    let _ ← chunkWith chunks tag
  let strings ← strings b (← chunkWith chunks "STRG")
  let info ← info b (← chunkWith chunks "GEN8")
  let (itemIndex, textureItems) ← textureItems b (← chunkWith chunks "TPAG")
  let texturePages ← texturePages b (← chunkWith chunks "TXTR")
  let sprites ← sprites b itemIndex (← chunkWith chunks "SPRT")
  let backgrounds ← backgrounds b itemIndex (← chunkWith chunks "BGND")
  let paths ← paths b (← chunkWith chunks "PATH")
  let fonts ← fonts b itemIndex (← chunkWith chunks "FONT")
  let (codeIndex, code) ← codeEntries b (← chunkWith chunks "CODE")
  let objects ← objects b codeIndex (← chunkWith chunks "OBJT")
  let rooms ← rooms b codeIndex (← chunkWith chunks "ROOM")
  let scripts ← scripts b (← chunkWith chunks "SCPT")
  let variableTable ← variableTable b (← chunkWith chunks "VARI")
  let functionTable ← functionTable b (← chunkWith chunks "FUNC")
  note .info fun _ =>
    s!"Loaded '{info.name}': {sprites.length} sprites, {objects.length} objects, " ++
      s!"{rooms.length} rooms, {code.length} code entries"
  note .info fun _ =>
    s!"  {variableTable.length} variables, {functionTable.length} functions, " ++
      s!"{scripts.length} scripts, {fonts.length} fonts, {paths.length} paths"
  return { info, strings := strings.toArray, textureItems := textureItems.toArray,
           texturePages := texturePages.toArray, sprites := sprites.toArray,
           backgrounds := backgrounds.toArray, paths := paths.toArray, fonts := fonts.toArray,
           code := code.toArray, objects := objects.toArray, rooms := rooms.toArray,
           scripts := scripts.toArray, variableTable := variableTable.toArray,
           functionTable := functionTable.toArray, buffer := b }

end GameRunner.Archive

namespace GameRunner

/-- Reads a game from the bytes of an archive, writing to a journal. -/
def Game.ofArchive (b : ByteArray) (log : Journal) : Except FormatError Game × Journal :=
  Archive.game b log

/-- The game in an archive. -/
def Game.ofArchive? (b : ByteArray) : Except FormatError Game :=
  (Game.ofArchive b .silent).1

end GameRunner

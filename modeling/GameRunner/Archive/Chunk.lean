import GameRunner.Archive.Read
import GameRunner.Text.Lossy

/-!
# Chunks

An archive is an envelope with the tag `FORM` and a size, around chunks that each have a tag of four
bytes, a size and data.
-/

namespace GameRunner.Archive

/-- Where the data of a chunk lies. -/
structure Chunk where
  tag : List UInt8
  start : Nat
  size : Nat
  deriving Repr, DecidableEq

/-- The position behind the data. -/
def Chunk.stop (c : Chunk) : Nat := c.start + c.size

/-- The tag as text. -/
def Chunk.tagText (c : Chunk) : String :=
  (String.fromUTF8? (Bytes.ofList c.tag)).getD "????"

/-- Four bytes. -/
def tagAt (b : ByteArray) (pos : Nat) : Read (List UInt8) := do
  return (← bytesAt b pos 4).data.toList

/-- The tags of the chunks that every archive has, in the order in which they are read. -/
def requiredTags : List String :=
  ["STRG", "GEN8", "TPAG", "TXTR", "SPRT", "BGND", "PATH", "FONT", "CODE", "OBJT", "ROOM",
   "SCPT", "VARI", "FUNC"]

/-- The chunks from a position on; each takes at least eight bytes, which bounds their number. -/
def chunksFrom (b : ByteArray) (stop : Nat) : Nat → Nat → Load (List Chunk)
  | 0, _ => return []
  | fuel + 1, pos =>
    if pos + 8 ≤ stop then do
      let tag ← tagAt b pos
      let size ← natAt b (pos + 4)
      let chunk : Chunk := ⟨tag, pos + 8, size⟩
      note .debug fun _ =>
        "chunk " ++ chunk.tagText ++ " at " ++ Text.hex chunk.start ++ s!", {size} bytes"
      return chunk :: (← chunksFrom b stop fuel (pos + 8 + size))
    else return []

/-- Checks the envelope and lists the chunks. -/
def chunks (b : ByteArray) : Load (List Chunk) := do
  let magic ← tagAt b 0
  if magic ≠ "FORM".toUTF8.data.toList then
    throw (.invalidMagic "FORM" (Text.lossy magic))
  let size ← natAt b 4
  let found ← chunksFrom b (min (8 + size) b.size) b.size 8
  note .info fun _ => s!"Found {found.length} chunks"
  return found

/-- The first chunk with a tag. -/
def chunkWith (chunks : List Chunk) (tag : String) : Read Chunk :=
  match chunks.find? fun c => c.tag == tag.toUTF8.data.toList with
  | some c => .ok c
  | none => .error (.missingChunk tag)

end GameRunner.Archive

import GameRunner.Archive.Chunk
import GameRunner.Game.Assets

/-!
# Code tables

Code entries, scripts, and the tables of variables and functions that code refers to.
-/

namespace GameRunner.Archive

/-- A code entry. The address of its bytes is relative to the field that holds it. -/
def codeEntry (b : ByteArray) (ptr : Nat) : Read CodeEntry := do
  let length ← natAt b (ptr + 4)
  let relative ← i32At b (ptr + 12)
  let offset := ((ptr : Int) + 12 + relative.toInt).toNat
  let name ← stringRefAt b ptr
  let locals ← u16At b (ptr + 8)
  let arguments ← u16At b (ptr + 10)
  let bytes ← bytesAt b offset length
  return { name, locals, arguments := arguments &&& 0x7fff, offset, bytes }

/-- The code entries, and where their records start. -/
def codeEntries (b : ByteArray) (c : Chunk) : Load (PointerIndex × List CodeEntry) := do
  let pointers ← pointerList b c.start
  let entries ← pointers.mapM (codeEntry b ·)
  note .debug fun _ => s!"CODE: {entries.length} entries"
  return (.ofList pointers, entries)

/-- A script. -/
def script (b : ByteArray) (ptr : Nat) : Read Script := do
  return ⟨← stringRefAt b ptr, ← i32At b (ptr + 4)⟩

/-- The scripts. -/
def scripts (b : ByteArray) (c : Chunk) : Read (List Script) := do
  (← pointerList b c.start).mapM (script b)

/-- A variable record. -/
def variableRecord (b : ByteArray) (pos : Nat) : Read Variable := do
  return { name := ← stringRefAt b pos
           instanceType := ← i32At b (pos + 4)
           id := ← i32At b (pos + 8)
           occurrences := ← i32At b (pos + 12)
           firstOccurrence := ← i32At b (pos + 16) }

/-- Variable records from a position on, as many as end by `stop`. Each takes twenty bytes, which
bounds the number that can be read. -/
def variablesFrom (b : ByteArray) (stop : Nat) : Nat → Nat → Read (List Variable)
  | 0, _ => return []
  | fuel + 1, pos =>
    if pos + 20 ≤ stop then do
      let first ← variableRecord b pos
      return first :: (← variablesFrom b stop fuel (pos + 20))
    else return []

/-- The variables: behind a header of twelve bytes, records fill the chunk. -/
def variableTable (b : ByteArray) (c : Chunk) : Load (List Variable) := do
  let found ← variablesFrom b c.stop (b.size / 20 + 2) (c.start + 12)
  note .debug fun _ => s!"VARI: {found.length} variables"
  return found

/-- A function record. -/
def functionRecord (b : ByteArray) (pos : Nat) : Read Function := do
  return { name := ← stringRefAt b pos
           occurrences := ← i32At b (pos + 4)
           firstOccurrence := ← i32At b (pos + 8) }

/-- The functions: a count, then records of twelve bytes. -/
def functionTable (b : ByteArray) (c : Chunk) : Load (List Function) := do
  let count ← natAt b c.start
  let _ ← bytesAt b (c.start + 4) (count * 12)
  let found ← (List.range count).mapM fun i =>
    (functionRecord b (c.start + 4 + i * 12) : Load Function)
  note .debug fun _ => s!"FUNC: {found.length} functions"
  return found

end GameRunner.Archive

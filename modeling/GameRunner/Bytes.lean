/-!
# Little-endian bytes

Numbers are stored with the least significant byte first. Reading outside of the bytes gives
nothing.
-/

namespace GameRunner.Bytes

/-- The byte at a position. -/
def byte? (b : ByteArray) (pos : Nat) : Option UInt8 :=
  if h : pos < b.size then some b[pos] else none

/-- The bytes of a range, if it lies inside. -/
def slice? (b : ByteArray) (pos length : Nat) : Option ByteArray :=
  if pos + length ≤ b.size then some (b.extract pos (pos + length)) else none

/-- Two bytes as a number. -/
def join16 (b0 b1 : UInt8) : UInt16 :=
  b0.toUInt16 ||| (b1.toUInt16 <<< 8)

/-- Four bytes as a word. -/
def join32 (b0 b1 b2 b3 : UInt8) : UInt32 :=
  b0.toUInt32 ||| (b1.toUInt32 <<< 8) ||| (b2.toUInt32 <<< 16) ||| (b3.toUInt32 <<< 24)

/-- The 16-bit number at a position. -/
def half? (b : ByteArray) (pos : Nat) : Option UInt16 := do
  return join16 (← byte? b pos) (← byte? b (pos + 1))

/-- The word at a position. -/
def word? (b : ByteArray) (pos : Nat) : Option UInt32 := do
  return join32 (← byte? b pos) (← byte? b (pos + 1)) (← byte? b (pos + 2)) (← byte? b (pos + 3))

/-- The whole words from the start; up to three bytes may be left over. -/
def words (b : ByteArray) : List UInt32 :=
  (List.range (b.size / 4)).map fun i => (word? b (4 * i)).getD 0

/-- The four bytes of a word. -/
def ofWord (w : UInt32) : List UInt8 :=
  [w.toUInt8, (w >>> 8).toUInt8, (w >>> 16).toUInt8, (w >>> 24).toUInt8]

/-- Bytes from a list. -/
def ofList (l : List UInt8) : ByteArray := ⟨l.toArray⟩

/-- The bytes of a sequence of words. -/
def ofWords (ws : List UInt32) : ByteArray :=
  ofList (ws.flatMap ofWord)

/-- Changes the word at a position; outside of the bytes nothing happens. -/
def modifyWord (b : ByteArray) (pos : Nat) (f : UInt32 → UInt32) : ByteArray :=
  match word? b pos with
  | some w => b.extract 0 pos ++ ofList (ofWord (f w)) ++ b.extract (pos + 4) b.size
  | none => b

end GameRunner.Bytes

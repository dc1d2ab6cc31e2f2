import GameRunner.Archive.Error
import GameRunner.Bytes
import GameRunner.Journal

/-!
# Reading at absolute positions

All numbers of an archive are little-endian and all pointers are absolute. A read outside of the
bytes reports where it was attempted and how much was needed.

Loading an archive writes to a journal as it goes, and what has been written stays when the loading
fails.
-/

namespace GameRunner.Archive

/-- A read that can fail. -/
abbrev Read := Except FormatError

/-- A read that can fail and writes to the journal. -/
abbrev Load := ExceptT FormatError (StateM Journal)

/-- Writes a line to the journal. -/
def note (s : Severity) (line : Unit → String) : Load Unit :=
  modify fun j => j.add s line

/-- A result that has to be there, else the bytes ended too early. -/
def need (b : ByteArray) (pos length : Nat) : Option α → Read α
  | some a => .ok a
  | none => .error (.unexpectedEof pos length b.size)

/-- The bytes of a range. -/
def bytesAt (b : ByteArray) (pos length : Nat) : Read ByteArray :=
  need b pos length (Bytes.slice? b pos length)

/-- A byte. -/
def u8At (b : ByteArray) (pos : Nat) : Read UInt8 := need b pos 1 (Bytes.byte? b pos)

/-- A 16-bit number. -/
def u16At (b : ByteArray) (pos : Nat) : Read UInt16 := need b pos 2 (Bytes.half? b pos)

/-- A word. -/
def u32At (b : ByteArray) (pos : Nat) : Read UInt32 := need b pos 4 (Bytes.word? b pos)

/-- A word as a signed number. -/
def i32At (b : ByteArray) (pos : Nat) : Read Int32 := do
  return (← u32At b pos).toInt32

/-- A word as a condition. -/
def boolAt (b : ByteArray) (pos : Nat) : Read Bool := do
  return (← u32At b pos) != 0

/-- A word as a single-precision number. -/
def f32At (b : ByteArray) (pos : Nat) : Read Float32 := do
  return Float32.ofBits (← u32At b pos)

/-- A word as a position or count. -/
def natAt (b : ByteArray) (pos : Nat) : Read Nat := do
  return (← u32At b pos).toNat

/-- A count followed by that many pointers. The whole list has to lie inside the bytes. -/
def pointerList (b : ByteArray) (pos : Nat) : Read (List Nat) := do
  let count ← natAt b pos
  let _ ← bytesAt b (pos + 4) (count * 4)
  (List.range count).mapM fun i => natAt b (pos + 4 + i * 4)

/-- Bytes as text, reported under a position if they are not valid. -/
def utf8 (pos : Nat) (bytes : ByteArray) : Read String :=
  match String.fromUTF8? bytes with
  | some s => .ok s
  | none => .error (.invalidString pos)

/-- An entry of the string table: a length and the bytes of the text behind it. -/
def stringAt (b : ByteArray) (pos : Nat) : Read String := do
  let length ← natAt b pos
  utf8 pos (← bytesAt b (pos + 4) length)

/-- The text that a pointer from another table leads to. The pointer leads to the bytes of the text,
and the length stands before them. A null pointer means the empty text. -/
def stringRef (b : ByteArray) (ptr : Nat) : Read String :=
  if ptr = 0 then .ok ""
  else if ptr < 4 then .error (.unexpectedEof ptr 4 b.size)
  else do
    let length ← natAt b (ptr - 4)
    utf8 ptr (← bytesAt b ptr length)

/-- The text that the pointer at a position leads to. -/
def stringRefAt (b : ByteArray) (pos : Nat) : Read String := do
  stringRef b (← natAt b pos)

/-- A nested list that cannot be read is replaced by the empty list, with a warning. -/
def orEmpty (what owner : String) (list : Load (List α)) : Load (List α) :=
  tryCatch list fun e => do
    note .warn fun _ =>
      what ++ " of '" ++ owner ++ "' unreadable, using empty value: " ++ e.message
    return []

/-- The positions at which the records of a table start. A position that occurs twice stands for
the later record. -/
structure PointerIndex where
  pointers : List Nat
  distinct : Nat

namespace PointerIndex

/-- The index of a list of record positions. -/
def ofList (pointers : List Nat) : PointerIndex :=
  ⟨pointers, pointers.eraseDups.length⟩

/-- The record that starts at a position. -/
def find? (p : PointerIndex) (pos : Nat) : Option Nat :=
  (p.pointers.zipIdx.findRev? fun e => e.1 == pos).map Prod.snd

/-- The record that starts at a position, or `-1`. -/
def findOr (p : PointerIndex) (pos : Nat) : Int32 :=
  match p.find? pos with
  | some i => Int32.ofNat i
  | none => -1

end PointerIndex

end GameRunner.Archive

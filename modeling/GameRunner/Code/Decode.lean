import GameRunner.Bytes
import GameRunner.Code.Listing

/-!
# Decoding

A code entry is a sequence of words. Each instruction takes its word and the payload words that the
operation calls for, and the next one starts right behind. Decoding ends at the end of the bytes, at
up to three bytes that make no word, or at an instruction whose payload is cut off.
-/

namespace GameRunner

/-- A decoded code entry. -/
structure Code where
  instructions : Array Instruction
  deriving Repr, DecidableEq, Inhabited

namespace Code

/-- The number of instructions. -/
def size (c : Code) : Nat := c.instructions.size

/-- Whether there are no instructions. -/
def isEmpty (c : Code) : Bool := c.instructions.isEmpty

/-- The position of the instruction that starts at a byte offset. -/
def indexOf? (c : Code) (offset : Nat) : Option Nat :=
  c.instructions.findIdx? fun i => i.offset == offset

end Code

/-- What stopped the decoder. -/
inductive CodeTail
  | complete
  | partialWord (pos : Nat)
  | partialPayload (opcode : UInt8) (pos : Nat)
  deriving Repr, DecidableEq

namespace CodeTail

/-- The warning about code that is cut off, given the number of bytes. -/
def warning? (size : Nat) : CodeTail → Option String
  | .complete => none
  | .partialWord pos => some ("truncated instruction word at " ++ Text.hex pos)
  | .partialPayload opcode pos =>
    some (Opcode.nameOfByte opcode ++ " at " ++ Text.hex pos ++
      s!" runs past end of bytecode ({size} bytes)")

end CodeTail

namespace Instruction

/-- The fields of an instruction word, without payload. -/
def ofWord (offset : Nat) (word : UInt32) : Instruction where
  offset := offset
  opcode := (word >>> 24).toUInt8
  type1 := ((word >>> 16) &&& 0xf).toUInt8
  type2 := ((word >>> 20) &&& 0xf).toUInt8
  extra := word.toUInt16.toInt16
  operand := word &&& 0xffffff
  literal := .none
  refKind := 0
  variableIndex := -1
  functionIndex := -1

/-- Completes an instruction that has no payload. -/
def withoutPayload (i : Instruction) : Instruction :=
  match i.op? with
  | some .push => { i with literal := .int16 i.extra }
  | some .pushi => { i with literal := .int16 i.extra }
  | _ => i

/-- The kind of a reference, in the top bits of the reference word. -/
def refKindOf (word : UInt32) : UInt8 := (word >>> 24).toUInt8 &&& 0xf8

/-- Completes an instruction with one word of payload. -/
def withWord (i : Instruction) (word : UInt32) : Instruction :=
  match i.op? with
  | some .push =>
    match DataType.ofTag? i.type1 with
    | some .float => { i with literal := .float word }
    | some .int32 => { i with literal := .int32 word.toInt32 }
    | some .boolean => { i with literal := .bool (word != 0) }
    | some .str => { i with literal := .str word.toInt32 }
    | some .var => { i with refKind := refKindOf word }
    | _ => { i with literal := .raw word }
  | some .call => i
  | _ => { i with refKind := refKindOf word }

/-- Completes an instruction with two words of payload. -/
def withWords (i : Instruction) (low high : UInt32) : Instruction :=
  let bits := low.toUInt64 ||| (high.toUInt64 <<< 32)
  match DataType.ofTag? i.type1 with
  | some .int64 => { i with literal := .int64 bits.toInt64 }
  | _ => { i with literal := .double bits }

end Instruction

namespace Code

/-- Decodes words from a byte offset on, behind the instructions decoded before. -/
def decodeWords (before : Array Instruction) (offset : Nat) :
    List UInt32 → Array Instruction × CodeTail
  | [] => (before, .complete)
  | word :: rest =>
    let i := Instruction.ofWord offset word
    match Instruction.payloadWords i.opcode i.type1 with
    | 0 => decodeWords (before.push i.withoutPayload) (offset + 4) rest
    | 1 =>
      match rest with
      | payload :: rest => decodeWords (before.push (i.withWord payload)) (offset + 8) rest
      | [] => (before, .partialPayload i.opcode offset)
    | _ =>
      match rest with
      | low :: high :: rest => decodeWords (before.push (i.withWords low high)) (offset + 12) rest
      | _ => (before, .partialPayload i.opcode offset)

/-- Decodes a code entry and tells what stopped the decoder. -/
def decodeWithTail (bytes : ByteArray) : Code × CodeTail :=
  let (instructions, tail) := decodeWords #[] 0 (Bytes.words bytes)
  match tail with
  | .complete =>
    if bytes.size % 4 = 0 then (⟨instructions⟩, .complete)
    else (⟨instructions⟩, .partialWord (bytes.size / 4 * 4))
  | tail => (⟨instructions⟩, tail)

/-- Decodes a code entry. -/
def decode (bytes : ByteArray) : Code := (decodeWithTail bytes).1

/-- The warning about a code entry that is cut off. -/
def warning? (bytes : ByteArray) : Option String :=
  (decodeWithTail bytes).2.warning? bytes.size

end Code

end GameRunner

import GameRunner.Code.Opcode

/-!
# Instructions

An instruction is a word, followed for some operations by one or two words of payload: a literal, or
a reference to a variable or function. The word holds the operation, two type tags and sixteen bits
that mean an instance, a number of arguments or a number of stack items; branches use the low
twenty-three bits as a signed distance in words instead.
-/

namespace GameRunner

/-! Selectors say whom a variable access or a `with` block means. Numbers from zero up name an object
or an instance. -/

namespace Selector

/-- The instance whose code runs. -/
def self : Int32 := -1

/-- The other instance of the event or `with` block. -/
def other : Int32 := -2

/-- Every live instance. -/
def all : Int32 := -3

/-- No instance. -/
def noone : Int32 := -4

/-- The global variables. -/
def global : Int32 := -5

/-- A built-in variable of the instance whose code runs. -/
def builtin : Int32 := -6

/-- The variables of the running code entry. -/
def frame : Int32 := -7

/-- The instance named by the top of the stack. -/
def stackTop : Int32 := -9

end Selector

/-! Reference kinds are the top bits of the word that refers to a variable. -/

namespace RefKind

/-- An element of an array; index and target are taken from the stack. -/
def array : UInt8 := 0x00

/-- A variable of an instance taken from the stack. -/
def stackTop : UInt8 := 0x80

/-- A plain variable. -/
def normal : UInt8 := 0xa0

end RefKind

/-- The payload of an instruction that pushes a constant. Floating-point payloads are kept as bit
patterns. -/
inductive Literal
  | none
  | double (bits : UInt64)
  | float (bits : UInt32)
  | int32 (n : Int32)
  | int64 (n : Int64)
  | bool (b : Bool)
  | str (index : Int32)
  | int16 (n : Int16)
  | raw (word : UInt32)
  deriving Repr, DecidableEq

/-- A decoded instruction. The two indices are `-1` until the instruction has been linked to the
variable or function it refers to. -/
structure Instruction where
  offset : Nat
  opcode : UInt8
  type1 : UInt8
  type2 : UInt8
  extra : Int16
  operand : UInt32
  literal : Literal
  refKind : UInt8
  variableIndex : Int32
  functionIndex : Int32
  deriving Repr, DecidableEq

namespace Instruction

/-- The number of payload words behind an instruction word. -/
def payloadWords (opcode type1 : UInt8) : Nat :=
  match Opcode.ofByte? opcode with
  | some .push =>
    match DataType.ofTag? type1 with
    | some .double => 2
    | some .int64 => 2
    | some .int16 => 0
    | _ => 1
  | some .pushloc => 1
  | some .pushglb => 1
  | some .pushbltn => 1
  | some .pop => 1
  | some .call => 1
  | _ => 0

/-- The operation, if the byte selects one. -/
def op? (i : Instruction) : Option Opcode := Opcode.ofByte? i.opcode

/-- The name of the operation. -/
def name (i : Instruction) : String := Opcode.nameOfByte i.opcode

/-- The size in bytes, payload included. -/
def size (i : Instruction) : Nat := 4 + 4 * payloadWords i.opcode i.type1

/-- The instance field as a selector. -/
def instanceField (i : Instruction) : Int32 := i.extra.toInt32

/-- The number of arguments of a call. -/
def argCount (i : Instruction) : Nat := i.extra.toUInt16.toNat

/-- The kind of a comparison. -/
def comparison (i : Instruction) : UInt8 := (i.operand >>> 8).toUInt8

/-- The number of stack items, less one, that are duplicated. -/
def dupCount (i : Instruction) : Nat := i.extra.toUInt16.toNat % 256

/-- The distance of a branch in words, a signed number of twenty-three bits. -/
def branchOffset (i : Instruction) : Int :=
  let raw : Int := (i.operand &&& 0x7fffff).toNat
  if raw < 0x400000 then raw else raw - 0x800000

/-- The byte offset at which a branch lands, unless it lies before the entry. -/
def branchTarget? (i : Instruction) : Option Nat :=
  let target := (i.offset : Int) + i.branchOffset * 4
  if 0 ≤ target then some target.toNat else none

/-- Whether the reference goes through an array index. -/
def isArrayAccess (i : Instruction) : Bool := i.refKind == RefKind.array

/-- Whether the reference takes its instance from the stack. -/
def isStackTopAccess (i : Instruction) : Bool := i.refKind == RefKind.stackTop

end Instruction

end GameRunner

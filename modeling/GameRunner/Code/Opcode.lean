/-!
# Operation codes

The top byte of an instruction word selects the operation. Bytes without a meaning are skipped when
code runs.
-/

namespace GameRunner

/-- The operations of the machine. -/
inductive Opcode
  | conv | mul | div | rem | mod | add | sub | and | or | xor | neg | not | shl | shr | cmp
  | pop | pushi | dup | ret | exit | popz | b | bt | bf | pushenv | popenv
  | push | pushloc | pushglb | pushbltn | call | brk
  deriving Repr, DecidableEq

namespace Opcode

/-- The byte that selects the operation. -/
def toByte : Opcode → UInt8
  | conv => 0x07 | mul => 0x08 | div => 0x09 | rem => 0x0a | mod => 0x0b | add => 0x0c
  | sub => 0x0d | and => 0x0e | or => 0x0f | xor => 0x10 | neg => 0x11 | not => 0x12
  | shl => 0x13 | shr => 0x14 | cmp => 0x15 | pop => 0x45 | pushi => 0x84 | dup => 0x86
  | ret => 0x9c | exit => 0x9d | popz => 0x9e | b => 0xb6 | bt => 0xb7 | bf => 0xb8
  | pushenv => 0xba | popenv => 0xbb | push => 0xc0 | pushloc => 0xc1 | pushglb => 0xc2
  | pushbltn => 0xc3 | call => 0xd9 | brk => 0xff

/-- The operation a byte selects. -/
def ofByte? (byte : UInt8) : Option Opcode :=
  match byte with
  | 0x07 => some conv | 0x08 => some mul | 0x09 => some div | 0x0a => some rem | 0x0b => some mod
  | 0x0c => some add | 0x0d => some sub | 0x0e => some and | 0x0f => some or | 0x10 => some xor
  | 0x11 => some neg | 0x12 => some not | 0x13 => some shl | 0x14 => some shr | 0x15 => some cmp
  | 0x45 => some pop | 0x84 => some pushi | 0x86 => some dup | 0x9c => some ret | 0x9d => some exit
  | 0x9e => some popz | 0xb6 => some b | 0xb7 => some bt | 0xb8 => some bf | 0xba => some pushenv
  | 0xbb => some popenv | 0xc0 => some push | 0xc1 => some pushloc | 0xc2 => some pushglb
  | 0xc3 => some pushbltn | 0xd9 => some call | 0xff => some brk
  | _ => none

/-- Every operation is selected by its own byte. -/
@[simp] theorem ofByte?_toByte (op : Opcode) : ofByte? op.toByte = some op := by
  cases op <;> rfl

/-- The name in listings. -/
def name : Opcode → String
  | conv => "conv" | mul => "mul" | div => "div" | rem => "rem" | mod => "mod" | add => "add"
  | sub => "sub" | and => "and" | or => "or" | xor => "xor" | neg => "neg" | not => "not"
  | shl => "shl" | shr => "shr" | cmp => "cmp" | pop => "pop" | pushi => "pushi" | dup => "dup"
  | ret => "ret" | exit => "exit" | popz => "popz" | b => "b" | bt => "bt" | bf => "bf"
  | pushenv => "pushenv" | popenv => "popenv" | push => "push" | pushloc => "pushloc"
  | pushglb => "pushglb" | pushbltn => "pushbltn" | call => "call" | brk => "break"

/-- The name of the operation a byte selects. -/
def nameOfByte (byte : UInt8) : String :=
  match ofByte? byte with
  | some op => op.name
  | none => "unknown"

end Opcode

/-- Type tags, four bits each, in an instruction word. -/
inductive DataType
  | double | float | int32 | int64 | boolean | var | str | int16
  deriving Repr, DecidableEq

namespace DataType

/-- The tag of a type. -/
def toTag : DataType → UInt8
  | double => 0 | float => 1 | int32 => 2 | int64 => 3 | boolean => 4 | var => 5 | str => 6
  | int16 => 15

/-- The type of a tag. -/
def ofTag? (tag : UInt8) : Option DataType :=
  match tag with
  | 0 => some double | 1 => some float | 2 => some int32 | 3 => some int64 | 4 => some boolean
  | 5 => some var | 6 => some str | 15 => some int16
  | _ => none

/-- Every type has its own tag. -/
@[simp] theorem ofTag?_toTag (t : DataType) : ofTag? t.toTag = some t := by
  cases t <;> rfl

end DataType

end GameRunner

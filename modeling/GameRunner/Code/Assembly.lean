import GameRunner.Bytes
import GameRunner.Code.Instruction

/-!
# Assembling

Statements are written one behind the other. References to variables and functions are written with
an empty link and are recorded, so that the links can be set once it is known where the code lies in
an archive. The distance of a branch can be set later, when its target is known.
-/

namespace GameRunner

/-- The instructions that refer to a variable. -/
inductive AccessOp
  | push | pushloc | pushglb | pushbltn | pop
  deriving Repr, DecidableEq

/-- The operation of a variable access. -/
def AccessOp.opcode : AccessOp → Opcode
  | push => .push
  | pushloc => .pushloc
  | pushglb => .pushglb
  | pushbltn => .pushbltn
  | pop => .pop

/-- The instructions that jump. -/
inductive BranchOp
  | b | bt | bf | pushenv | popenv
  deriving Repr, DecidableEq

/-- The operation of a jump. -/
def BranchOp.opcode : BranchOp → Opcode
  | b => .b
  | bt => .bt
  | bf => .bf
  | pushenv => .pushenv
  | popenv => .popenv

/-- What can be written into a code entry. -/
inductive Statement
  | plain (opcode type1 type2 : UInt8)
  | pushDouble (bits : UInt64)
  | pushFloat (bits : UInt32)
  | pushInt32 (n : Int32)
  | pushInt64 (n : Int64)
  | pushBool (b : Bool)
  | pushString (index : Int32)
  | pushInt16 (n : Int16)
  | pushImmediate (n : Int16)
  | access (op : AccessOp) (instanceField : Int32) (kind : UInt8) (var : Nat)
  | call (function : Nat) (arguments : UInt16)
  | compare (kind : UInt8)
  | duplicate (extra : UInt8)
  | branch (op : BranchOp) (words : Int32)
  deriving Repr, DecidableEq

namespace Statement

/-- An instruction word. -/
def word (opcode type1 type2 : UInt8) (low : UInt32) : UInt32 :=
  (opcode.toUInt32 <<< 24) ||| ((type2.toUInt32 &&& 0xf) <<< 20) |||
    ((type1.toUInt32 &&& 0xf) <<< 16) ||| (low &&& 0xffff)

/-- The word of an instruction that pushes a constant. -/
def pushWord (t : DataType) (low : UInt32) : UInt32 :=
  word Opcode.push.toByte t.toTag 0 low

/-- The words of a statement, the instruction word first. -/
def words : Statement → List UInt32
  | .plain opcode type1 type2 => [word opcode type1 type2 0]
  | .pushDouble bits => [pushWord .double 0, bits.toUInt32, (bits >>> 32).toUInt32]
  | .pushFloat bits => [pushWord .float 0, bits]
  | .pushInt32 n => [pushWord .int32 0, n.toUInt32]
  | .pushInt64 n => [pushWord .int64 0, n.toUInt64.toUInt32, (n.toUInt64 >>> 32).toUInt32]
  | .pushBool b => [pushWord .boolean 0, if b then 1 else 0]
  | .pushString index => [pushWord .str 0, index.toUInt32]
  | .pushInt16 n => [pushWord .int16 n.toUInt16.toUInt32]
  | .pushImmediate n => [word Opcode.pushi.toByte DataType.int16.toTag 0 n.toUInt16.toUInt32]
  | .access op instanceField kind _ =>
    [word op.opcode.toByte DataType.var.toTag DataType.var.toTag instanceField.toUInt32,
      kind.toUInt32 <<< 24]
  | .call _ arguments => [word Opcode.call.toByte DataType.int32.toTag 0 arguments.toUInt32, 0]
  | .compare kind => [word Opcode.cmp.toByte 0 0 (kind.toUInt32 <<< 8)]
  | .duplicate extra => [word Opcode.dup.toByte DataType.var.toTag 0 extra.toUInt32]
  | .branch op words => [(op.opcode.toByte.toUInt32 <<< 24) ||| (words.toUInt32 &&& 0x7fffff)]

/-- An instruction without payload and without type tags. -/
def op (opcode : UInt8) : Statement := .plain opcode 0 0

/-- Drops the top of the stack. -/
def popz : Statement := .plain Opcode.popz.toByte DataType.var.toTag 0

/-- Ends a script with the top of the stack as its value. -/
def ret : Statement := .plain Opcode.ret.toByte DataType.var.toTag 0

/-- Ends a code entry. -/
def exit : Statement := .plain Opcode.exit.toByte DataType.int32.toTag 0

/-- Pushes a variable through a selector. -/
def pushVar (instanceField : Int32) (var : Nat) : Statement :=
  .access .push instanceField RefKind.normal var

/-- Pushes a variable of the running code entry. -/
def pushLocal (var : Nat) : Statement :=
  .access .pushloc Selector.frame RefKind.normal var

/-- Pushes a global variable. -/
def pushGlobal (var : Nat) : Statement :=
  .access .pushglb Selector.global RefKind.normal var

/-- Pushes a built-in variable. -/
def pushBuiltin (instanceField : Int32) (var : Nat) : Statement :=
  .access .pushbltn instanceField RefKind.normal var

/-- Stores into a variable through a selector. -/
def popVar (instanceField : Int32) (var : Nat) : Statement :=
  .access .pop instanceField RefKind.normal var

end Statement

/-- Code written so far, with the offsets at which table entries are referred to. -/
structure Assembly where
  bytes : ByteArray
  variableRefs : List (Nat × Nat)
  functionRefs : List (Nat × Nat)

namespace Assembly

/-- No code. -/
def empty : Assembly := ⟨.empty, [], []⟩

/-- The offset at which the next statement will be written. -/
def here (a : Assembly) : Nat := a.bytes.size

/-- Writes a statement. -/
def emit (a : Assembly) (s : Statement) : Assembly :=
  { bytes := a.bytes ++ Bytes.ofWords s.words
    variableRefs :=
      match s with
      | .access _ _ _ var => a.variableRefs ++ [(a.here, var)]
      | _ => a.variableRefs
    functionRefs :=
      match s with
      | .call function _ => a.functionRefs ++ [(a.here, function)]
      | _ => a.functionRefs }

/-- Writes statements one behind the other. -/
def ofList (statements : List Statement) : Assembly :=
  statements.foldl emit empty

/-- Sets the distance of the branch at an offset so that it lands on `target`. -/
def patchBranch (a : Assembly) (site target : Nat) : Assembly :=
  let words := Int32.ofInt (Int.tdiv ((target : Int) - site) 4)
  { a with
    bytes := Bytes.modifyWord a.bytes site fun old =>
      (old &&& 0xff800000) ||| (words.toUInt32 &&& 0x7fffff) }

end Assembly

/-- Sets the link of the reference at an offset: the distance to the next occurrence, of
twenty-seven bits, in the word behind the instruction word. -/
def setLink (bytes : ByteArray) (site : Nat) (delta : UInt32) : ByteArray :=
  Bytes.modifyWord bytes (site + 4) fun old => (old &&& 0xf8000000) ||| (delta &&& 0x7ffffff)

end GameRunner

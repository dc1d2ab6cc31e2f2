import GameRunner.Proofs.Code.Statements

/-!
# Decoding undoes assembling

Code that was written statement by statement decodes to one instruction per statement, in order,
each at the offset at which its statement was written. The instruction tells everything that its
statement says: the operation, the type tags, the constant, the reference kind, and whatever its low
bits mean.
-/

namespace GameRunner

namespace Statement

/-- The size of code in bytes. -/
def codeSize (statements : List Statement) : Nat := (statements.map size).sum

@[simp] theorem codeSize_nil : codeSize [] = 0 := rfl

@[simp] theorem codeSize_cons (s : Statement) (rest : List Statement) :
    codeSize (s :: rest) = s.size + codeSize rest := by
  simp [codeSize]

@[simp] theorem codeSize_append (a b : List Statement) :
    codeSize (a ++ b) = codeSize a + codeSize b := by
  simp [codeSize]

/-- The instructions of statements that are written from an offset on. -/
def instructionsFrom (offset : Nat) : List Statement → List Instruction
  | [] => []
  | s :: rest => s.instruction offset :: instructionsFrom (offset + s.size) rest

@[simp] theorem length_instructionsFrom (offset : Nat) (statements : List Statement) :
    (instructionsFrom offset statements).length = statements.length := by
  induction statements generalizing offset with
  | nil => rfl
  | cons s rest ih => simp [instructionsFrom, ih]

/-- The instruction of a statement stands at the offset at which the statement was written. -/
theorem getElem?_instructionsFrom (offset : Nat) (statements : List Statement) (k : Nat) :
    (instructionsFrom offset statements)[k]? =
      statements[k]?.map fun s => s.instruction (offset + codeSize (statements.take k)) := by
  induction statements generalizing offset k with
  | nil => simp [instructionsFrom]
  | cons s rest ih =>
    cases k with
    | zero => simp [instructionsFrom]
    | succ k => simp [instructionsFrom, ih, Nat.add_assoc]

end Statement

namespace Assembly

open Statement

theorem bytes_emit (a : Assembly) (s : Statement) :
    (a.emit s).bytes = a.bytes ++ Bytes.ofWords s.words := rfl

theorem bytes_foldl_emit (a : Assembly) (ws : List UInt32) (ha : a.bytes = Bytes.ofWords ws)
    (statements : List Statement) :
    (statements.foldl emit a).bytes = Bytes.ofWords (ws ++ statements.flatMap words) := by
  induction statements generalizing a ws with
  | nil => simpa using ha
  | cons s rest ih =>
    rw [List.foldl_cons, ih (a.emit s) (ws ++ s.words), List.flatMap_cons, List.append_assoc]
    rw [bytes_emit, ha, Bytes.ofWords_append]

/-- Assembled code is the words of its statements. -/
theorem bytes_ofList (statements : List Statement) :
    (ofList statements).bytes = Bytes.ofWords (statements.flatMap words) :=
  bytes_foldl_emit empty [] rfl statements

theorem here_ofList (statements : List Statement) :
    (ofList statements).here = codeSize statements := by
  rw [here, bytes_ofList, Bytes.size_ofWords]
  induction statements with
  | nil => rfl
  | cons s rest ih =>
    rw [List.flatMap_cons, List.length_append, codeSize_cons, ← ih, Statement.size]
    omega

end Assembly

namespace Code

open Statement

/-- Words that spell statements one behind the other decode to the instructions of the statements,
whatever links have been set. -/
theorem decodeWords_flatten {statements : List Statement} {parts : List (List UInt32)}
    (h : List.Forall₂ SpelledBy statements parts) (hr : ∀ s ∈ statements, s.Readable)
    (before : Array Instruction) (offset : Nat) :
    decodeWords before offset parts.flatten =
      (before ++ (instructionsFrom offset statements).toArray, .complete) := by
  induction h generalizing before offset with
  | nil => simp [decodeWords, instructionsFrom]
  | @cons s part rest parts hs _ ih =>
    rw [List.flatten_cons, decodeWords_spelled (hr s (by simp)) hs,
      ih (fun t ht => hr t (by simp [ht]))]
    simp [instructionsFrom]

theorem decodeWithTail_ofWords {ws : List UInt32} {instructions : Array Instruction}
    (h : decodeWords #[] 0 ws = (instructions, .complete)) :
    decodeWithTail (Bytes.ofWords ws) = (⟨instructions⟩, .complete) := by
  unfold decodeWithTail
  rw [Bytes.words_ofWords, h]
  simp

/-- Code whose words spell statements decodes to their instructions, and nothing is left over. -/
theorem decodeWithTail_spelled {statements : List Statement} {parts : List (List UInt32)}
    (h : List.Forall₂ SpelledBy statements parts) (hr : ∀ s ∈ statements, s.Readable) :
    decodeWithTail (Bytes.ofWords parts.flatten) =
      (⟨(instructionsFrom 0 statements).toArray⟩, .complete) := by
  apply decodeWithTail_ofWords
  rw [decodeWords_flatten h hr, Array.empty_append]

theorem decodeWithTail_assembled {statements : List Statement}
    (hr : ∀ s ∈ statements, s.Readable) :
    decodeWithTail (Assembly.ofList statements).bytes =
      (⟨(instructionsFrom 0 statements).toArray⟩, .complete) := by
  have h : List.Forall₂ SpelledBy statements (statements.map words) := by
    rw [List.forall₂_map_right_iff, List.forall₂_same]
    exact fun s _ => Or.inl rfl
  rw [Assembly.bytes_ofList, List.flatMap_def, decodeWithTail_spelled h hr]

end Code

namespace Statement

/-- The byte that selects the operation of a statement. -/
def opcodeByte : Statement → UInt8
  | .plain opcode _ _ => opcode
  | .pushImmediate _ => Opcode.pushi.toByte
  | .access op _ _ _ => op.opcode.toByte
  | .call _ _ => Opcode.call.toByte
  | .compare _ => Opcode.cmp.toByte
  | .duplicate _ => Opcode.dup.toByte
  | .branch op _ => op.opcode.toByte
  | _ => Opcode.push.toByte

/-- The type tags that a statement is written with; branches have none. -/
def typeTags? : Statement → Option (UInt8 × UInt8)
  | .plain _ type1 type2 => some (type1, type2)
  | .pushDouble _ => some (DataType.double.toTag, 0)
  | .pushFloat _ => some (DataType.float.toTag, 0)
  | .pushInt32 _ => some (DataType.int32.toTag, 0)
  | .pushInt64 _ => some (DataType.int64.toTag, 0)
  | .pushBool _ => some (DataType.boolean.toTag, 0)
  | .pushString _ => some (DataType.str.toTag, 0)
  | .pushInt16 _ => some (DataType.int16.toTag, 0)
  | .pushImmediate _ => some (DataType.int16.toTag, 0)
  | .access _ _ _ _ => some (DataType.var.toTag, DataType.var.toTag)
  | .call _ _ => some (DataType.int32.toTag, 0)
  | .compare _ => some (0, 0)
  | .duplicate _ => some (DataType.var.toTag, 0)
  | .branch _ _ => none

/-- The constant in a statement. The plain form of the operation that pushes its low bits pushes
zero. -/
def literal : Statement → Literal
  | .pushDouble bits => .double bits
  | .pushFloat bits => .float bits
  | .pushInt32 n => .int32 n
  | .pushInt64 n => .int64 n
  | .pushBool b => .bool b
  | .pushString index => .str index
  | .pushInt16 n => .int16 n
  | .pushImmediate n => .int16 n
  | .plain opcode _ _ => if opcode = Opcode.pushi.toByte then .int16 0 else .none
  | _ => .none

/-- The reference kind of a variable access. -/
def refKind : Statement → UInt8
  | .access _ _ kind _ => kind &&& 0xf8
  | _ => 0

/-- What the low bits of an instruction tell of a statement. -/
def Operand (s : Statement) (i : Instruction) : Prop :=
  match s with
  | .access _ instanceField _ _ => i.instanceField.toInt = instanceField.toInt.bmod (2 ^ 16)
  | .call _ arguments => i.argCount = arguments.toNat
  | .compare kind => i.comparison = kind
  | .duplicate extra => i.dupCount = extra.toNat
  | .branch _ words => i.branchOffset = words.toInt
  | .pushInt16 n => i.extra = n
  | .pushImmediate n => i.extra = n
  | _ => i.extra = 0

/-- An instruction that says at an offset what a statement says, and is not linked. -/
structure Describes (s : Statement) (offset : Nat) (i : Instruction) : Prop where
  offset_eq : i.offset = offset
  opcode_eq : i.opcode = s.opcodeByte
  types_eq : ∀ type1 type2, s.typeTags? = some (type1, type2) →
    i.type1.toNat = type1.toNat % 16 ∧ i.type2.toNat = type2.toNat % 16
  literal_eq : i.literal = s.literal
  refKind_eq : i.refKind = s.refKind
  operand : s.Operand i
  variable_unlinked : i.variableIndex = -1
  function_unlinked : i.functionIndex = -1

/-- Whether the distance of a branch fits into its twenty-three bits. -/
def InReach : Statement → Prop
  | .branch _ words => -2 ^ 22 ≤ words.toInt ∧ words.toInt < 2 ^ 22
  | _ => True

instance (s : Statement) : Decidable s.InReach :=
  match s with
  | .branch _ _ => @instDecidableAnd _ _ (Int.decLe _ _) (Int.decLt _ _)
  | .plain .. | .pushDouble .. | .pushFloat .. | .pushInt32 .. | .pushInt64 .. | .pushBool ..
  | .pushString .. | .pushInt16 .. | .pushImmediate .. | .access .. | .call .. | .compare ..
  | .duplicate .. => .isTrue trivial

end Statement

namespace Instruction

theorem exists_withoutPayload_eq (i : Instruction) :
    ∃ l k, i.withoutPayload = { i with literal := l, refKind := k } := by
  unfold withoutPayload
  split <;> exact ⟨_, _, rfl⟩

theorem exists_withWord_eq (i : Instruction) (p : UInt32) :
    ∃ l k, i.withWord p = { i with literal := l, refKind := k } := by
  unfold withWord
  split
  · split <;> exact ⟨_, _, rfl⟩
  · exact ⟨_, _, rfl⟩
  · exact ⟨_, _, rfl⟩

theorem exists_withWords_eq (i : Instruction) (low high : UInt32) :
    ∃ l k, i.withWords low high = { i with literal := l, refKind := k } := by
  unfold withWords
  split <;> exact ⟨_, _, rfl⟩

/-- A payload gives a constant or a reference kind and leaves the rest of the instruction alone. -/
theorem exists_ofWords_eq (offset : Nat) (w : UInt32) (payload : List UInt32) :
    ∃ l k, ofWords offset w payload = { ofWord offset w with literal := l, refKind := k } := by
  match payload with
  | [] => exact exists_withoutPayload_eq _
  | [p] => exact exists_withWord_eq _ p
  | low :: high :: _ => exact exists_withWords_eq _ low high

end Instruction

namespace Statement

open Instruction

theorem exists_instruction_eq (s : Statement) :
    ∃ w payload, s.words = w :: payload ∧ ∀ offset, ∃ l k,
      s.instruction offset = { Instruction.ofWord offset w with literal := l, refKind := k } := by
  have h : ∃ w payload, s.words = w :: payload := by cases s <;> exact ⟨_, _, rfl⟩
  obtain ⟨w, payload, hw⟩ := h
  refine ⟨w, payload, hw, fun offset => ?_⟩
  simp only [instruction, hw]
  exact exists_ofWords_eq offset w payload

/-- A signed number, seen without its sign. -/
theorem toNat_toUInt32 (n : Int32) : (n.toUInt32.toNat : Int) = n.toInt % 2 ^ 32 := by
  have hlt := n.toUInt32.toBitVec.isLt
  change (n.toUInt32.toBitVec.toNat : Int) = n.toUInt32.toBitVec.toInt % 2 ^ 32
  rw [BitVec.toInt_eq_toNat_cond]
  split <;> omega

/-- The low half of a number is what is left of it in sixteen bits. -/
theorem toInt16_toUInt16 (n : Int32) : n.toUInt32.toUInt16.toInt16 = n.toInt16 := by
  apply Int16.toBitVec_inj.mp
  change n.toBitVec.setWidth 16 = n.toBitVec.signExtend 16
  rw [BitVec.signExtend_eq_setWidth_of_le _ (by decide)]

/-- The two halves of a long word, put together again. -/
theorem or_halves (bits : UInt64) :
    bits.toUInt32.toUInt64 ||| ((bits >>> 32).toUInt32.toUInt64 <<< 32) = bits := by
  apply UInt64.toNat_inj.mp
  have hlt := bits.toNat_lt
  have hs : (bits >>> 32).toNat = bits.toNat / 2 ^ 32 := by
    rw [UInt64.toNat_shiftRight]
    exact Nat.shiftRight_eq_div_pow _ _
  have hlow : bits.toUInt32.toUInt64.toNat = bits.toNat % 2 ^ 32 := by
    rw [UInt32.toNat_toUInt64, UInt64.toNat_toUInt32]
  have hhigh : ((bits >>> 32).toUInt32.toUInt64 <<< 32).toNat = 2 ^ 32 * (bits.toNat / 2 ^ 32) := by
    rw [UInt64.toNat_shiftLeft, UInt32.toNat_toUInt64, UInt64.toNat_toUInt32, hs]
    change (bits.toNat / 2 ^ 32 % 2 ^ 32) <<< 32 % 2 ^ 64 = _
    rw [Nat.shiftLeft_eq]
    omega
  rw [UInt64.or_comm, UInt64.toNat_or, hhigh, hlow,
    ← Nat.two_pow_add_eq_or_of_lt (Nat.mod_lt _ (by decide))]
  omega

theorem opcode_instruction (s : Statement) (offset : Nat) :
    (s.instruction offset).opcode = s.opcodeByte := by
  obtain ⟨w, payload, hw, h⟩ := exists_instruction_eq s
  obtain ⟨l, k, hi⟩ := h offset
  rw [hi]
  change (Instruction.ofWord offset w).opcode = _
  cases s <;> cases hw <;> simp [opcodeByte, pushWord]

theorem types_instruction {s : Statement} {type1 type2 : UInt8}
    (h : s.typeTags? = some (type1, type2)) (offset : Nat) :
    (s.instruction offset).type1 = type1 % 16 ∧ (s.instruction offset).type2 = type2 % 16 := by
  obtain ⟨w, payload, hw, hi⟩ := exists_instruction_eq s
  obtain ⟨l, k, hi⟩ := hi offset
  rw [hi]
  change (Instruction.ofWord offset w).type1 = _ ∧ (Instruction.ofWord offset w).type2 = _
  cases s <;> cases hw <;> cases h <;> simp [pushWord]

theorem literal_instruction {s : Statement} (hs : s.Readable) (offset : Nat) :
    (s.instruction offset).literal = s.literal := by
  cases s with
  | plain opcode type1 type2 =>
    simp only [instruction, words, ofWords, withoutPayload, op?, opcode_ofWord_word, literal]
    split
    · next h =>
      exact absurd (List.mem_map.mpr ⟨.push, by decide, Opcode.toByte_of_ofByte? h⟩) hs
    · next h =>
      rw [if_pos (Opcode.toByte_of_ofByte? h).symm, extra_ofWord_word]
      rfl
    · next h =>
      rw [if_neg]
      · rfl
      · rintro rfl
        exact h (Opcode.ofByte?_toByte _)
  | pushDouble bits =>
    simp only [instruction, words, ofWords, withWords, pushWord, type1_ofWord_word,
      DataType.toTag_mod, DataType.ofTag?_toTag, or_halves, literal]
  | pushInt64 n =>
    simp only [instruction, words, ofWords, withWords, pushWord, type1_ofWord_word,
      DataType.toTag_mod, DataType.ofTag?_toTag, or_halves, literal, Int64.toInt64_toUInt64]
  | pushBool b => cases b <;> simp [instruction, words, ofWords, withWord, op?, pushWord, literal]
  | pushInt16 n => simp [instruction, words, ofWords, withoutPayload, op?, pushWord, literal]
  | pushImmediate n => simp [instruction, words, ofWords, withoutPayload, op?, literal]
  | access op instanceField kind var =>
    cases op <;> simp [instruction, words, ofWords, withWord, op?, AccessOp.opcode, literal] <;> rfl
  | branch op distance =>
    cases op <;>
      simp [instruction, words, ofWords, withoutPayload, op?, BranchOp.opcode, literal] <;> rfl
  | _ =>
    simp [instruction, words, ofWords, withWord, withoutPayload, op?, pushWord, literal] <;> rfl

theorem refKindOf_shiftLeft (kind : UInt8) : refKindOf (kind.toUInt32 <<< 24) = kind &&& 0xf8 := by
  apply UInt8.toNat_inj.mp
  have hlt := kind.toNat_lt
  have hs : (kind.toUInt32 <<< 24).toNat = kind.toNat * 2 ^ 24 :=
    Word.toNat_byte_shiftLeft kind 24 (by decide)
  rw [toNat_refKindOf, hs, Word.toNat_and_f8]
  omega

theorem refKind_instruction (s : Statement) (offset : Nat) :
    (s.instruction offset).refKind = s.refKind := by
  cases s with
  | plain opcode type1 type2 =>
    simp only [instruction, words, ofWords, withoutPayload, refKind]
    split <;> rfl
  | access op instanceField kind var =>
    cases op <;> simp [instruction, words, ofWords, withWord, op?, AccessOp.opcode, refKind,
      refKindOf_shiftLeft]
  | branch op distance =>
    simp only [instruction, words, ofWords, withoutPayload, refKind]
    split <;> rfl
  | pushDouble bits =>
    simp only [instruction, words, ofWords, withWords, refKind]
    split <;> rfl
  | pushInt64 n =>
    simp only [instruction, words, ofWords, withWords, refKind]
    split <;> rfl
  | _ =>
    simp [instruction, words, ofWords, withWord, withoutPayload, op?, pushWord, refKind]
    rfl

/-- The comparison kind is the second byte of the operand. -/
theorem comparison_ofWord_word (offset : Nat) (opcode type1 type2 kind : UInt8) :
    (Instruction.ofWord offset (word opcode type1 type2 (kind.toUInt32 <<< 8))).comparison =
      kind := by
  apply UInt8.toNat_inj.mp
  have hlt := kind.toNat_lt
  have hs : (kind.toUInt32 <<< 8).toNat = kind.toNat * 2 ^ 8 :=
    Word.toNat_byte_shiftLeft kind 8 (by decide)
  have ho := toNat_operand_ofWord offset (word opcode type1 type2 (kind.toUInt32 <<< 8))
  have hr (n : UInt32) : (n >>> 8).toNat = n.toNat / 2 ^ 8 :=
    Word.toNat_shiftRight_eq n 8 (by decide)
  rw [comparison, UInt32.toNat_toUInt8, hr, ho, toNat_word, hs]
  omega

/-- A distance of at most twenty-three bits reads back as it was from a word that ends in it. -/
theorem branchOffset_ofWord (offset : Nat) {w : UInt32} {distance : Int32}
    (hw : w.toNat % 2 ^ 23 = distance.toUInt32.toNat % 2 ^ 23)
    (h : -2 ^ 22 ≤ distance.toInt ∧ distance.toInt < 2 ^ 22) :
    (Instruction.ofWord offset w).branchOffset = distance.toInt := by
  have hu := toNat_toUInt32 distance
  have hm : ((Instruction.ofWord offset w).operand &&& 0x7fffff).toNat =
      distance.toUInt32.toNat % 2 ^ 23 := by
    refine (Word.toNat_and_mask _ 23 (by decide)).trans ?_
    rw [toNat_operand_ofWord]
    omega
  unfold branchOffset
  rw [hm]
  generalize distance.toUInt32.toNat = n at hu
  dsimp only
  split_ifs <;> omega

theorem operand_instruction {s : Statement} (hs : s.InReach) (offset : Nat) :
    s.Operand (s.instruction offset) := by
  obtain ⟨w, payload, hw, h⟩ := exists_instruction_eq s
  obtain ⟨l, k, hi⟩ := h offset
  rw [hi]
  cases s with
  | access op target kind var =>
    cases hw
    simp only [Operand, instanceField, extra_ofWord_word, toInt16_toUInt16, Int16.toInt_toInt32,
      Int32.toInt_toInt16]
  | call function arguments =>
    cases hw
    simp [Operand, argCount]
  | compare kind =>
    cases hw
    exact comparison_ofWord_word offset _ 0 0 kind
  | duplicate extra =>
    cases hw
    simp [Operand, dupCount]
  | branch op distance =>
    cases hw
    exact branchOffset_ofWord offset (by rw [toNat_branchWord]; omega) hs
  | _ =>
    cases hw
    simp [Operand, pushWord]

/-- The instruction of a statement says what the statement says. -/
theorem describes_instruction {s : Statement} (hs : s.Readable) (hr : s.InReach) (offset : Nat) :
    s.Describes offset (s.instruction offset) := by
  obtain ⟨w, payload, -, h⟩ := exists_instruction_eq s
  obtain ⟨l, k, hi⟩ := h offset
  refine ⟨?_, opcode_instruction s offset, ?_, literal_instruction hs offset,
    refKind_instruction s offset, operand_instruction hr offset, ?_, ?_⟩
  · rw [hi]
    rfl
  · intro type1 type2 ht
    obtain ⟨h1, h2⟩ := types_instruction ht offset
    rw [h1, h2, UInt8.toNat_mod, UInt8.toNat_mod]
    exact ⟨rfl, rfl⟩
  · rw [hi]
    rfl
  · rw [hi]
    rfl

end Statement

namespace Code

open Statement

/-- Decoding undoes assembling. Statements whose operation has a payload only where its own form
writes one, and whose branches fit, decode to one instruction each, in order and without a rest, and
the instruction says at the offset of its statement what the statement says. -/
theorem decode_assembled (statements : List Statement) (hr : ∀ s ∈ statements, s.Readable)
    (hb : ∀ s ∈ statements, s.InReach) :
    (decode (Assembly.ofList statements).bytes).size = statements.length ∧
      ∀ (k : Nat) (s : Statement), statements[k]? = some s →
        ∃ i, (decode (Assembly.ofList statements).bytes).instructions[k]? = some i ∧
          s.Describes (Assembly.ofList (statements.take k)).here i := by
  rw [decode, decodeWithTail_assembled hr]
  refine ⟨by simp [size], fun k s hk => ?_⟩
  have hs : s ∈ statements := List.mem_of_getElem? hk
  refine ⟨s.instruction (codeSize (statements.take k)), ?_, ?_⟩
  · simp [getElem?_instructionsFrom, hk]
  · rw [Assembly.here_ofList]
    exact describes_instruction (hr s hs) (hb s hs) _

/-- A program with a payload of each size, a reference and a branch backwards. -/
theorem decode_assembled_loop :
    let program : List Statement :=
      [.pushDouble 0x3ff8000000000000, .pushVar Selector.self 4, .pushInt16 (-5),
        .plain Opcode.add.toByte 0x25 0x15, .popVar Selector.self 4, .call 2 3, .popz, .compare 2,
        .duplicate 7, .branch .bf (-4194304), .exit]
    (∀ s ∈ program, s.Readable) ∧ (∀ s ∈ program, s.InReach) ∧
    (decode (Assembly.ofList program).bytes).size = program.length ∧
      ∀ (k : Nat) (s : Statement), program[k]? = some s →
        ∃ i, (decode (Assembly.ofList program).bytes).instructions[k]? = some i ∧
          s.Describes (Assembly.ofList (program.take k)).here i :=
  have hr := by decide
  have hb := by decide
  ⟨hr, hb, decode_assembled _ hr hb⟩

end Code

end GameRunner

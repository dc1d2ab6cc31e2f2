import GameRunner.Proofs.Code.Words

/-!
# Statements and the instructions they become

A statement that can be read back becomes one instruction, which the decoder finds however the link
of a reference has been set and whatever code follows. Hence code that was written statement by
statement decodes statement by statement.
-/

namespace GameRunner

namespace Instruction

/-- The instruction that a word and its payload make. -/
def ofWords (offset : Nat) (w : UInt32) : List UInt32 → Instruction
  | [] => (ofWord offset w).withoutPayload
  | [payload] => (ofWord offset w).withWord payload
  | low :: high :: _ => (ofWord offset w).withWords low high

@[simp] theorem opcode_ofWord_word (offset : Nat) (opcode type1 type2 : UInt8) (low : UInt32) :
    (ofWord offset (Statement.word opcode type1 type2 low)).opcode = opcode := by
  apply UInt8.toNat_inj.mp
  have hop := opcode.toNat_lt
  rw [toNat_opcode_ofWord, Statement.toNat_word]
  omega

@[simp] theorem type1_ofWord_word (offset : Nat) (opcode type1 type2 : UInt8) (low : UInt32) :
    (ofWord offset (Statement.word opcode type1 type2 low)).type1 = type1 % 16 := by
  apply UInt8.toNat_inj.mp
  rw [toNat_type1_ofWord, Statement.toNat_word, UInt8.toNat_mod]
  change _ = type1.toNat % 16
  omega

@[simp] theorem type2_ofWord_word (offset : Nat) (opcode type1 type2 : UInt8) (low : UInt32) :
    (ofWord offset (Statement.word opcode type1 type2 low)).type2 = type2 % 16 := by
  apply UInt8.toNat_inj.mp
  rw [toNat_type2_ofWord, Statement.toNat_word, UInt8.toNat_mod]
  change _ = type2.toNat % 16
  omega

@[simp] theorem extra_ofWord_word (offset : Nat) (opcode type1 type2 : UInt8) (low : UInt32) :
    (ofWord offset (Statement.word opcode type1 type2 low)).extra = low.toUInt16.toInt16 := by
  have h := toNat_extra_ofWord offset (Statement.word opcode type1 type2 low)
  rw [Statement.toNat_word] at h
  have hu : (ofWord offset (Statement.word opcode type1 type2 low)).extra.toUInt16 =
      low.toUInt16 := by
    apply UInt16.toNat_inj.mp
    rw [h, UInt32.toNat_toUInt16]
    omega
  rw [← hu, Int16.toInt16_toUInt16]

@[simp] theorem opcode_ofWord_branchWord (offset : Nat) (opcode : UInt8) (n : UInt32) :
    (ofWord offset ((opcode.toUInt32 <<< 24) ||| (n &&& 0x7fffff))).opcode = opcode := by
  apply UInt8.toNat_inj.mp
  have hop := opcode.toNat_lt
  rw [toNat_opcode_ofWord, Statement.toNat_branchWord]
  omega

/-- The kind of a reference does not depend on its link. -/
theorem refKindOf_congr {p q : UInt32} (h : p.toNat / 2 ^ 27 = q.toNat / 2 ^ 27) :
    refKindOf p = refKindOf q := by
  apply UInt8.toNat_inj.mp
  rw [toNat_refKindOf, toNat_refKindOf, h]

end Instruction

/-- A byte that selects an operation is the byte of that operation. -/
theorem Opcode.toByte_of_ofByte? {byte : UInt8} {op : Opcode} (h : ofByte? byte = some op) :
    op.toByte = byte := by
  unfold ofByte? at h
  split at h <;> cases h <;> rfl

@[simp] theorem DataType.toTag_mod (t : DataType) : t.toTag % 16 = t.toTag := by
  cases t <;> rfl

namespace Statement

/-- The operations whose instructions have a payload. -/
def payloadOps : List Opcode := [.push, .pushloc, .pushglb, .pushbltn, .pop, .call]

/-- Whether the decoder takes exactly the words of a statement: an operation that is written plainly
must be one without a payload. -/
def Readable : Statement → Prop
  | .plain opcode _ _ => opcode ∉ payloadOps.map Opcode.toByte
  | _ => True

instance (s : Statement) : Decidable s.Readable :=
  match s with
  | .plain opcode _ _ => inferInstanceAs (Decidable (opcode ∉ payloadOps.map Opcode.toByte))
  | .pushDouble .. | .pushFloat .. | .pushInt32 .. | .pushInt64 .. | .pushBool .. | .pushString ..
  | .pushInt16 .. | .pushImmediate .. | .access .. | .call .. | .compare .. | .duplicate ..
  | .branch .. => .isTrue trivial

/-- The size of a statement in bytes. -/
def size (s : Statement) : Nat := 4 * s.words.length

/-- Whether a statement refers to a variable or a function. -/
def isReference : Statement → Bool
  | .access .. => true
  | .call .. => true
  | _ => false

/-- Words that stand for a statement: its own, but the link of a reference, in the low twenty-seven
bits of its payload, may be any. -/
def SpelledBy (s : Statement) (ws : List UInt32) : Prop :=
  ws = s.words ∨
    s.isReference ∧ ∃ w p q, s.words = [w, p] ∧ ws = [w, q] ∧ q.toNat / 2 ^ 27 = p.toNat / 2 ^ 27

/-- The instruction of a statement at an offset. -/
def instruction (s : Statement) (offset : Nat) : Instruction :=
  match s.words with
  | [] => .ofWord offset 0
  | w :: payload => .ofWords offset w payload

theorem payloadWords_of_not_mem {opcode : UInt8} (h : opcode ∉ payloadOps.map Opcode.toByte)
    (type1 : UInt8) : Instruction.payloadWords opcode type1 = 0 := by
  have hne (op : Opcode) (hop : op ∈ payloadOps) : Opcode.ofByte? opcode ≠ some op := by
    intro ho
    exact h (List.mem_map.mpr ⟨op, hop, Opcode.toByte_of_ofByte? ho⟩)
  unfold Instruction.payloadWords
  cases ho : Opcode.ofByte? opcode with
  | none => rfl
  | some op =>
    cases op with
    | push => exact absurd ho (hne _ (by decide))
    | pushloc => exact absurd ho (hne _ (by decide))
    | pushglb => exact absurd ho (hne _ (by decide))
    | pushbltn => exact absurd ho (hne _ (by decide))
    | pop => exact absurd ho (hne _ (by decide))
    | call => exact absurd ho (hne _ (by decide))
    | _ => rfl

/-- The words of a statement: one for the instruction, and the payload that it calls for. -/
theorem exists_words_eq {s : Statement} (h : s.Readable) :
    ∃ w payload, s.words = w :: payload ∧ payload.length ≤ 2 ∧ ∀ offset,
      Instruction.payloadWords (Instruction.ofWord offset w).opcode
        (Instruction.ofWord offset w).type1 = payload.length := by
  cases s with
  | plain opcode type1 type2 =>
    refine ⟨_, _, rfl, by simp, fun offset => ?_⟩
    rw [Instruction.opcode_ofWord_word]
    exact payloadWords_of_not_mem h _
  | branch op words =>
    refine ⟨_, _, rfl, by simp, fun offset => ?_⟩
    rw [Instruction.opcode_ofWord_branchWord]
    cases op <;> rfl
  | access op instanceField kind var =>
    refine ⟨_, _, rfl, by simp, fun offset => ?_⟩
    rw [Instruction.opcode_ofWord_word, Instruction.type1_ofWord_word]
    cases op <;> rfl
  | _ =>
    refine ⟨_, _, rfl, by simp, fun offset => ?_⟩
    simp only [pushWord, Instruction.opcode_ofWord_word, Instruction.type1_ofWord_word]
    rfl

theorem length_of_spelledBy {s : Statement} {ws : List UInt32} (h : s.SpelledBy ws) :
    4 * ws.length = s.size := by
  rcases h with rfl | ⟨-, w, p, q, hs, rfl, -⟩
  · rfl
  · simp [size, hs]

/-- Neither the decoded fields nor the payload of a reference depend on its link. -/
theorem withWord_congr {s : Statement} (hs : s.isReference) {w p q : UInt32}
    (hw : s.words = [w, p]) (hq : q.toNat / 2 ^ 27 = p.toNat / 2 ^ 27) (offset : Nat) :
    (Instruction.ofWord offset w).withWord q = (Instruction.ofWord offset w).withWord p := by
  have hkind := Instruction.refKindOf_congr hq
  cases s with
  | access op instanceField kind var =>
    simp only [words, List.cons.injEq] at hw
    obtain ⟨rfl, -⟩ := hw
    cases op <;> simp [Instruction.withWord, Instruction.op?, AccessOp.opcode, hkind]
  | call function arguments =>
    simp only [words, List.cons.injEq] at hw
    obtain ⟨rfl, -⟩ := hw
    simp [Instruction.withWord, Instruction.op?]
  | _ => exact absurd hs Bool.false_ne_true

end Statement

namespace Code

open Statement

/-- The decoder takes an instruction word and the payload that it calls for. -/
theorem decodeWords_cons (before : Array Instruction) (offset : Nat) (w : UInt32)
    (payload rest : List UInt32) (h : payload.length ≤ 2)
    (hp : Instruction.payloadWords (Instruction.ofWord offset w).opcode
      (Instruction.ofWord offset w).type1 = payload.length) :
    decodeWords before offset (w :: payload ++ rest) =
      decodeWords (before.push (.ofWords offset w payload)) (offset + 4 * (w :: payload).length)
        rest := by
  match payload, h with
  | [], _ =>
    rw [List.cons_append, decodeWords.eq_def]
    simp only [hp]
    rfl
  | [p], _ =>
    rw [List.cons_append, decodeWords.eq_def]
    simp only [hp]
    rfl
  | [low, high], _ =>
    rw [List.cons_append, decodeWords.eq_def]
    simp only [hp]
    rfl

/-- The decoder takes words that spell a statement as the instruction of the statement. -/
theorem decodeWords_spelled {s : Statement} (hs : s.Readable) {ws : List UInt32}
    (hw : s.SpelledBy ws) (before : Array Instruction) (offset : Nat) (rest : List UInt32) :
    decodeWords before offset (ws ++ rest) =
      decodeWords (before.push (s.instruction offset)) (offset + s.size) rest := by
  obtain ⟨w, payload, hwords, hlen, hp⟩ := exists_words_eq hs
  rcases hw with rfl | ⟨href, v, p, q, hpq, rfl, hq⟩
  · rw [hwords, decodeWords_cons before offset w payload rest hlen (hp offset)]
    simp only [instruction, Statement.size, hwords]
  · rw [hpq] at hwords
    cases hwords
    rw [decodeWords_cons before offset w [q] rest (by simp) (hp offset)]
    have hi : Instruction.ofWords offset w [q] = s.instruction offset := by
      simp only [instruction, hpq, Instruction.ofWords]
      exact withWord_congr href hpq hq offset
    simp only [hi, Statement.size, hpq, List.length_cons, List.length_nil]

end Code

end GameRunner

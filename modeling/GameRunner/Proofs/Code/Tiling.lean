import GameRunner.Proofs.Code.RoundTrip

/-!
# Decoding tiles the bytes

An instruction can be read where it stands: its word, and behind it the payload that its operation
and type call for. Reading fails exactly if the instruction does not fit in front of the end.
Decoding reads instructions in this way, each where the one before ends, until none can be read. So
they cover the bytes without gaps or overlaps, up to a tail that holds no whole instruction.
-/

namespace GameRunner

namespace Bytes

theorem byte?_eq_none_iff (b : ByteArray) (pos : Nat) : byte? b pos = none ↔ b.size ≤ pos := by
  unfold byte?
  split_ifs with h
  · simpa using h
  · simpa using h

/-- A word can be read where its four bytes lie inside. -/
theorem isSome_word?_iff (b : ByteArray) (pos : Nat) : (word? b pos).isSome ↔ pos + 4 ≤ b.size := by
  have h0 := byte?_eq_none_iff b pos
  have h1 := byte?_eq_none_iff b (pos + 1)
  have h2 := byte?_eq_none_iff b (pos + 2)
  have h3 := byte?_eq_none_iff b (pos + 3)
  unfold word?
  cases hb0 : byte? b pos <;> cases hb1 : byte? b (pos + 1) <;> cases hb2 : byte? b (pos + 2) <;>
    cases hb3 : byte? b (pos + 3) <;> simp_all <;> omega

/-- Two words, the low one first, as a number of sixty-four bits. -/
def double? (b : ByteArray) (pos : Nat) : Option UInt64 := do
  return (← word? b pos).toUInt64 ||| ((← word? b (pos + 4)).toUInt64 <<< 32)

variable {b : ByteArray} {pos : Nat}

/-- The words that stand from an offset on, up to the end. -/
def WordsFrom (b : ByteArray) (pos : Nat) (ws : List UInt32) : Prop :=
  ∀ k, ws[k]? = word? b (pos + 4 * k)

theorem wordsFrom_nil : WordsFrom b pos [] → word? b pos = none := fun h => (h 0).symm

theorem WordsFrom.head {w : UInt32} {ws : List UInt32} (h : WordsFrom b pos (w :: ws)) :
    word? b pos = some w := (h 0).symm

theorem WordsFrom.tail {w : UInt32} {ws : List UInt32} (h : WordsFrom b pos (w :: ws)) :
    WordsFrom b (pos + 4) ws := by
  intro k
  have hk := h (k + 1)
  rw [List.getElem?_cons_succ] at hk
  rw [hk]
  congr 1
  omega

/-- Cutting bytes into words gives the words at every fourth place. -/
theorem wordsFrom_words (b : ByteArray) : WordsFrom b 0 (words b) := by
  intro k
  rw [Nat.zero_add]
  rcases Nat.lt_or_ge k (b.size / 4) with h | h
  · have hsome := (isSome_word?_iff b (4 * k)).mpr (show 4 * k + 4 ≤ b.size by omega)
    obtain ⟨w, hw⟩ := Option.isSome_iff_exists.mp hsome
    simp [words, h, hw]
  · have hnone : word? b (4 * k) = none := by
      rw [← Option.not_isSome_iff_eq_none, isSome_word?_iff]
      omega
    rw [hnone, List.getElem?_eq_none_iff]
    simpa [words] using h

end Bytes

namespace Instruction

/-- Completes an instruction with the payload that stands behind its word; nothing if the payload is
cut off. -/
def readPayload? (bytes : ByteArray) (i : Instruction) : Option Instruction :=
  match i.op? with
  | some .push =>
    match DataType.ofTag? i.type1 with
    | some .double =>
      (Bytes.double? bytes (i.offset + 4)).map fun v => { i with literal := .double v }
    | some .int64 =>
      (Bytes.double? bytes (i.offset + 4)).map fun v => { i with literal := .int64 v.toInt64 }
    | some .float => (Bytes.word? bytes (i.offset + 4)).map fun v => { i with literal := .float v }
    | some .int32 =>
      (Bytes.word? bytes (i.offset + 4)).map fun v => { i with literal := .int32 v.toInt32 }
    | some .boolean =>
      (Bytes.word? bytes (i.offset + 4)).map fun (v : UInt32) =>
        { i with literal := .bool (v != 0) }
    | some .str =>
      (Bytes.word? bytes (i.offset + 4)).map fun v => { i with literal := .str v.toInt32 }
    | some .int16 => some { i with literal := .int16 i.extra }
    | some .var =>
      (Bytes.word? bytes (i.offset + 4)).map fun r => { i with refKind := refKindOf r }
    | none => (Bytes.word? bytes (i.offset + 4)).map fun v => { i with literal := .raw v }
  | some .pushloc | some .pushglb | some .pushbltn | some .pop =>
    (Bytes.word? bytes (i.offset + 4)).map fun r => { i with refKind := refKindOf r }
  | some .call => (Bytes.word? bytes (i.offset + 4)).map fun _ => i
  | some .pushi => some { i with literal := .int16 i.extra }
  | _ => some i

/-- The instruction at an offset of the bytes. -/
def read? (bytes : ByteArray) (offset : Nat) : Option Instruction :=
  (Bytes.word? bytes offset).bind fun w => readPayload? bytes (ofWord offset w)

variable {bytes : ByteArray} {i j : Instruction} {offset : Nat}

theorem payloadWords_le (opcode type1 : UInt8) : payloadWords opcode type1 ≤ 2 := by
  unfold payloadWords
  split
  · split <;> decide
  all_goals decide

theorem readPayload?_of_payloadWords_zero (h : payloadWords i.opcode i.type1 = 0) :
    readPayload? bytes i = some i.withoutPayload := by
  unfold payloadWords at h
  unfold readPayload? withoutPayload op?
  cases hop : Opcode.ofByte? i.opcode with
  | none => rfl
  | some op =>
    rw [hop] at h
    cases op with
    | push =>
      cases ht : DataType.ofTag? i.type1 with
      | none => simp [ht] at h
      | some t =>
        rw [ht] at h
        cases t with
        | int16 => rfl
        | _ => simp at h
    | pushloc | pushglb | pushbltn | pop | call => simp at h
    | _ => rfl

theorem readPayload?_of_payloadWords_one (h : payloadWords i.opcode i.type1 = 1) :
    readPayload? bytes i = (Bytes.word? bytes (i.offset + 4)).map i.withWord := by
  unfold payloadWords at h
  unfold readPayload? withWord op?
  cases hop : Opcode.ofByte? i.opcode with
  | none => simp [hop] at h
  | some op =>
    rw [hop] at h
    cases op with
    | push =>
      cases ht : DataType.ofTag? i.type1 with
      | none => rfl
      | some t =>
        rw [ht] at h
        cases t with
        | double | int64 | int16 => simp at h
        | _ => rfl
    | pushloc | pushglb | pushbltn | pop | call => rfl
    | _ => simp at h

theorem readPayload?_of_payloadWords_two (h : payloadWords i.opcode i.type1 = 2) :
    readPayload? bytes i = (Bytes.word? bytes (i.offset + 4)).bind fun low =>
      (Bytes.word? bytes (i.offset + 8)).map fun high => i.withWords low high := by
  unfold payloadWords at h
  unfold readPayload? withWords op?
  cases hop : Opcode.ofByte? i.opcode with
  | none => simp [hop] at h
  | some op =>
    rw [hop] at h
    cases op with
    | push =>
      cases ht : DataType.ofTag? i.type1 with
      | none => simp [ht] at h
      | some t =>
        rw [ht] at h
        cases t with
        | double => simp [Bytes.double?, Option.map_eq_bind, Option.bind_assoc]
        | int64 => simp [Bytes.double?, Option.map_eq_bind, Option.bind_assoc]
        | _ => simp at h
    | _ => simp at h

theorem payloadWords_cases (opcode type1 : UInt8) :
    payloadWords opcode type1 = 0 ∨ payloadWords opcode type1 = 1 ∨
      payloadWords opcode type1 = 2 := by
  have := payloadWords_le opcode type1
  omega

theorem payloadWords_eq_two {opcode type1 : UInt8} (h0 : payloadWords opcode type1 ≠ 0)
    (h1 : payloadWords opcode type1 ≠ 1) : payloadWords opcode type1 = 2 := by
  rcases payloadWords_cases opcode type1 with hp | hp | hp
  · exact absurd hp h0
  · exact absurd hp h1
  · exact hp

/-- The payload that is read is as long as the size of the instruction says. -/
theorem isSome_readPayload?_iff (h : i.offset + 4 ≤ bytes.size) :
    (readPayload? bytes i).isSome ↔ i.offset + i.size ≤ bytes.size := by
  have h4 := Bytes.isSome_word?_iff bytes (i.offset + 4)
  have h8 := Bytes.isSome_word?_iff bytes (i.offset + 8)
  rcases payloadWords_cases i.opcode i.type1 with hp | hp | hp
  · rw [readPayload?_of_payloadWords_zero hp, size, hp]
    simpa using h
  · rw [readPayload?_of_payloadWords_one hp, Option.isSome_map, h4, size, hp]
  · rw [readPayload?_of_payloadWords_two hp, size, hp]
    cases hlow : Bytes.word? bytes (i.offset + 4) with
    | none =>
      rw [hlow] at h4
      simp only [Option.bind_none, Option.isSome_none, Bool.false_eq_true, false_iff] at h4 ⊢
      omega
    | some low => rw [Option.bind_some, Option.isSome_map, h8]

/-- Reading the payload leaves the rest of the instruction alone. -/
theorem exists_of_readPayload?_eq_some (h : readPayload? bytes i = some j) :
    ∃ l k, j = { i with literal := l, refKind := k } := by
  rcases payloadWords_cases i.opcode i.type1 with hp | hp | hp
  · rw [readPayload?_of_payloadWords_zero hp, Option.some.injEq] at h
    exact h ▸ exists_withoutPayload_eq i
  · rw [readPayload?_of_payloadWords_one hp, Option.map_eq_some_iff] at h
    obtain ⟨p, -, rfl⟩ := h
    exact exists_withWord_eq i p
  · rw [readPayload?_of_payloadWords_two hp, Option.bind_eq_some_iff] at h
    obtain ⟨low, -, h⟩ := h
    obtain ⟨high, -, rfl⟩ := Option.map_eq_some_iff.mp h
    exact exists_withWords_eq i low high

/-- An instruction that is read stands at its offset and ends inside the bytes. -/
theorem of_read?_eq_some (h : read? bytes offset = some i) :
    i.offset = offset ∧ offset + i.size ≤ bytes.size := by
  obtain ⟨w, hw, hi⟩ := Option.bind_eq_some_iff.mp h
  have hword := (Bytes.isSome_word?_iff _ _).mp (Option.isSome_of_eq_some hw)
  have hsize := (isSome_readPayload?_iff (i := ofWord offset w) hword).mp
    (Option.isSome_of_eq_some hi)
  obtain ⟨l, k, rfl⟩ := exists_of_readPayload?_eq_some hi
  exact ⟨rfl, hsize⟩

/-- Where no instruction can be read, there is no word left, or the word is that of an instruction
that goes on behind the end. -/
theorem of_read?_eq_none (h : read? bytes offset = none) :
    bytes.size - offset < 4 ∨ ∃ w, Bytes.word? bytes offset = some w ∧
      bytes.size - offset < (ofWord offset w).size := by
  cases hw : Bytes.word? bytes offset with
  | none =>
    left
    have := mt (Bytes.isSome_word?_iff bytes offset).mpr (by simp [hw])
    omega
  | some w =>
    right
    refine ⟨w, rfl, ?_⟩
    rw [read?, hw, Option.bind_some] at h
    have hword := (Bytes.isSome_word?_iff _ _).mp (Option.isSome_of_eq_some hw)
    have := mt (isSome_readPayload?_iff (i := ofWord offset w) hword).mpr (by simp [h])
    change ¬ offset + (ofWord offset w).size ≤ bytes.size at this
    omega

section Read

variable {w : UInt32} (hw : Bytes.word? bytes offset = some w)

include hw

theorem read?_of_payloadWords_zero
    (hp : payloadWords (ofWord offset w).opcode (ofWord offset w).type1 = 0) :
    read? bytes offset = some (ofWord offset w).withoutPayload := by
  rw [read?, hw, Option.bind_some, readPayload?_of_payloadWords_zero hp]

theorem read?_of_payloadWords_one
    (hp : payloadWords (ofWord offset w).opcode (ofWord offset w).type1 = 1) :
    read? bytes offset = (Bytes.word? bytes (offset + 4)).map (ofWord offset w).withWord := by
  rw [read?, hw, Option.bind_some, readPayload?_of_payloadWords_one hp]
  rfl

theorem read?_of_payloadWords_two
    (hp : payloadWords (ofWord offset w).opcode (ofWord offset w).type1 = 2) :
    read? bytes offset = (Bytes.word? bytes (offset + 4)).bind fun low =>
      (Bytes.word? bytes (offset + 8)).map fun high => (ofWord offset w).withWords low high := by
  rw [read?, hw, Option.bind_some, readPayload?_of_payloadWords_two hp]
  rfl

end Read

theorem size_pos (i : Instruction) : 0 < i.size := by
  unfold size
  omega

end Instruction

namespace Code

variable {bytes : ByteArray}

/-- Instructions that are read from the bytes one behind the other, from an offset up to another. -/
def ReadsOn (bytes : ByteArray) : Nat → List Instruction → Nat → Prop
  | start, [], stop => start = stop
  | start, i :: rest, stop =>
    Instruction.read? bytes start = some i ∧ ReadsOn bytes (start + i.size) rest stop

/-- What was decoded before, with all instructions behind it that are read on from an offset until
none can be read. -/
def ReadsToEnd (bytes : ByteArray) (before : Array Instruction) (offset : Nat)
    (after : Array Instruction) : Prop :=
  ∃ instructions stop, after = before ++ instructions.toArray ∧
    ReadsOn bytes offset instructions stop ∧ Instruction.read? bytes stop = none

theorem readsToEnd_of_none {before : Array Instruction} {offset : Nat}
    (h : Instruction.read? bytes offset = none) : ReadsToEnd bytes before offset before :=
  ⟨[], offset, by simp, rfl, h⟩

theorem ReadsToEnd.of_push {before after : Array Instruction} {offset next : Nat} {i : Instruction}
    (h : ReadsToEnd bytes (before.push i) next after)
    (hi : Instruction.read? bytes offset = some i) (hnext : next = offset + i.size) :
    ReadsToEnd bytes before offset after := by
  obtain ⟨instructions, stop, rfl, hreads, hstop⟩ := h
  exact ⟨i :: instructions, stop, by simp, ⟨hi, hnext ▸ hreads⟩, hstop⟩

/-- Decoding reads on until no instruction can be read. -/
theorem readsToEnd_decodeWords (before : Array Instruction) (offset : Nat) (ws : List UInt32)
    (h : Bytes.WordsFrom bytes offset ws) :
    ReadsToEnd bytes before offset (decodeWords before offset ws).1 := by
  fun_induction decodeWords before offset ws with
  | case1 before offset =>
    apply readsToEnd_of_none
    rw [Instruction.read?, Bytes.wordsFrom_nil h, Option.bind_none]
  | case2 before offset word rest i hp ih =>
    apply (ih h.tail).of_push (Instruction.read?_of_payloadWords_zero h.head hp)
    obtain ⟨l, k, hi⟩ := Instruction.exists_withoutPayload_eq i
    rw [hi, Instruction.size, hp]
  | case3 before offset word i hp payload rest ih =>
    have hi : Instruction.read? bytes offset = some (i.withWord payload) := by
      rw [Instruction.read?_of_payloadWords_one h.head hp, h.tail.head, Option.map_some]
    apply (ih h.tail.tail).of_push hi
    obtain ⟨l, k, hi⟩ := Instruction.exists_withWord_eq i payload
    rw [hi, Instruction.size, hp]
  | case4 before offset word i hp =>
    -- The payload is missing.
    apply readsToEnd_of_none
    rw [Instruction.read?_of_payloadWords_one h.head hp, Bytes.wordsFrom_nil h.tail,
      Option.map_none]
  | case5 before offset word i low high rest h0 h1 ih =>
    have hp := Instruction.payloadWords_eq_two h0 h1
    have hi : Instruction.read? bytes offset = some (i.withWords low high) := by
      rw [Instruction.read?_of_payloadWords_two h.head hp, h.tail.head, Option.bind_some,
        h.tail.tail.head, Option.map_some]
    apply (ih h.tail.tail.tail).of_push hi
    obtain ⟨l, k, hi⟩ := Instruction.exists_withWords_eq i low high
    rw [hi, Instruction.size, hp]
  | case6 before offset word rest i h0 h1 hrest =>
    -- Of two payload words the second one, at least, is missing.
    apply readsToEnd_of_none
    rw [Instruction.read?_of_payloadWords_two h.head (Instruction.payloadWords_eq_two h0 h1)]
    match rest, hrest with
    | [], _ => rw [Bytes.wordsFrom_nil h.tail, Option.bind_none]
    | [low], _ =>
      rw [h.tail.head, Option.bind_some, Bytes.wordsFrom_nil h.tail.tail, Option.map_none]
    | low :: high :: rest, hrest => exact absurd rfl (hrest low high rest)

/-- A decoded entry is read from its bytes. -/
theorem exists_readsOn_decode (bytes : ByteArray) :
    ∃ stop, ReadsOn bytes 0 (decode bytes).instructions.toList stop ∧
      Instruction.read? bytes stop = none := by
  have hcode : (decode bytes).instructions = (decodeWords #[] 0 (Bytes.words bytes)).1 := by
    unfold decode decodeWithTail
    dsimp only
    split
    · split <;> rfl
    · rfl
  obtain ⟨instructions, stop, hafter, hreads, hstop⟩ :=
    readsToEnd_decodeWords #[] 0 _ (Bytes.wordsFrom_words bytes)
  refine ⟨stop, ?_, hstop⟩
  rw [hcode, hafter, Array.empty_append]
  exact hreads

namespace ReadsOn

variable {start stop k : Nat} {instructions : List Instruction} {i j : Instruction}

/-- Every instruction is the one that is read at its offset. -/
theorem read?_eq (h : ReadsOn bytes start instructions stop) (hi : i ∈ instructions) :
    Instruction.read? bytes i.offset = some i := by
  induction instructions generalizing start with
  | nil => cases hi
  | cons first rest ih =>
    obtain ⟨hfirst, hrest⟩ := h
    rcases List.mem_cons.mp hi with rfl | hi
    · rw [(Instruction.of_read?_eq_some hfirst).1, hfirst]
    · exact ih hrest hi

theorem offset_eq (h : ReadsOn bytes start instructions stop) (hi : instructions[0]? = some i) :
    i.offset = start := by
  cases instructions with
  | nil => cases hi
  | cons first rest =>
    cases hi
    exact (Instruction.of_read?_eq_some h.1).1

/-- Every instruction starts where the one before it ends. -/
theorem offset_eq_offset_add_size (h : ReadsOn bytes start instructions stop)
    (hi : instructions[k]? = some i) (hj : instructions[k + 1]? = some j) :
    j.offset = i.offset + i.size := by
  induction instructions generalizing start k with
  | nil => cases hi
  | cons first rest ih =>
    obtain ⟨hfirst, hrest⟩ := h
    cases k with
    | zero =>
      cases hi
      rw [hrest.offset_eq hj, (Instruction.of_read?_eq_some hfirst).1]
    | succ k => exact ih hrest hi hj

/-- Reading on ends behind the last instruction. -/
theorem stop_eq (h : ReadsOn bytes start instructions stop) :
    stop = (instructions.getLast?.map fun i => i.offset + i.size).getD start := by
  induction instructions generalizing start with
  | nil => exact Eq.symm h
  | cons first rest ih =>
    obtain ⟨hfirst, hrest⟩ := h
    rw [ih hrest, List.getLast?_cons]
    cases rest.getLast? with
    | none => simp [(Instruction.of_read?_eq_some hfirst).1]
    | some last => rfl

theorem stop_le (h : ReadsOn bytes start instructions stop) (hs : start ≤ bytes.size) :
    stop ≤ bytes.size := by
  induction instructions generalizing start with
  | nil => exact h ▸ hs
  | cons first rest ih => exact ih h.2 (Instruction.of_read?_eq_some h.1).2

theorem start_le (h : ReadsOn bytes start instructions stop) (hi : i ∈ instructions) :
    start ≤ i.offset := by
  induction instructions generalizing start with
  | nil => cases hi
  | cons first rest ih =>
    obtain ⟨hfirst, hrest⟩ := h
    rcases List.mem_cons.mp hi with rfl | hi
    · exact Nat.le_of_eq (Instruction.of_read?_eq_some hfirst).1.symm
    · have := ih hrest hi
      omega

/-- The offsets increase. -/
theorem pairwise_offset_lt (h : ReadsOn bytes start instructions stop) :
    instructions.Pairwise fun i j => i.offset < j.offset := by
  induction instructions generalizing start with
  | nil => exact .nil
  | cons first rest ih =>
    obtain ⟨hfirst, hrest⟩ := h
    refine List.pairwise_cons.mpr ⟨fun j hj => ?_, ih hrest⟩
    have hle := hrest.start_le hj
    have hpos := first.size_pos
    rw [(Instruction.of_read?_eq_some hfirst).1]
    omega

end ReadsOn

/-- Where offsets increase, looking up an offset finds the instruction that has it. -/
theorem indexOf?_eq_some_iff {c : Code} {offset k : Nat}
    (h : c.instructions.toList.Pairwise fun i j => i.offset < j.offset) :
    c.indexOf? offset = some k ↔ ∃ i, c.instructions[k]? = some i ∧ i.offset = offset := by
  rw [indexOf?, Array.findIdx?_eq_some_iff_getElem]
  constructor
  · rintro ⟨hk, hoffset, -⟩
    exact ⟨c.instructions[k], Array.getElem?_eq_getElem hk, by simpa using hoffset⟩
  · rintro ⟨i, hi, rfl⟩
    obtain ⟨hk, rfl⟩ := Array.getElem?_eq_some_iff.mp hi
    refine ⟨hk, by simp, fun j hj => ?_⟩
    have hlt := List.pairwise_iff_getElem.mp h j k (by simp; omega) (by simpa using hk) hj
    simp only [Array.getElem_toList] at hlt
    simp only [beq_iff_eq]
    omega

/-- Looking up an offset in a decoded entry finds the instruction that starts there. -/
theorem indexOf?_decode_eq_some_iff {offset k : Nat} :
    (decode bytes).indexOf? offset = some k ↔
      ∃ i, (decode bytes).instructions[k]? = some i ∧ i.offset = offset := by
  obtain ⟨stop, hreads, -⟩ := exists_readsOn_decode bytes
  exact indexOf?_eq_some_iff hreads.pairwise_offset_lt

/-- A decoded instruction starts inside the bytes. -/
theorem offset_lt_of_decode {k : Nat} {i : Instruction}
    (h : (decode bytes).instructions[k]? = some i) : i.offset < bytes.size := by
  obtain ⟨stop, hreads, -⟩ := exists_readsOn_decode bytes
  have hread := hreads.read?_eq (Array.mem_toList_iff.mpr (Array.mem_of_getElem? h))
  have hsize := (Instruction.of_read?_eq_some hread).2
  have hpos := i.size_pos
  omega

/-- Where the last instruction ends. -/
def stop (c : Code) : Nat :=
  (c.instructions.back?.map fun i => i.offset + i.size).getD 0

/-- Code that covers bytes from the start without gaps or overlaps, up to a tail that holds no whole
instruction. -/
structure Tiles (bytes : ByteArray) (c : Code) : Prop where
  read (k : Nat) (i : Instruction) : c.instructions[k]? = some i →
    Instruction.read? bytes i.offset = some i
  first (i : Instruction) : c.instructions[0]? = some i → i.offset = 0
  next (k : Nat) (i j : Instruction) : c.instructions[k]? = some i →
    c.instructions[k + 1]? = some j → j.offset = i.offset + i.size
  stop_le : c.stop ≤ bytes.size
  indexOf?_eq_some_iff (offset k : Nat) : c.indexOf? offset = some k ↔
    ∃ i, c.instructions[k]? = some i ∧ i.offset = offset
  tail : bytes.size - c.stop < 4 ∨ ∃ w, Bytes.word? bytes c.stop = some w ∧
    bytes.size - c.stop < (Instruction.ofWord c.stop w).size

/-- Decoding tiles the bytes: the instructions, each read where it stands, follow each other from
the start without gaps or overlaps, and what is left at the end is less than one instruction. -/
theorem tiles_decode (bytes : ByteArray) : Tiles bytes (decode bytes) := by
  obtain ⟨stop, hreads, hstop⟩ := exists_readsOn_decode bytes
  have hend : (decode bytes).stop = stop := by
    rw [hreads.stop_eq, Code.stop, Array.getLast?_toList]
  refine ⟨fun k i hi => ?_, fun i hi => ?_, fun k i j hi hj => ?_, ?_,
    fun offset k => indexOf?_decode_eq_some_iff, ?_⟩
  · exact hreads.read?_eq (Array.mem_toList_iff.mpr (Array.mem_of_getElem? hi))
  · rw [← Array.getElem?_toList] at hi
    exact hreads.offset_eq hi
  · rw [← Array.getElem?_toList] at hi hj
    exact hreads.offset_eq_offset_add_size hi hj
  · rw [hend]
    exact hreads.stop_le (Nat.zero_le _)
  · rw [hend]
    exact Instruction.of_read?_eq_none hstop

end Code

end GameRunner

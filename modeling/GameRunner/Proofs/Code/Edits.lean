import GameRunner.Proofs.Code.Links
import GameRunner.Proofs.Code.Tiling

/-!
# Editing assembled code

Two edits are made in code that has been written. A branch is sent to its target once the target is
known, and the references to a table entry are linked once it is known where the code lies. Both
change some bits of one word in place. The word belongs to one instruction, and no other instruction
overlaps with it, so that decoding the edited code gives the instructions as they were, but for the
one that was edited.
-/

namespace GameRunner

namespace Word

/-- A word whose low twenty-three bits have been replaced. -/
theorem toNat_redirect (old n : UInt32) :
    ((old &&& 0xff800000) ||| (n &&& 0x7fffff)).toNat =
      old.toNat / 2 ^ 23 * 2 ^ 23 + n.toNat % 2 ^ 23 := by
  have hhigh : (old &&& 0xff800000).toNat = old.toNat / 2 ^ 23 * 2 ^ 23 :=
    toNat_and_high old 23 (by decide)
  have hlow : (n &&& 0x7fffff).toNat = n.toNat % 2 ^ 23 := toNat_and_mask n 23 (by decide)
  rw [toNat_or_add 23 (by rw [hhigh]; exact Nat.dvd_mul_left _ _) (by rw [hlow]; omega), hhigh,
    hlow]

end Word

namespace Bytes

variable {b : ByteArray} {pos q : Nat} {w : UInt32} {f : UInt32 → UInt32}

theorem byte?_eq_getElem? (b : ByteArray) (q : Nat) : byte? b q = b.data.toList[q]? := by
  rw [← byte?_ofList]
  rfl

/-- The bytes once a word has been changed. -/
theorem modifyWord_eq_ofList (hw : word? b pos = some w) :
    modifyWord b pos f =
      ofList (b.data.toList.take pos ++ ofWord (f w) ++ b.data.toList.drop (pos + 4)) := by
  unfold modifyWord
  rw [hw]
  apply ByteArray.ext
  have hs : b.data.toList.length = b.size := by simp
  simp [data_ofList, ← Array.toList_inj, List.extract_eq_take_drop, List.take_of_length_le]

/-- A word that has been changed. -/
theorem word?_modifyWord_self (hw : word? b pos = some w) :
    word? (modifyWord b pos f) pos = some (f w) := by
  have hsize := (isSome_word?_iff b pos).mp (Option.isSome_of_eq_some hw)
  have hlen : (b.data.toList.take pos).length = pos := by simp; omega
  have hword := word?_ofList_append (b.data.toList.take pos) (f w) (b.data.toList.drop (pos + 4))
  rwa [hlen, ← modifyWord_eq_ofList hw] at hword

/-- Changing a word leaves the words alone that it does not overlap. -/
theorem word?_modifyWord_of_disjoint (h : q + 4 ≤ pos ∨ pos + 4 ≤ q) :
    word? (modifyWord b pos f) q = word? b q := by
  cases hw : word? b pos with
  | none => rw [modifyWord, hw]
  | some w =>
    have hsize := (isSome_word?_iff b pos).mp (Option.isSome_of_eq_some hw)
    have hlen : b.data.toList.length = b.size := by simp
    have hbyte (p : Nat) (hp : p < pos ∨ pos + 4 ≤ p) :
        byte? (modifyWord b pos f) p = byte? b p := by
      have := length_ofWord (f w)
      rw [modifyWord_eq_ofList hw, byte?_ofList, byte?_eq_getElem?]
      grind
    unfold word?
    rw [hbyte q (by omega), hbyte (q + 1) (by omega), hbyte (q + 2) (by omega),
      hbyte (q + 3) (by omega)]

end Bytes

namespace Instruction

variable {b b' : ByteArray} {offset : Nat} {i : Instruction}

theorem size_eq_of_read? {w : UInt32} (hw : Bytes.word? b offset = some w)
    (hi : read? b offset = some i) : i.size = (ofWord offset w).size := by
  rw [read?, hw, Option.bind_some] at hi
  obtain ⟨l, k, rfl⟩ := exists_of_readPayload?_eq_some hi
  rfl

/-- What is read at an offset depends on the words of the instruction there, or, where none can be
read, on the words from there on. -/
theorem read?_congr
    (h : ∀ p, offset ≤ p → (∀ i, read? b offset = some i → p + 4 ≤ offset + i.size) →
      Bytes.word? b' p = Bytes.word? b p) : read? b' offset = read? b offset := by
  have h0 : Bytes.word? b' offset = Bytes.word? b offset :=
    h offset (Nat.le_refl _) fun i _ => by unfold size; omega
  cases hw : Bytes.word? b offset with
  | none => rw [read?, read?, h0, hw]; rfl
  | some w =>
    rw [hw] at h0
    have hsize (n : Nat) (hn : n ≤ payloadWords (ofWord offset w).opcode (ofWord offset w).type1) :
        Bytes.word? b' (offset + 4 * n) = Bytes.word? b (offset + 4 * n) := by
      refine h _ (by omega) fun i hi => ?_
      rw [size_eq_of_read? hw hi, size]
      omega
    rcases payloadWords_cases (ofWord offset w).opcode (ofWord offset w).type1 with hp | hp | hp
    · rw [read?_of_payloadWords_zero hw hp, read?_of_payloadWords_zero h0 hp]
    · rw [read?_of_payloadWords_one hw hp, read?_of_payloadWords_one h0 hp, hsize 1 (by omega)]
    · rw [read?_of_payloadWords_two hw hp, read?_of_payloadWords_two h0 hp, hsize 1 (by omega),
        hsize 2 (by omega)]

end Instruction

namespace Code

variable {b b' : ByteArray}

namespace ReadsOn

variable {start stop stop' : Nat} {instructions instructions' : List Instruction}
  {i j : Instruction} {k : Nat}

/-- Instructions start at whole words. -/
theorem four_dvd_offset (h : ReadsOn b start instructions stop) (hs : 4 ∣ start)
    (hi : i ∈ instructions) : 4 ∣ i.offset := by
  induction instructions generalizing start with
  | nil => cases hi
  | cons first rest ih =>
    obtain ⟨hfirst, hrest⟩ := h
    rcases List.mem_cons.mp hi with rfl | hi
    · rwa [(Instruction.of_read?_eq_some hfirst).1]
    · refine ih hrest ?_ hi
      unfold Instruction.size
      omega

/-- What is read on until nothing can be read is determined by the bytes. -/
theorem unique (h : ReadsOn b start instructions stop) (hstop : Instruction.read? b stop = none)
    (h' : ReadsOn b start instructions' stop') (hstop' : Instruction.read? b stop' = none) :
    instructions = instructions' := by
  induction instructions generalizing start instructions' with
  | nil =>
    cases instructions' with
    | nil => rfl
    | cons i' rest' =>
      cases h
      exact absurd (h'.1.symm.trans hstop) (Option.some_ne_none _)
  | cons i rest ih =>
    cases instructions' with
    | nil =>
      cases h'
      exact absurd (h.1.symm.trans hstop') (Option.some_ne_none _)
    | cons i' rest' =>
      obtain rfl : i = i' := Option.some.inj (h.1.symm.trans h'.1)
      rw [ih h.2 h'.2]

theorem congr (h : ReadsOn b start instructions stop)
    (hread : ∀ o ∈ instructions, Instruction.read? b' o.offset = some o) :
    ReadsOn b' start instructions stop := by
  induction instructions generalizing start with
  | nil => exact h
  | cons first rest ih =>
    obtain ⟨hfirst, hrest⟩ := h
    have hstart := (Instruction.of_read?_eq_some hfirst).1
    exact ⟨hstart ▸ hread first List.mem_cons_self,
      ih hrest fun o ho => hread o (List.mem_cons_of_mem _ ho)⟩

/-- An instruction ends before the next ones start. -/
theorem pairwise_end_le (h : ReadsOn b start instructions stop) :
    instructions.Pairwise fun i j => i.offset + i.size ≤ j.offset := by
  induction instructions generalizing start with
  | nil => exact .nil
  | cons first rest ih =>
    obtain ⟨hfirst, hrest⟩ := h
    refine List.pairwise_cons.mpr ⟨fun j hj => ?_, ih hrest⟩
    rw [(Instruction.of_read?_eq_some hfirst).1]
    exact hrest.start_le hj

theorem start_le_stop (h : ReadsOn b start instructions stop) : start ≤ stop := by
  induction instructions generalizing start with
  | nil => exact Nat.le_of_eq h
  | cons first rest ih => exact Nat.le_trans (Nat.le_add_right _ _) (ih h.2)

theorem end_le (h : ReadsOn b start instructions stop) (hi : i ∈ instructions) :
    i.offset + i.size ≤ stop := by
  induction instructions generalizing start with
  | nil => cases hi
  | cons first rest ih =>
    obtain ⟨hfirst, hrest⟩ := h
    rcases List.mem_cons.mp hi with rfl | hi
    · rw [(Instruction.of_read?_eq_some hfirst).1]
      exact hrest.start_le_stop
    · exact ih hrest hi

/-- Where one instruction is replaced by another one of the same size, and the others are read as
before. -/
theorem set (h : ReadsOn b start instructions stop) (hk : instructions[k]? = some i)
    (hj : Instruction.read? b' i.offset = some j) (hsize : j.size = i.size)
    (hothers : ∀ m o, m ≠ k → instructions[m]? = some o →
      Instruction.read? b' o.offset = some o) :
    ReadsOn b' start (instructions.set k j) stop := by
  induction instructions generalizing start k with
  | nil => cases hk
  | cons first rest ih =>
    obtain ⟨hfirst, hrest⟩ := h
    have hstart := (Instruction.of_read?_eq_some hfirst).1
    cases k with
    | zero =>
      obtain rfl : first = i := by simpa using hk
      refine ⟨hstart ▸ hj, hsize ▸ hrest.congr fun o ho => ?_⟩
      obtain ⟨m, hm⟩ := List.mem_iff_getElem?.mp ho
      exact hothers (m + 1) o (Nat.succ_ne_zero m) hm
    | succ k =>
      refine ⟨?_, ih hrest hk fun m o hm ho => hothers (m + 1) o (by omega) ho⟩
      exact hstart ▸ hothers 0 first (Nat.succ_ne_zero k).symm rfl

end ReadsOn

/-- Decoding gives what is read on from the start until nothing can be read. -/
theorem decode_eq_of_readsOn {instructions : List Instruction} {stop : Nat}
    (h : ReadsOn b 0 instructions stop) (hstop : Instruction.read? b stop = none) :
    decode b = ⟨instructions.toArray⟩ := by
  obtain ⟨stop', h', hstop'⟩ := exists_readsOn_decode b
  rw [h.unique hstop h' hstop', Array.toArray_toList]

section Change

variable {k pos : Nat} {i j : Instruction} {f : UInt32 → UInt32}

/-- The words of the other instructions do not overlap with a word of an instruction. -/
theorem disjoint_of_decode {m : Nat} {o : Instruction}
    (hk : (decode b).instructions[k]? = some i) (hm : (decode b).instructions[m]? = some o)
    (hne : m ≠ k) : o.offset + o.size ≤ i.offset ∨ i.offset + i.size ≤ o.offset := by
  obtain ⟨stop, hreads, -⟩ := exists_readsOn_decode b
  rw [← Array.getElem?_toList] at hk hm
  obtain ⟨hk', rfl⟩ := List.getElem?_eq_some_iff.mp hk
  obtain ⟨hm', rfl⟩ := List.getElem?_eq_some_iff.mp hm
  have hends := List.pairwise_iff_getElem.mp hreads.pairwise_end_le
  rcases Nat.lt_or_gt_of_ne hne with hlt | hgt
  · exact Or.inl (hends m k hm' hk' hlt)
  · exact Or.inr (hends k m hk' hm' hgt)

/-- Changing a word of an instruction changes this instruction only, as long as it keeps its
size. -/
theorem decode_modifyWord (hk : (decode b).instructions[k]? = some i)
    (hlow : i.offset ≤ pos) (hhigh : pos + 4 ≤ i.offset + i.size)
    (hj : Instruction.read? (Bytes.modifyWord b pos f) i.offset = some j)
    (hsize : j.size = i.size) :
    decode (Bytes.modifyWord b pos f) = ⟨(decode b).instructions.setIfInBounds k j⟩ := by
  obtain ⟨stop, hreads, hstop⟩ := exists_readsOn_decode b
  have hothers (m : Nat) (o : Instruction) (hne : m ≠ k)
      (ho : (decode b).instructions.toList[m]? = some o) :
      Instruction.read? (Bytes.modifyWord b pos f) o.offset = some o := by
    have hread := hreads.read?_eq (List.mem_of_getElem? ho)
    rw [Array.getElem?_toList] at ho
    have hdisjoint := disjoint_of_decode hk ho hne
    rw [← hread]
    refine Instruction.read?_congr fun p hp hend => Bytes.word?_modifyWord_of_disjoint ?_
    have hend := hend o hread
    omega
  rw [← Array.getElem?_toList] at hk
  have hafter := hreads.set hk hj hsize hothers
  have hend := hreads.end_le (List.mem_of_getElem? hk)
  rw [decode_eq_of_readsOn hafter]
  · rw [← List.setIfInBounds_toArray, Array.toArray_toList]
  · rw [← hstop]
    exact Instruction.read?_congr fun p hp _ => Bytes.word?_modifyWord_of_disjoint (by omega)

end Change

end Code

namespace Instruction

/-- Whether the instruction jumps. -/
def IsBranch (i : Instruction) : Prop := ∃ op : BranchOp, i.op? = some op.opcode

/-- Whether the instruction refers to a variable or calls a function. -/
def IsReference (i : Instruction) : Prop :=
  match i.op? with
  | some .push => DataType.ofTag? i.type1 = some .var
  | some .pushloc | some .pushglb | some .pushbltn | some .pop | some .call => True
  | _ => False

/-- A branch that lands elsewhere, and is otherwise the same. Its distance takes the low
twenty-three bits of its word, which the type tags and the low bits of the operand share. -/
structure Redirected (i : Instruction) (target : Nat) (j : Instruction) : Prop where
  branchTarget?_eq : j.branchTarget? = some target
  offset_eq : j.offset = i.offset
  opcode_eq : j.opcode = i.opcode
  operand_eq : j.operand.toNat / 2 ^ 23 = i.operand.toNat / 2 ^ 23
  literal_eq : j.literal = i.literal
  refKind_eq : j.refKind = i.refKind
  variableIndex_eq : j.variableIndex = i.variableIndex
  functionIndex_eq : j.functionIndex = i.functionIndex

variable {b : ByteArray} {offset : Nat} {i : Instruction}

theorem Redirected.isBranch {target : Nat} {j : Instruction} (h : i.Redirected target j)
    (hi : i.IsBranch) : j.IsBranch := by
  unfold IsBranch op?
  rwa [h.opcode_eq]

theorem IsBranch.payloadWords_eq_zero (h : i.IsBranch) : payloadWords i.opcode i.type1 = 0 := by
  obtain ⟨op, hop⟩ := h
  change Opcode.ofByte? i.opcode = _ at hop
  unfold payloadWords
  rw [hop]
  cases op <;> rfl

theorem IsBranch.withoutPayload_eq (h : i.IsBranch) : i.withoutPayload = i := by
  obtain ⟨op, hop⟩ := h
  unfold withoutPayload
  rw [hop]
  cases op <;> rfl

theorem IsReference.payloadWords_eq_one (h : i.IsReference) :
    payloadWords i.opcode i.type1 = 1 := by
  unfold IsReference op? at h
  unfold payloadWords
  split at h <;> simp_all

/-- A reference takes its kind from its payload, and nothing else. -/
theorem IsReference.withWord_congr (h : i.IsReference) {p q : UInt32}
    (hpq : p.toNat / 2 ^ 27 = q.toNat / 2 ^ 27) : i.withWord p = i.withWord q := by
  have hkind := refKindOf_congr hpq
  unfold IsReference at h
  unfold withWord
  split at h <;> simp_all

/-- A branch is its word. -/
theorem IsBranch.of_read? (hi : read? b offset = some i) (h : i.IsBranch) :
    ∃ w, Bytes.word? b offset = some w ∧ ofWord offset w = i := by
  obtain ⟨w, hw, hpayload⟩ := Option.bind_eq_some_iff.mp hi
  have hbare : (ofWord offset w).IsBranch := by
    obtain ⟨l, k, rfl⟩ := exists_of_readPayload?_eq_some hpayload
    exact h
  rw [readPayload?_of_payloadWords_zero hbare.payloadWords_eq_zero, hbare.withoutPayload_eq]
    at hpayload
  exact ⟨w, hw, Option.some.inj hpayload⟩

theorem IsBranch.read?_eq {w : UInt32} (hw : Bytes.word? b offset = some w)
    (h : (ofWord offset w).IsBranch) : read? b offset = some (ofWord offset w) := by
  rw [read?_of_payloadWords_zero hw h.payloadWords_eq_zero, h.withoutPayload_eq]

/-- A reference is its word and a word of payload. -/
theorem IsReference.of_read? (hi : read? b offset = some i) (h : i.IsReference) :
    ∃ w p, Bytes.word? b offset = some w ∧ Bytes.word? b (offset + 4) = some p ∧
      (ofWord offset w).IsReference ∧ (ofWord offset w).withWord p = i := by
  obtain ⟨w, hw, hpayload⟩ := Option.bind_eq_some_iff.mp hi
  have hbare : (ofWord offset w).IsReference := by
    obtain ⟨l, k, rfl⟩ := exists_of_readPayload?_eq_some hpayload
    exact h
  rw [readPayload?_of_payloadWords_one hbare.payloadWords_eq_one, Option.map_eq_some_iff]
    at hpayload
  obtain ⟨p, hp, hip⟩ := hpayload
  exact ⟨w, p, hw, hp, hbare, hip⟩

theorem redirected_ofWord {site target : Nat} (old : UInt32) {words : Int32}
    (hwords : -2 ^ 22 ≤ words.toInt ∧ words.toInt < 2 ^ 22)
    (htarget : (target : Int) = site + words.toInt * 4) :
    (ofWord site old).Redirected target
      (ofWord site ((old &&& 0xff800000) ||| (words.toUInt32 &&& 0x7fffff))) := by
  have hnew := Word.toNat_redirect old words.toUInt32
  refine ⟨?_, rfl, ?_, ?_, rfl, rfl, rfl, rfl⟩
  · unfold branchTarget?
    rw [Statement.branchOffset_ofWord site (by omega) hwords]
    change (if 0 ≤ (site : Int) + words.toInt * 4 then some ((site : Int) + words.toInt * 4).toNat
      else none) = _
    rw [← htarget, if_pos (by omega), Int.toNat_natCast]
  · apply UInt8.toNat_inj.mp
    rw [toNat_opcode_ofWord, toNat_opcode_ofWord]
    omega
  · rw [toNat_operand_ofWord, toNat_operand_ofWord]
    omega

end Instruction

namespace Code

variable {b : ByteArray} {k : Nat} {i : Instruction}

theorem read?_of_decode (hk : (decode b).instructions[k]? = some i) :
    Instruction.read? b i.offset = some i :=
  (tiles_decode b).read k i hk

theorem four_dvd_offset (hk : (decode b).instructions[k]? = some i) : 4 ∣ i.offset := by
  obtain ⟨stop, hreads, -⟩ := exists_readsOn_decode b
  rw [← Array.getElem?_toList] at hk
  exact hreads.four_dvd_offset (Nat.dvd_zero 4) (List.mem_of_getElem? hk)

/-- Sending a branch to a whole word changes where it lands, and nothing else. -/
theorem decode_patchBranch {a : Assembly} {target : Nat}
    (hk : (decode a.bytes).instructions[k]? = some i) (hi : i.IsBranch) (htarget : 4 ∣ target)
    (hreach : |(target : Int) - i.offset| < 4 * 2 ^ 22) :
    ∃ j, i.Redirected target j ∧ decode (a.patchBranch i.offset target).bytes =
      ⟨(decode a.bytes).instructions.setIfInBounds k j⟩ := by
  have hsite := four_dvd_offset hk
  obtain ⟨w, hw, heq⟩ := hi.of_read? (read?_of_decode hk)
  -- The distance is a whole number of words that fits.
  obtain ⟨d, hd⟩ : ∃ d : Int, (target : Int) - i.offset = 4 * d := by
    obtain ⟨m, rfl⟩ := htarget
    obtain ⟨n, hn⟩ := hsite
    exact ⟨(m : Int) - n, by omega⟩
  rw [hd, abs_lt] at hreach
  have hwords : (Int32.ofInt (Int.tdiv ((target : Int) - i.offset) 4)).toInt = d := by
    rw [hd, Int.mul_tdiv_cancel_left _ (by decide), Int32.toInt_ofInt_of_le (by omega) (by omega)]
  have hred := @Instruction.redirected_ofWord i.offset target w
    (Int32.ofInt (Int.tdiv ((target : Int) - i.offset) 4)) (by omega) (by omega)
  rw [heq] at hred
  refine ⟨_, hred, decode_modifyWord hk (Nat.le_refl _) (by unfold Instruction.size; omega) ?_ ?_⟩
  · exact (hred.isBranch hi).read?_eq (Bytes.word?_modifyWord_self hw)
  · rw [Instruction.size, Instruction.size, hi.payloadWords_eq_zero,
      (hred.isBranch hi).payloadWords_eq_zero]

/-- Setting a link leaves all instructions as they are. -/
theorem decode_setLink (hk : (decode b).instructions[k]? = some i) (hi : i.IsReference)
    (delta : UInt32) : decode (setLink b i.offset delta) = decode b := by
  obtain ⟨w, p, hw, hp, hbare, heq⟩ := hi.of_read? (read?_of_decode hk)
  have hword : Bytes.word? (setLink b i.offset delta) i.offset = some w := by
    rw [← hw]
    exact Bytes.word?_modifyWord_of_disjoint (Or.inl (Nat.le_refl _))
  have hread : Instruction.read? (setLink b i.offset delta) i.offset = some i := by
    rw [Instruction.read?_of_payloadWords_one hword hbare.payloadWords_eq_one,
      setLink, Bytes.word?_modifyWord_self hp, Option.map_some]
    exact congrArg some
      ((hbare.withWord_congr (Statement.toNat_relink_div (some delta) p)).trans heq)
  have hsize := hi.payloadWords_eq_one
  rw [setLink, decode_modifyWord hk (by omega) (by rw [Instruction.size, hsize]) hread rfl]
  obtain ⟨hlt, rfl⟩ := Array.getElem?_eq_some_iff.mp hk
  rw [Array.setIfInBounds, dif_pos hlt, Array.set_getElem_self]

/-- The link that has been set. -/
theorem linkAt?_setLink (hk : (decode b).instructions[k]? = some i) (hi : i.IsReference)
    (delta : UInt32) :
    linkAt? (setLink b i.offset delta) i.offset = some (delta.toNat % 2 ^ 27) := by
  obtain ⟨w, p, -, hp, -, -⟩ := hi.of_read? (read?_of_decode hk)
  have hlink : ((Statement.relink (some delta) p) &&& 0x7ffffff).toNat =
      (Statement.relink (some delta) p).toNat % 2 ^ 27 := Word.toNat_and_mask _ 27 (by decide)
  have hnew := Statement.toNat_relink delta p
  rw [linkAt?, setLink, Bytes.word?_modifyWord_self hp, Option.map_some]
  refine congrArg some (hlink.trans ?_)
  omega

/-- Setting a link leaves the links of other references as they are. -/
theorem linkAt?_setLink_of_ne {m : Nat} {o : Instruction}
    (hk : (decode b).instructions[k]? = some i) (hi : i.IsReference)
    (hm : (decode b).instructions[m]? = some o) (ho : o.IsReference) (hne : m ≠ k)
    (delta : UInt32) : linkAt? (setLink b i.offset delta) o.offset = linkAt? b o.offset := by
  have hdisjoint := disjoint_of_decode hk hm hne
  have hisize := hi.payloadWords_eq_one
  have hosize := ho.payloadWords_eq_one
  unfold Instruction.size at hdisjoint
  rw [linkAt?, setLink, Bytes.word?_modifyWord_of_disjoint (by omega), linkAt?]

end Code

namespace Assembly

open Code

/-- Code that has been written statement by statement, with branches that have been sent somewhere
in between. -/
inductive Assembled : Assembly → Prop
  | empty : Assembled empty
  | emit {a : Assembly} (s : Statement) : Assembled a → Assembled (a.emit s)
  | patchBranch {a : Assembly} (site target : Nat) :
    Assembled a → Assembled (a.patchBranch site target)

theorem assembled_ofList (statements : List Statement) : Assembled (ofList statements) := by
  have h (a : Assembly) (ha : a.Assembled) : (statements.foldl emit a).Assembled := by
    induction statements generalizing a with
    | nil => exact ha
    | cons s rest ih => exact ih (a.emit s) (.emit s ha)
  exact h empty .empty

/-- Code is written in whole words. -/
theorem Assembled.four_dvd_here {a : Assembly} (h : Assembled a) : 4 ∣ a.here := by
  induction h with
  | empty => exact Nat.dvd_zero 4
  | @emit a s _ ih =>
    rw [here, bytes_emit, ByteArray.size_append, Bytes.size_ofWords]
    exact Nat.dvd_add ih (Nat.dvd_mul_right 4 _)
  | patchBranch site target _ ih =>
    change 4 ∣ (Bytes.modifyWord _ _ _).size
    rwa [Bytes.size_modifyWord]

/-- Editing code touches nothing else. A branch of assembled code that is sent to an instruction or
to the end lands there; the rest of it, all other instructions and the records of references stay.
Setting the link of a reference leaves all instructions as they are, and sets that link and no
other. -/
theorem edits_touch_nothing_else :
    (∀ a : Assembly, a.Assembled → ∀ (k : Nat) (i : Instruction) (target : Nat),
      (decode a.bytes).instructions[k]? = some i → i.IsBranch →
      (target = a.here ∨
        ∃ (m : Nat) (o : Instruction), (decode a.bytes).instructions[m]? = some o ∧
          o.offset = target) →
      |(target : Int) - i.offset| < 4 * 2 ^ 22 →
      (∃ j, i.Redirected target j ∧ decode (a.patchBranch i.offset target).bytes =
        ⟨(decode a.bytes).instructions.setIfInBounds k j⟩) ∧
      (a.patchBranch i.offset target).variableRefs = a.variableRefs ∧
      (a.patchBranch i.offset target).functionRefs = a.functionRefs) ∧
    (∀ (bytes : ByteArray) (k : Nat) (i : Instruction) (delta : UInt32),
      (decode bytes).instructions[k]? = some i → i.IsReference →
      decode (setLink bytes i.offset delta) = decode bytes ∧
      linkAt? (setLink bytes i.offset delta) i.offset = some (delta.toNat % 2 ^ 27) ∧
      ∀ (m : Nat) (o : Instruction), (decode bytes).instructions[m]? = some o → o.IsReference →
        m ≠ k → linkAt? (setLink bytes i.offset delta) o.offset = linkAt? bytes o.offset) := by
  constructor
  · intro a ha k i target hk hi htarget hreach
    have hwhole : 4 ∣ target := by
      rcases htarget with rfl | ⟨m, o, hm, rfl⟩
      · exact ha.four_dvd_here
      · exact four_dvd_offset hm
    exact ⟨decode_patchBranch hk hi hwhole hreach, rfl, rfl⟩
  · intro bytes k i delta hk hi
    exact ⟨decode_setLink hk hi delta, linkAt?_setLink hk hi delta,
      fun m o hm ho hne => linkAt?_setLink_of_ne hk hi hm ho hne delta⟩

/-- A loop whose exit is sent forward to the end, and whose last branch is sent back to the test. -/
theorem edits_of_loop :
    let a := ofList [.pushDouble 0x3ff8000000000000, .pushVar Selector.self 4, .branch .bf 0,
      .pushInt16 7, .call 2 1, .popz, .branch .b 0, .exit]
    let left := a.patchBranch 20 48
    let bytes := left.bytes
    (∃ j, (Instruction.ofWord 20 0xb8000000).Redirected 48 j ∧
      Code.decode bytes = ⟨(Code.decode a.bytes).instructions.setIfInBounds 2 j⟩) ∧
    (∃ j, (Instruction.ofWord 40 0xb6000000).Redirected 12 j ∧
      Code.decode (left.patchBranch 40 12).bytes =
        ⟨(Code.decode bytes).instructions.setIfInBounds 6 j⟩) ∧
    Code.decode (setLink bytes 12 0xffffffff) = Code.decode bytes ∧
    linkAt? (setLink bytes 12 0xffffffff) 12 = some (2 ^ 27 - 1) ∧
    linkAt? (setLink bytes 12 0xffffffff) 28 = linkAt? bytes 28 := by
  intro a left bytes
  have ha : a.Assembled := assembled_ofList _
  have hforward := (edits_touch_nothing_else.1 a ha 2 (.ofWord 20 0xb8000000) 48
    (by decide +kernel) ⟨.bf, rfl⟩ (Or.inl (by decide +kernel)) (by decide +kernel)).1
  have hback := (edits_touch_nothing_else.1 left (.patchBranch 20 48 ha) 6 (.ofWord 40 0xb6000000)
    12 (by decide +kernel) ⟨.b, rfl⟩
    (Or.inr ⟨1, (Instruction.ofWord 12 0xc055ffff).withWord 0xa0000000, by decide +kernel, rfl⟩)
    (by decide +kernel)).1
  have hlink := edits_touch_nothing_else.2 bytes 1
    ((Instruction.ofWord 12 0xc055ffff).withWord 0xa0000000) 0xffffffff (by decide +kernel) rfl
  exact ⟨hforward, hback, hlink.1, hlink.2.1,
    hlink.2.2 4 ((Instruction.ofWord 28 0xd9020001).withWord 0) (by decide +kernel) trivial
      (by decide)⟩

end Assembly

end GameRunner

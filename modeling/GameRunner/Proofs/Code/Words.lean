import GameRunner.Code.Assembly
import GameRunner.Code.Decode
import Mathlib.Tactic

/-!
# Words, their bytes and their fields

Bytes that were written word by word read back as these words. The fields of an instruction word are
described by arithmetic on its value: the layout of a word is a sum, and every field of it is a
quotient and a remainder.
-/

namespace GameRunner

namespace Word

/-- Two words whose bits do not meet add up: the one is a multiple of a power of two, the other lies
below it. -/
theorem toNat_or_add {a b : UInt32} (i : Nat) (ha : 2 ^ i ∣ a.toNat) (hb : b.toNat < 2 ^ i) :
    (a ||| b).toNat = a.toNat + b.toNat := by
  obtain ⟨c, hc⟩ := ha
  rw [UInt32.toNat_or, hc, Nat.two_pow_add_eq_or_of_lt hb]

theorem toNat_shiftLeft_eq (w : UInt32) (i : Nat) (hi : i < 32) (hw : w.toNat * 2 ^ i < 2 ^ 32) :
    (w <<< UInt32.ofNat i).toNat = w.toNat * 2 ^ i := by
  have hn : (UInt32.ofNat i).toNat = i :=
    UInt32.toNat_ofNat_of_lt' (by simp only [UInt32.size]; omega)
  rw [UInt32.toNat_shiftLeft, hn, Nat.mod_eq_of_lt hi, Nat.shiftLeft_eq, Nat.mod_eq_of_lt hw]

theorem toNat_shiftRight_eq (w : UInt32) (i : Nat) (hi : i < 32) :
    (w >>> UInt32.ofNat i).toNat = w.toNat / 2 ^ i := by
  have hn : (UInt32.ofNat i).toNat = i :=
    UInt32.toNat_ofNat_of_lt' (by simp only [UInt32.size]; omega)
  rw [UInt32.toNat_shiftRight, hn, Nat.mod_eq_of_lt hi, Nat.shiftRight_eq_div_pow]

/-- A mask of low bits takes the remainder. -/
theorem toNat_and_mask (w : UInt32) (i : Nat) (hi : i < 32) :
    (w &&& UInt32.ofNat (2 ^ i - 1)).toNat = w.toNat % 2 ^ i := by
  have hle : 2 ^ i ≤ 2 ^ 31 := Nat.pow_le_pow_right (by decide) (by omega)
  rw [UInt32.toNat_and, UInt32.toNat_ofNat_of_lt' (by simp only [UInt32.size]; omega),
    Nat.and_two_pow_sub_one_eq_mod]

/-- The mask of the other bits leaves a word without its low bits. -/
theorem toNat_and_high (w : UInt32) (i : Nat) (hi : i < 32) :
    (w &&& ~~~UInt32.ofNat (2 ^ i - 1)).toNat = w.toNat / 2 ^ i * 2 ^ i := by
  set m := UInt32.ofNat (2 ^ i - 1)
  have hlow : (w &&& m).toNat = w.toNat % 2 ^ i := toNat_and_mask w i hi
  have hlt : w.toNat % 2 ^ i < 2 ^ i := Nat.mod_lt _ (Nat.two_pow_pos i)
  have hhigh : (w &&& ~~~m).toNat % 2 ^ i = 0 := by
    rw [← toNat_and_mask _ i hi, UInt32.and_assoc, UInt32.not_and_self, UInt32.and_zero]
    rfl
  have hsum : (w &&& ~~~m) ||| (w &&& m) = w := by
    have hsplit : (w &&& ~~~m) ||| (w &&& m) = w &&& (~~~m ||| m) :=
      UInt32.toBitVec_inj.mp BitVec.and_or_distrib_left.symm
    rw [hsplit, UInt32.not_or_self, UInt32.and_neg_one]
  have hadd := toNat_or_add i (Nat.dvd_of_mod_eq_zero hhigh) (hlow ▸ hlt)
  have hdiv := Nat.div_add_mod w.toNat (2 ^ i)
  rw [hsum, hlow] at hadd
  rw [mul_comm]
  omega

/-- A byte moved to its place in a word. -/
theorem toNat_byte_shiftLeft (b : UInt8) (i : Nat) (hi : i ≤ 24) :
    (b.toUInt32 <<< UInt32.ofNat i).toNat = b.toNat * 2 ^ i := by
  have hb := b.toNat_lt
  have hle : 2 ^ i ≤ 2 ^ 24 := Nat.pow_le_pow_right (by decide) hi
  have hlt : b.toUInt32.toNat * 2 ^ i < 2 ^ 32 := by
    rw [UInt8.toNat_toUInt32]
    calc
      b.toNat * 2 ^ i ≤ 255 * 2 ^ 24 := Nat.mul_le_mul (by omega) hle
      _ < 2 ^ 32 := by decide
  rw [toNat_shiftLeft_eq _ i (by omega) hlt, UInt8.toNat_toUInt32]

theorem toNat_and_f8 (b : UInt8) : (b &&& 0xf8).toNat = b.toNat / 8 * 8 := by
  have h : ∀ n < 256, n &&& 0xf8 = n / 8 * 8 := by decide +kernel
  rw [UInt8.toNat_and]
  exact h b.toNat b.toNat_lt

end Word

namespace Bytes

@[simp] theorem size_ofList (l : List UInt8) : (ofList l).size = l.length := rfl

theorem data_ofList (l : List UInt8) : (ofList l).data = l.toArray := rfl

@[simp] theorem length_ofWord (w : UInt32) : (ofWord w).length = 4 := rfl

theorem length_flatMap_ofWord (ws : List UInt32) :
    (ws.flatMap ofWord).length = 4 * ws.length := by
  induction ws with
  | nil => rfl
  | cons w ws ih =>
    rw [List.flatMap_cons, List.length_append, ih, length_ofWord, List.length_cons]
    omega

@[simp] theorem size_ofWords (ws : List UInt32) : (ofWords ws).size = 4 * ws.length :=
  length_flatMap_ofWord ws

theorem ofWords_append (ws vs : List UInt32) : ofWords (ws ++ vs) = ofWords ws ++ ofWords vs := by
  apply ByteArray.ext
  simp [ofWords, data_ofList]

theorem byte?_ofList (l : List UInt8) (pos : Nat) : byte? (ofList l) pos = l[pos]? := by
  unfold byte?
  split_ifs with h
  · rw [size_ofList] at h
    rw [List.getElem?_eq_getElem h]
    rfl
  · rw [size_ofList] at h
    rw [List.getElem?_eq_none (by omega)]

theorem toNat_join32 (b0 b1 b2 b3 : UInt8) :
    (join32 b0 b1 b2 b3).toNat =
      b3.toNat * 2 ^ 24 + b2.toNat * 2 ^ 16 + b1.toNat * 2 ^ 8 + b0.toNat := by
  have h0 := b0.toNat_lt
  have h1 := b1.toNat_lt
  have h2 := b2.toNat_lt
  have h3 := b3.toNat_lt
  have e0 : b0.toUInt32.toNat = b0.toNat := UInt8.toNat_toUInt32 b0
  have e1 : (b1.toUInt32 <<< 8).toNat = b1.toNat * 2 ^ 8 :=
    Word.toNat_byte_shiftLeft b1 8 (by decide)
  have e2 : (b2.toUInt32 <<< 16).toNat = b2.toNat * 2 ^ 16 :=
    Word.toNat_byte_shiftLeft b2 16 (by decide)
  have e3 : (b3.toUInt32 <<< 24).toNat = b3.toNat * 2 ^ 24 :=
    Word.toNat_byte_shiftLeft b3 24 (by decide)
  have s1 := Word.toNat_or_add (a := b1.toUInt32 <<< 8) (b := b0.toUInt32) 8
    (by rw [e1]; omega) (by rw [e0]; omega)
  have s2 := Word.toNat_or_add (a := b2.toUInt32 <<< 16)
    (b := b1.toUInt32 <<< 8 ||| b0.toUInt32) 16 (by rw [e2]; omega) (by rw [s1, e1, e0]; omega)
  have s3 := Word.toNat_or_add (a := b3.toUInt32 <<< 24)
    (b := b2.toUInt32 <<< 16 ||| (b1.toUInt32 <<< 8 ||| b0.toUInt32)) 24 (by rw [e3]; omega)
    (by rw [s2, s1, e2, e1, e0]; omega)
  rw [join32, UInt32.or_comm, UInt32.or_comm (_ ||| _) (b2.toUInt32 <<< 16),
    UInt32.or_comm b0.toUInt32, s3, s2, s1, e3, e2, e1, e0]
  omega

/-- The bytes of a word put together again. -/
theorem join32_ofWord (w : UInt32) :
    join32 w.toUInt8 (w >>> 8).toUInt8 (w >>> 16).toUInt8 (w >>> 24).toUInt8 = w := by
  apply UInt32.toNat_inj.mp
  have hw := w.toNat_lt
  have h8 : (w >>> 8).toNat = w.toNat / 2 ^ 8 := Word.toNat_shiftRight_eq w 8 (by decide)
  have h16 : (w >>> 16).toNat = w.toNat / 2 ^ 16 := Word.toNat_shiftRight_eq w 16 (by decide)
  have h24 : (w >>> 24).toNat = w.toNat / 2 ^ 24 := Word.toNat_shiftRight_eq w 24 (by decide)
  rw [toNat_join32]
  simp only [UInt32.toNat_toUInt8, h8, h16, h24]
  omega

/-- What stands at a place of a list of bytes is the word whose bytes start there. -/
theorem word?_ofList_append (l : List UInt8) (w : UInt32) (r : List UInt8) :
    word? (ofList (l ++ ofWord w ++ r)) l.length = some w := by
  have hb (k : Nat) (hk : k < 4) :
      byte? (ofList (l ++ ofWord w ++ r)) (l.length + k) = (ofWord w)[k]? := by
    rw [byte?_ofList, List.append_assoc, List.getElem?_append_right (by omega),
      Nat.add_sub_cancel_left, List.getElem?_append_left (by simpa using hk)]
  have h0 := hb 0 (by decide)
  have h1 := hb 1 (by decide)
  have h2 := hb 2 (by decide)
  have h3 := hb 3 (by decide)
  rw [Nat.add_zero] at h0
  unfold word?
  rw [h0, h1, h2, h3]
  exact congrArg some (join32_ofWord w)

/-- The word at a place of a sequence of words, as it is read from the bytes. -/
theorem word?_ofWords (ws : List UInt32) (k : Nat) (hk : k < ws.length) :
    word? (ofWords ws) (4 * k) = ws[k]? := by
  have hsplit : ws = ws.take k ++ ws[k] :: ws.drop (k + 1) := by
    rw [List.getElem_cons_drop, List.take_append_drop]
  have hlen : ((ws.take k).flatMap ofWord).length = 4 * k := by
    rw [length_flatMap_ofWord, List.length_take, Nat.min_eq_left (by omega)]
  have hbytes : ws.flatMap ofWord =
      (ws.take k).flatMap ofWord ++ ofWord ws[k] ++ (ws.drop (k + 1)).flatMap ofWord := by
    conv_lhs => rw [hsplit]
    rw [List.flatMap_append, List.flatMap_cons, List.append_assoc]
  rw [ofWords, hbytes, ← hlen, word?_ofList_append, List.getElem?_eq_getElem hk]

/-- Bytes that were written word by word hold these words. -/
theorem words_ofWords (ws : List UInt32) : words (ofWords ws) = ws := by
  apply List.ext_getElem
  · simp [words]
  · intro k hk hk'
    simp [words, word?_ofWords ws k hk', hk']

/-- Changing a word keeps the size. -/
theorem size_modifyWord (b : ByteArray) (pos : Nat) (f : UInt32 → UInt32) :
    (modifyWord b pos f).size = b.size := by
  unfold modifyWord
  split
  · next w hw =>
    have hlt : pos + 3 < b.size := by
      by_contra hge
      simp [word?, byte?, hge] at hw
    simp only [ByteArray.size_append, ByteArray.size_extract, size_ofList, length_ofWord]
    omega
  · rfl

end Bytes

namespace Instruction

theorem toNat_opcode_ofWord (offset : Nat) (w : UInt32) :
    (ofWord offset w).opcode.toNat = w.toNat / 2 ^ 24 := by
  have hw := w.toNat_lt
  have h : (w >>> 24).toNat = w.toNat / 2 ^ 24 := Word.toNat_shiftRight_eq w 24 (by decide)
  simp only [ofWord, UInt32.toNat_toUInt8, h]
  omega

theorem toNat_type1_ofWord (offset : Nat) (w : UInt32) :
    (ofWord offset w).type1.toNat = w.toNat / 2 ^ 16 % 16 := by
  have h : (w >>> 16).toNat = w.toNat / 2 ^ 16 := Word.toNat_shiftRight_eq w 16 (by decide)
  have hm : ((w >>> 16) &&& 0xf).toNat = (w >>> 16).toNat % 2 ^ 4 :=
    Word.toNat_and_mask (w >>> 16) 4 (by decide)
  simp only [ofWord, UInt32.toNat_toUInt8, hm, h]
  omega

theorem toNat_type2_ofWord (offset : Nat) (w : UInt32) :
    (ofWord offset w).type2.toNat = w.toNat / 2 ^ 20 % 16 := by
  have h : (w >>> 20).toNat = w.toNat / 2 ^ 20 := Word.toNat_shiftRight_eq w 20 (by decide)
  have hm : ((w >>> 20) &&& 0xf).toNat = (w >>> 20).toNat % 2 ^ 4 :=
    Word.toNat_and_mask (w >>> 20) 4 (by decide)
  simp only [ofWord, UInt32.toNat_toUInt8, hm, h]
  omega

theorem toNat_extra_ofWord (offset : Nat) (w : UInt32) :
    (ofWord offset w).extra.toUInt16.toNat = w.toNat % 2 ^ 16 := by
  simp only [ofWord, UInt16.toUInt16_toInt16, UInt32.toNat_toUInt16]

theorem toNat_operand_ofWord (offset : Nat) (w : UInt32) :
    (ofWord offset w).operand.toNat = w.toNat % 2 ^ 24 :=
  Word.toNat_and_mask w 24 (by decide)

/-- The kind of a reference: the top five bits of its word, in place. -/
theorem toNat_refKindOf (w : UInt32) : (refKindOf w).toNat = w.toNat / 2 ^ 27 * 8 := by
  have hw := w.toNat_lt
  have h : (w >>> 24).toNat = w.toNat / 2 ^ 24 := Word.toNat_shiftRight_eq w 24 (by decide)
  rw [refKindOf, Word.toNat_and_f8, UInt32.toNat_toUInt8, h]
  omega

end Instruction

namespace Statement

/-- The parts of an instruction word stand side by side. -/
theorem toNat_word (opcode type1 type2 : UInt8) (low : UInt32) :
    (word opcode type1 type2 low).toNat =
      opcode.toNat * 2 ^ 24 + type2.toNat % 16 * 2 ^ 20 + type1.toNat % 16 * 2 ^ 16 +
        low.toNat % 2 ^ 16 := by
  have hop := opcode.toNat_lt
  have mask (t : UInt8) : (t.toUInt32 &&& 0xf).toNat = t.toNat % 16 := by
    rw [← UInt8.toNat_toUInt32 t]
    exact Word.toNat_and_mask t.toUInt32 4 (by decide)
  have e1 : (opcode.toUInt32 <<< 24).toNat = opcode.toNat * 2 ^ 24 :=
    Word.toNat_byte_shiftLeft opcode 24 (by decide)
  have e2 : ((type2.toUInt32 &&& 0xf) <<< 20).toNat = type2.toNat % 16 * 2 ^ 20 := by
    rw [← mask type2]
    exact Word.toNat_shiftLeft_eq _ 20 (by decide) (by rw [mask]; omega)
  have e3 : ((type1.toUInt32 &&& 0xf) <<< 16).toNat = type1.toNat % 16 * 2 ^ 16 := by
    rw [← mask type1]
    exact Word.toNat_shiftLeft_eq _ 16 (by decide) (by rw [mask]; omega)
  have e4 : (low &&& 0xffff).toNat = low.toNat % 2 ^ 16 := Word.toNat_and_mask low 16 (by decide)
  have s2 := Word.toNat_or_add (a := opcode.toUInt32 <<< 24)
    (b := (type2.toUInt32 &&& 0xf) <<< 20) 24 (by rw [e1]; omega) (by rw [e2]; omega)
  have s3 := Word.toNat_or_add (a := opcode.toUInt32 <<< 24 ||| (type2.toUInt32 &&& 0xf) <<< 20)
    (b := (type1.toUInt32 &&& 0xf) <<< 16) 20 (by rw [s2, e1, e2]; omega) (by rw [e3]; omega)
  have s4 := Word.toNat_or_add
    (a := opcode.toUInt32 <<< 24 ||| (type2.toUInt32 &&& 0xf) <<< 20 |||
      (type1.toUInt32 &&& 0xf) <<< 16)
    (b := low &&& 0xffff) 16 (by rw [s3, s2, e1, e2, e3]; omega) (by rw [e4]; omega)
  rw [word, s4, s3, s2, e1, e2, e3, e4]

/-- The word of a branch: the operation above the low twenty-three bits of the distance. -/
theorem toNat_branchWord (opcode : UInt8) (n : UInt32) :
    ((opcode.toUInt32 <<< 24) ||| (n &&& 0x7fffff)).toNat =
      opcode.toNat * 2 ^ 24 + n.toNat % 2 ^ 23 := by
  have hop := opcode.toNat_lt
  have e1 : (opcode.toUInt32 <<< 24).toNat = opcode.toNat * 2 ^ 24 :=
    Word.toNat_byte_shiftLeft opcode 24 (by decide)
  have e2 : (n &&& 0x7fffff).toNat = n.toNat % 2 ^ 23 := Word.toNat_and_mask n 23 (by decide)
  rw [Word.toNat_or_add 24 (by rw [e1]; omega) (by rw [e2]; omega), e1, e2]

end Statement

end GameRunner

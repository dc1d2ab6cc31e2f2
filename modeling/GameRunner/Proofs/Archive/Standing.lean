import GameRunner.Archive.Block
import GameRunner.Proofs.Archive.Loading
import GameRunner.Proofs.Code.Words

/-!
# Blocks in their places

A block stands at a position of an archive if its bytes for that position are there. Blocks that are
put together stand one behind the other, and each kind of block is read back at its position as what
it was made of.
-/

namespace GameRunner

namespace Bytes

theorem toNat_join16 (b0 b1 : UInt8) : (join16 b0 b1).toNat = b1.toNat * 2 ^ 8 + b0.toNat := by
  have h0 := b0.toNat_lt
  have h1 := b1.toNat_lt
  have hshift : (b1.toUInt16 <<< 8).toNat = 2 ^ 8 * b1.toNat := by
    rw [UInt16.toNat_shiftLeft, UInt8.toNat_toUInt16]
    change b1.toNat <<< 8 % 2 ^ 16 = _
    rw [Nat.shiftLeft_eq]
    omega
  rw [join16, UInt16.or_comm, UInt16.toNat_or, hshift, UInt8.toNat_toUInt16,
    ← Nat.two_pow_add_eq_or_of_lt (by omega)]
  omega

/-- The bytes of a 16-bit number put together again. -/
theorem join16_halves (n : UInt16) : join16 n.toUInt8 (n >>> 8).toUInt8 = n := by
  apply UInt16.toNat_inj.mp
  have hn := n.toNat_lt
  have hshift : (n >>> 8).toNat = n.toNat / 2 ^ 8 := by
    rw [UInt16.toNat_shiftRight]
    exact Nat.shiftRight_eq_div_pow n.toNat 8
  rw [toNat_join16, UInt16.toNat_toUInt8, UInt16.toNat_toUInt8, hshift]
  omega

end Bytes

namespace Archive

/-- A list of bytes stands at a position. -/
def Stands (b : ByteArray) (pos : Nat) (l : List UInt8) : Prop :=
  ∃ before after, b = Bytes.ofList (before ++ l ++ after) ∧ before.length = pos

namespace Stands

variable {b : ByteArray} {pos : Nat} {l r : List UInt8}

theorem le_size (h : Stands b pos l) : pos + l.length ≤ b.size := by
  obtain ⟨before, after, rfl, rfl⟩ := h
  simp

theorem append_iff : Stands b pos (l ++ r) ↔ Stands b pos l ∧ Stands b (pos + l.length) r := by
  constructor
  · rintro ⟨before, after, rfl, rfl⟩
    exact ⟨⟨before, r ++ after, by simp, rfl⟩, ⟨before ++ l, after, by simp, by simp⟩⟩
  · rintro ⟨⟨before, after, rfl, rfl⟩, ⟨before', after', heq, hlength⟩⟩
    have hlist : before ++ l ++ after = before' ++ (r ++ after') := by
      simpa [Bytes.ofList] using heq
    obtain ⟨-, rfl⟩ := List.append_inj hlist (by simpa using hlength.symm)
    exact ⟨before, after', by simp, rfl⟩

theorem slice? (h : Stands b pos l) : Bytes.slice? b pos l.length = some (Bytes.ofList l) := by
  obtain ⟨before, after, rfl, rfl⟩ := h
  unfold Bytes.slice?
  rw [if_pos (by simp)]
  congr 1
  apply ByteArray.ext
  simp [Bytes.data_ofList, ByteArray.data_extract]

theorem byte? (h : Stands b pos l) {k : Nat} (hk : k < l.length) :
    Bytes.byte? b (pos + k) = some l[k] := by
  obtain ⟨before, after, rfl, rfl⟩ := h
  rw [Bytes.byte?_ofList, List.append_assoc, List.getElem?_append_right (by omega),
    Nat.add_sub_cancel_left, List.getElem?_append_left hk, List.getElem?_eq_getElem hk]

theorem word? {w : UInt32} (h : Stands b pos (Bytes.ofWord w)) : Bytes.word? b pos = some w := by
  obtain ⟨before, after, rfl, rfl⟩ := h
  exact Bytes.word?_ofList_append before w after

theorem half? {n : UInt16} (h : Stands b pos [n.toUInt8, (n >>> 8).toUInt8]) :
    Bytes.half? b pos = some n := by
  have h0 := h.byte? (k := 0) (by simp)
  have h1 := h.byte? (k := 1) (by simp)
  rw [Nat.add_zero] at h0
  unfold Bytes.half?
  rw [h0, h1]
  exact congrArg some (Bytes.join16_halves n)

end Stands

/-- A block stands at a position. -/
def Block.StandsIn (k : Block) (b : ByteArray) (pos : Nat) : Prop := Stands b pos (k.bytes pos)

namespace Block

/-! ### Sizes -/

section Sizes

@[simp] theorem size_ofBytes (l : List UInt8) : (ofBytes l).size = l.length := rfl

@[simp] theorem size_zeros (n : Nat) : (zeros n).size = n := List.length_replicate

@[simp] theorem size_half (n : UInt16) : (half n).size = 2 := rfl

@[simp] theorem size_int (n : Int32) : (int n).size = 4 := rfl

@[simp] theorem size_nat (n : Nat) : (nat n).size = 4 := rfl

@[simp] theorem size_flag (x : Bool) : (flag x).size = 4 := rfl

@[simp] theorem size_single (x : Float32) : (single x).size = 4 := rfl

@[simp] theorem size_pointer (n : Nat) : (pointer n).size = 4 := rfl

@[simp] theorem size_empty : empty.size = 0 := rfl

@[simp] theorem concat_nil : concat [] = empty := rfl

@[simp] theorem concat_cons (k : Block) (rest : List Block) :
    concat (k :: rest) = k ++ concat rest := rfl

end Sizes

namespace StandsIn

variable {b : ByteArray} {pos : Nat} {j k : Block}

theorem le_size (h : k.StandsIn b pos) : pos + k.size ≤ b.size := by
  have hle := Stands.le_size h
  rwa [k.length_bytes] at hle

theorem append_iff :
    (j ++ k).StandsIn b pos ↔ j.StandsIn b pos ∧ k.StandsIn b (pos + j.size) := by
  have h : (j ++ k).StandsIn b pos ↔ _ := Stands.append_iff
  rwa [j.length_bytes] at h

/-! ### Reading a block back -/

theorem u32At {f : Nat → UInt32} (h : (wordAt f).StandsIn b pos) : u32At b pos = .ok (f pos) := by
  unfold Archive.u32At
  rw [Stands.word? h]
  rfl

theorem i32At {n : Int32} (h : (int n).StandsIn b pos) : i32At b pos = .ok n := by
  unfold Archive.i32At
  rw [u32At h]
  exact congrArg Except.ok n.toInt32_toUInt32

theorem boolAt {x : Bool} (h : (flag x).StandsIn b pos) : boolAt b pos = .ok x := by
  unfold Archive.boolAt
  rw [u32At h]
  cases x <;> rfl

theorem natAt {n : Nat} (h : (nat n).StandsIn b pos) (hn : n < 2 ^ 32) : natAt b pos = .ok n := by
  unfold Archive.natAt
  rw [u32At h]
  exact congrArg Except.ok (UInt32.toNat_ofNat_of_lt' hn)

theorem natAt_pointer {n : Nat} (h : (pointer n).StandsIn b pos) (hn : pos + n < 2 ^ 32) :
    Archive.natAt b pos = .ok (pos + n) := by
  unfold Archive.natAt
  rw [u32At h]
  exact congrArg Except.ok (UInt32.toNat_ofNat_of_lt' hn)

theorem u16At {n : UInt16} (h : (half n).StandsIn b pos) : u16At b pos = .ok n := by
  unfold Archive.u16At
  rw [Stands.half? h]
  rfl

theorem bytesAt {l : List UInt8} (h : (ofBytes l).StandsIn b pos) :
    bytesAt b pos l.length = .ok (Bytes.ofList l) := by
  have hslice : Bytes.slice? b pos l.length = some (Bytes.ofList l) := Stands.slice? h
  unfold Archive.bytesAt
  rw [hslice]
  rfl

theorem u8At {l : List UInt8} (h : (ofBytes l).StandsIn b pos) {k : Nat} (hk : k < l.length) :
    u8At b (pos + k) = .ok l[k] := by
  unfold Archive.u8At
  rw [Stands.byte? h hk]
  rfl

theorem natAt_zeros {n m : Nat} (h : (zeros n).StandsIn b pos) (hm : m + 4 ≤ n) :
    Archive.natAt b (pos + m) = .ok 0 := by
  have hbyte (k : Nat) (hk : k < 4) : Bytes.byte? b (pos + m + k) = some 0 := by
    have hbyte := Stands.byte? (l := List.replicate n 0) h (k := m + k) (by simp; omega)
    rwa [List.getElem_replicate, ← Nat.add_assoc] at hbyte
  unfold Archive.natAt Archive.u32At Bytes.word?
  rw [hbyte 1 (by omega), hbyte 2 (by omega), hbyte 3 (by omega), ← Nat.add_zero (pos + m),
    hbyte 0 (by omega)]
  rfl

/-- All bytes of a block are there. -/
theorem bytesAt_size (h : k.StandsIn b pos) :
    Archive.bytesAt b pos k.size = .ok (Bytes.ofList (k.bytes pos)) := by
  have hbytes := bytesAt (l := k.bytes pos) h
  rwa [k.length_bytes] at hbytes

end StandsIn

end Block

end Archive

end GameRunner

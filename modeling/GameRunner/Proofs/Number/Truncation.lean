import GameRunner.Number.Convert
import Mathlib

/-!
# Reals that have an integer part

Comparing reals unpacks their bit patterns into a sign, a significand and an exponent; converting
them to integers reads the same patterns apart by arithmetic of its own. Both see the same number.
So dropping the fraction of a real leaves nothing exactly if its magnitude is below one, or if it is
no number.
-/

namespace GameRunner.Number

open Float.Model (UnpackedFloat)
open Float.Model.UnpackedFloat (Sign packComponents unpackMantissa unpackExponent unpackSign)

/-! ### Unpacked reals -/

/-- A magnitude in the form in which reals are unpacked: the significand has all its bits, unless
the exponent is the smallest one. -/
structure Canonical (significand : Nat) (exponent : Int) : Prop where
  lt : significand < 2 ^ 53
  full : 2 ^ 52 ≤ significand ∨ exponent = -1074

section Fields

variable (b : BitVec 64)

theorem toNat_unpackMantissa : (@unpackMantissa .binary64 b).toNat = b.toNat % 2 ^ 52 := by
  unfold unpackMantissa
  rw [BitVec.toNat_cast, BitVec.extractLsb_toNat, Nat.shiftRight_zero]
  rfl

theorem toNat_unpackExponent :
    (@unpackExponent .binary64 b).toNat = b.toNat / 2 ^ 52 % 2 ^ 11 := by
  unfold unpackExponent
  rw [BitVec.toNat_cast, BitVec.extractLsb_toNat, Nat.shiftRight_eq_div_pow]
  rfl

theorem toNat_unpackSign : (@unpackSign .binary64 b).toNat = b.toNat / 2 ^ 63 := by
  have hlt : b.toNat < 2 ^ 64 := b.isLt
  have hsign : (@unpackSign .binary64 b).toNat = b.toNat / 2 ^ 63 % 2 := by
    unfold unpackSign
    rw [BitVec.toNat_cast, BitVec.extractLsb_toNat, Nat.shiftRight_eq_div_pow]
    rfl
  omega

/-- The implicit bit stands above the stored ones. -/
theorem toNat_implicit_append (m : BitVec 52) : (1#1 ++ m).toNat = 2 ^ 52 + m.toNat := by
  rw [BitVec.toNat_append, ← Nat.shiftLeft_add_eq_or_of_lt m.isLt]
  rfl

end Fields

/-- Of a bit pattern that is unpacked, packing restores all that unpacking sees. -/
theorem unpack_pack_unpack (b : BitVec 64) :
    UnpackedFloat.unpack .binary64
        (UnpackedFloat.pack .binary64 (UnpackedFloat.unpack .binary64 b)) =
      UnpackedFloat.unpack .binary64 b := by
  rw [UnpackedFloat.pack_unpack]
  split_ifs with hnan
  · rw [UnpackedFloat.unpack_packedNaN]
    unfold UnpackedFloat.isNaNBits at hnan
    rw [decide_eq_true_eq] at hnan
    unfold UnpackedFloat.unpack
    rw [if_pos hnan.1, if_neg hnan.2]
  · rfl

/-- The magnitude of an unpacked real is the one with the same fields and the positive sign. -/
theorem abs_unpack (b : BitVec 64) :
    (UnpackedFloat.unpack .binary64 b).abs =
      UnpackedFloat.unpack .binary64
        (packComponents .binary64 .positive (unpackExponent b) (unpackMantissa b)) := by
  unfold UnpackedFloat.unpack
  simp only [UnpackedFloat.unpackMantissa_packComponents,
    UnpackedFloat.unpackExponent_packComponents, UnpackedFloat.unpackSign_packComponents,
    Sign.ofBitVec_toBitVec]
  split_ifs <;> rfl

theorem unpack_abs (x : Float) : x.abs.toModel.unpack = x.toModel.unpack.abs := by
  change UnpackedFloat.unpack .binary64 (UnpackedFloat.pack .binary64
      (UnpackedFloat.unpack .binary64 x.toBits.toBitVec).abs) =
    (UnpackedFloat.unpack .binary64 x.toBits.toBitVec).abs
  rw [abs_unpack, unpack_pack_unpack]

theorem canonical_of_unpack {b : BitVec 64} {s : Sign} {m : Nat} {e : Int} {hm : 0 < m}
    (h : UnpackedFloat.unpack .binary64 b = .finite s m e hm) : Canonical m e := by
  have hM : (@unpackMantissa .binary64 b).toNat < 2 ^ 52 := BitVec.isLt _
  have hfull := toNat_implicit_append (@unpackMantissa .binary64 b)
  unfold UnpackedFloat.unpack at h
  dsimp only at h
  split_ifs at h with hones hinfinite hzeros hstored
  · injection h with _ hm he
    subst hm he
    rw [hzeros]
    exact ⟨hM.trans (by decide), Or.inr rfl⟩
  · injection h with _ hm he
    subst hm he
    have hsig : (1#1 ++ @unpackMantissa .binary64 b).toNat < 2 ^ 53 ∧
        2 ^ 52 ≤ (1#1 ++ @unpackMantissa .binary64 b).toNat := by
      rw [hfull]
      omega
    exact ⟨hsig.1, Or.inl hsig.2⟩

/-! ### Decoding -/

/-- Whether a sign is negative. -/
def isNegative : Sign → Bool
  | .negative => true
  | .positive => false

/-- What an unpacked real stands for. -/
def ofUnpacked : UnpackedFloat → Decoded
  | .infinity s => .infinite (isNegative s)
  | .notANumber => .nan
  | .zero s => .finite (isNegative s) 0 Format.double.minExponent
  | .finite s m e _ => .finite (isNegative s) m e

theorem toNat_unpackMantissa_toBitVec (bits : UInt64) :
    (@unpackMantissa .binary64 bits.toBitVec).toNat = (bits &&& 0xfffffffffffff).toNat := by
  rw [toNat_unpackMantissa, UInt64.toNat_and]
  exact (Nat.and_two_pow_sub_one_eq_mod _ 52).symm

theorem toNat_unpackExponent_toBitVec (bits : UInt64) :
    (@unpackExponent .binary64 bits.toBitVec).toNat = ((bits >>> 52) &&& 0x7ff).toNat := by
  rw [toNat_unpackExponent, UInt64.toNat_and, UInt64.toNat_shiftRight]
  change _ = bits.toNat >>> 52 &&& (2 ^ 11 - 1)
  rw [Nat.and_two_pow_sub_one_eq_mod, Nat.shiftRight_eq_div_pow]
  rfl

theorem isNegative_unpackSign (bits : UInt64) :
    isNegative (Sign.ofBitVec (@unpackSign .binary64 bits.toBitVec)) = (bits >>> 63 != 0) := by
  have hsign : (@unpackSign .binary64 bits.toBitVec).toNat = (bits >>> 63).toNat := by
    rw [toNat_unpackSign, UInt64.toNat_shiftRight]
    exact (Nat.shiftRight_eq_div_pow _ _).symm
  unfold Sign.ofBitVec
  by_cases h : @unpackSign .binary64 bits.toBitVec = 0#1
  · have hz : bits >>> 63 = 0 := by
      apply UInt64.toNat_inj.mp
      rw [← hsign, h]
      rfl
    rw [if_pos h, hz]
    rfl
  · have hz : bits >>> 63 ≠ 0 := by
      intro hz
      rw [hz] at hsign
      exact h (BitVec.eq_of_toNat_eq hsign)
    rw [if_neg h, bne_iff_ne.mpr hz]
    rfl

/-- Reading the fields of a bit pattern apart agrees with unpacking it. -/
theorem decoded_eq_ofUnpacked (x : Float) : decoded x = ofUnpacked x.toModel.unpack := by
  change decodeDouble x.toBits = ofUnpacked (UnpackedFloat.unpack .binary64 x.toBits.toBitVec)
  generalize x.toBits = bits
  unfold decodeDouble Format.ofFields
  rw [← toNat_unpackMantissa_toBitVec, ← toNat_unpackExponent_toBitVec, ← isNegative_unpackSign]
  unfold UnpackedFloat.unpack
  dsimp only
  have hones (e : BitVec 11) : e.toNat + 1 = twoTo Format.double.exponentBits ↔ e = -1#11 := by
    have hlast : (-1#11).toNat = 2047 := rfl
    rw [← BitVec.toNat_inj, hlast]
    change e.toNat + 1 = 2048 ↔ _
    omega
  have hzeros (e : BitVec 11) : e.toNat = 0 ↔ e = 0#11 := (BitVec.toNat_inj (y := 0#11))
  have hstored (m : BitVec 52) : m.toNat = 0 ↔ m = 0#52 := (BitVec.toNat_inj (y := 0#52))
  have hmin : Format.double.minExponent = -1074 := rfl
  have hbias : Float.Model.Format.binary64.exponentBias = 1023 := rfl
  simp only [hones, hzeros, hstored]
  split_ifs with hlast hinfinite hfirst hzero
  · rfl
  · rfl
  · rw [ofUnpacked, (hstored _).mpr hzero]
  · rw [ofUnpacked, (hzeros _).mpr hfirst, hmin, hbias]
    rfl
  · have hpos := mt (hzeros _).mp hfirst
    rw [ofUnpacked, toNat_implicit_append, hmin, hbias]
    congr 1
    omega

/-! ### Dropping the fraction -/

theorem le_iff_unpack (a b : Float) : a ≤ b ↔ a.toModel.unpack.le b.toModel.unpack = true := by
  change decide (a.toModel ≤ b.toModel) = true ↔ _
  rw [decide_eq_true_iff]
  rfl

theorem unpack_one : (1 : Float).toModel.unpack = .finite .positive (2 ^ 52) (-52) (by decide) :=
  rfl

theorem unpack_half : (0.5 : Float).toModel.unpack = .finite .positive (2 ^ 52) (-53) (by decide) :=
  rfl

variable {x c : Float} {s : Sign} {m : Nat} {e k : Int} {hm : 0 < m}

/-- A magnitude reaches a power of two if its exponent does. -/
theorem le_abs_iff_of_finite (hc : c.toModel.unpack = .finite .positive (2 ^ 52) k (by decide))
    (hk : -1074 < k) (hx : x.toModel.unpack = .finite s m e hm) : c ≤ x.abs ↔ k ≤ e := by
  have hcanonical := canonical_of_unpack hx
  rw [le_iff_unpack, unpack_abs, hc, hx]
  change ((compare k e).then (compare (2 ^ 52) m)).isLE = true ↔ k ≤ e
  rcases lt_trichotomy k e with hlt | heq | hgt
  · rw [compare_lt_iff_lt.mpr hlt]
    exact iff_of_true rfl hlt.le
  · have hfull : 2 ^ 52 ≤ m := hcanonical.full.resolve_right (by omega)
    rw [compare_eq_iff_eq.mpr heq]
    exact iff_of_true (Nat.isLE_compare.mpr hfull) heq.le
  · rw [compare_gt_iff_gt.mpr hgt]
    exact iff_of_false Bool.false_ne_true (not_le.mpr hgt)

theorem wholePart_eq_zero_iff (hpos : 0 < m) (h : Canonical m e) :
    wholePart m e = 0 ↔ ¬ -52 ≤ e := by
  unfold wholePart
  split_ifs with hsign
  · have hne : m <<< e.toNat ≠ 0 := by
      rw [Nat.shiftLeft_eq]
      exact (Nat.mul_pos hpos (Nat.two_pow_pos _)).ne'
    exact iff_of_false hne (not_not.mpr (by omega))
  · rw [Nat.shiftRight_eq_div_pow, Nat.div_eq_zero_iff_lt (Nat.two_pow_pos _)]
    constructor
    · -- A significand with all its bits is below no power that it has a place for.
      intro hlt hexponent
      have hfull : 2 ^ 52 ≤ m := h.full.resolve_right (by omega)
      have hpow : 2 ^ (-e).toNat ≤ 2 ^ 52 := Nat.pow_le_pow_right (by decide) (by omega)
      omega
    · intro hexponent
      have hpow : 2 ^ 53 ≤ 2 ^ (-e).toNat := Nat.pow_le_pow_right (by decide) (by omega)
      exact h.lt.trans_le hpow

/-- Nothing is left of a real without its fraction exactly if its magnitude is below one, or if it
is no number. -/
theorem truncateWithin_eq_zero_iff {low high : Int} (hlow : low < 0) (hhigh : 0 < high)
    (x : Float) : truncateWithin low high x = 0 ↔ ¬ 1 ≤ x.abs := by
  unfold truncateWithin
  rw [decoded_eq_ofUnpacked]
  cases h : x.toModel.unpack with
  | infinity s =>
    have hone : 1 ≤ x.abs := by
      rw [le_iff_unpack, unpack_abs, unpack_one, h]
      rfl
    refine iff_of_false ?_ (not_not.mpr hone)
    dsimp only [ofUnpacked]
    split_ifs <;> omega
  | notANumber =>
    refine iff_of_true rfl fun hone => ?_
    rw [le_iff_unpack, unpack_abs, unpack_one, h] at hone
    cases hone
  | zero s =>
    have hwhole : wholePart 0 Format.double.minExponent = 0 := rfl
    refine iff_of_true ?_ fun hone => ?_
    · simp only [ofUnpacked, hwhole]
      split_ifs <;> omega
    · rw [le_iff_unpack, unpack_abs, unpack_one, h] at hone
      cases hone
  | finite s m e hm =>
    rw [le_abs_iff_of_finite unpack_one (by decide) h,
      ← wholePart_eq_zero_iff hm (canonical_of_unpack h)]
    simp only [ofUnpacked]
    split_ifs <;> omega

theorem truncateWithin_mem {low high : Int} (hlow : low ≤ 0) (hhigh : 0 ≤ high) (x : Float) :
    low ≤ truncateWithin low high x ∧ truncateWithin low high x ≤ high := by
  unfold truncateWithin
  split
  · exact ⟨hlow, hhigh⟩
  · split_ifs <;> omega
  · dsimp only
    omega

/-- A real is truncated to zero exactly if its magnitude is below one, or if it is no number. -/
theorem toInt64_eq_zero_iff (x : Float) : toInt64 x = 0 ↔ ¬ 1 ≤ x.abs := by
  have hwhole := @truncateWithin_eq_zero_iff (-9223372036854775808) 9223372036854775807 (by decide)
    (by decide) x
  obtain ⟨hlow, hhigh⟩ := @truncateWithin_mem (-9223372036854775808) 9223372036854775807
    (by decide) (by decide) x
  have hexact := Int64.toInt_ofInt_of_le hlow (by omega)
  rw [← hwhole, ← hexact, ← Int64.toInt_inj]
  rfl

/-- What reaches one reaches one half. -/
theorem half_le_abs_of_one_le_abs (h : 1 ≤ x.abs) : 0.5 ≤ x.abs := by
  cases hx : x.toModel.unpack with
  | infinity s =>
    rw [le_iff_unpack, unpack_abs, unpack_half, hx]
    rfl
  | notANumber =>
    rw [le_iff_unpack, unpack_abs, unpack_one, hx] at h
    cases h
  | zero s =>
    rw [le_iff_unpack, unpack_abs, unpack_one, hx] at h
    cases h
  | finite s m e hm =>
    rw [le_abs_iff_of_finite unpack_one (by decide) hx] at h
    rw [le_abs_iff_of_finite unpack_half (by decide) hx]
    omega

end GameRunner.Number

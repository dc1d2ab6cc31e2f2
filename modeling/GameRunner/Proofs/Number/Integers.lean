import GameRunner.Proofs.Number.Truncation

/-!
# Reals that are integers

Adding a zero to a real, whichever of the two zeros it is, leaves it as it is, and a zero divided by
what is positive is a zero. Integers below `2 ^ 53` are reals whose significand is the integer
shifted into place. Sums and differences of such reals are exact as long as the result is below
`2 ^ 53` too, and comparing them is comparing the integers.
-/

namespace GameRunner.Number

open Float.Model (UnpackedFloat Format totalExponent)
open Float.Model.UnpackedFloat (Sign ExtendedMantissa packComponents pack unpack roundWithAccuracy
  shiftToTargetExponent decreaseExponent normalize)

theorem lt_iff_unpack (a b : Float) : a < b ↔ a.toModel.unpack.lt b.toModel.unpack = true := by
  change decide (a.toModel < b.toModel) = true ↔ _
  rw [decide_eq_true_iff]
  rfl

theorem beq_eq_unpack (a b : Float) : (a == b) = a.toModel.unpack.beq b.toModel.unpack := rfl

theorem ofModel_pack_unpack (x : Float) : .ofModel (.pack x.toModel.unpack) = x := x.ofBits_toBits

/-! ### Comparisons -/

/-- Comparing the other way round turns the order round. -/
theorem compare_swap (u v : UnpackedFloat) : (u.compare v).map Ordering.swap = v.compare u := by
  cases u with
  | notANumber => cases v <;> rfl
  | infinity s | zero s =>
    cases v with
    | notANumber => cases s <;> rfl
    | infinity t | zero t | finite t => cases s <;> cases t <;> rfl
  | finite s m e hm =>
    cases v with
    | notANumber => cases s <;> rfl
    | infinity t | zero t => cases s <;> cases t <;> rfl
    | finite t l f hl =>
      cases s <;> cases t <;>
        simp [UnpackedFloat.compare, Ordering.swap_then, ← Std.OrientedCmp.eq_swap]

theorem not_le_of_lt {a b : Float} (h : a < b) : ¬ b ≤ a := by
  rw [lt_iff_unpack, UnpackedFloat.lt, beq_iff_eq] at h
  rw [le_iff_unpack, UnpackedFloat.le, ← compare_swap, h]
  exact Bool.false_ne_true

theorem beq_of_le_of_not_lt {a b : Float} (h : a ≤ b) (hlt : ¬ a < b) : (a == b) = true := by
  rw [le_iff_unpack] at h
  rw [lt_iff_unpack] at hlt
  rw [beq_eq_unpack]
  unfold UnpackedFloat.le at h
  unfold UnpackedFloat.lt at hlt
  unfold UnpackedFloat.beq
  cases hc : a.toModel.unpack.compare b.toModel.unpack with
  | none => simp [hc] at h
  | some o => cases o <;> simp_all

/-! ### Zeros -/

section Zeros

variable {x z : Float}

theorem exists_unpack_of_beq_zero (hz : (z == 0) = true) : ∃ s, z.toModel.unpack = .zero s := by
  obtain ⟨-, -, rfl | ⟨rfl, -⟩ | ⟨rfl, -⟩⟩ := Float.beq_iff_ne_nan_and_eq.mp hz
  · exact ⟨.positive, rfl⟩
  · exact ⟨.positive, rfl⟩
  · exact ⟨.negative, rfl⟩

theorem beq_zero_of_unpack {s : Sign} (h : z.toModel.unpack = .zero s) : (z == 0) = true := by
  rw [beq_eq_unpack, h]
  rfl

theorem unpack_pack_zero (s : Sign) : unpack .binary64 (pack .binary64 (.zero s)) = .zero s :=
  UnpackedFloat.unpack_packedZero

/-- What is positive is finite or infinite. -/
theorem unpack_of_pos (hx : 0 < x) : x.toModel.unpack = .infinity .positive ∨
    ∃ m e hm, x.toModel.unpack = .finite .positive m e hm := by
  rw [lt_iff_unpack] at hx
  cases h : x.toModel.unpack with
  | infinity s =>
    cases s with
    | negative => rw [h] at hx; cases hx
    | positive => exact .inl rfl
  | notANumber => rw [h] at hx; cases hx
  | zero s => rw [h] at hx; cases hx
  | finite s m e hm =>
    cases s with
    | negative => rw [h] at hx; cases hx
    | positive => exact .inr ⟨m, e, hm, rfl⟩

theorem add_zero_of_pos (hx : 0 < x) (hz : (z == 0) = true) : x + z = x := by
  obtain ⟨s, hs⟩ := exists_unpack_of_beq_zero hz
  have hsum : UnpackedFloat.add .binary64 x.toModel.unpack z.toModel.unpack = x.toModel.unpack := by
    rw [hs]
    obtain h | ⟨m, e, hm, h⟩ := unpack_of_pos hx <;> rw [h] <;> rfl
  change Float.ofModel (.pack (UnpackedFloat.add .binary64 x.toModel.unpack z.toModel.unpack)) = x
  rw [hsum, ofModel_pack_unpack]

theorem zero_add_zero (hx : (x == 0) = true) (hz : (z == 0) = true) : (x + z == 0) = true := by
  obtain ⟨s, hs⟩ := exists_unpack_of_beq_zero hx
  obtain ⟨t, ht⟩ := exists_unpack_of_beq_zero hz
  have hsum : ∃ r, UnpackedFloat.add .binary64 x.toModel.unpack z.toModel.unpack = .zero r := by
    rw [hs, ht]
    cases s <;> cases t <;> exact ⟨_, rfl⟩
  obtain ⟨r, hr⟩ := hsum
  refine beq_zero_of_unpack (s := r) ?_
  change unpack .binary64 (pack .binary64 (UnpackedFloat.add .binary64 _ _)) = _
  rw [hr, unpack_pack_zero]

theorem zero_div_of_pos (hz : (z == 0) = true) (hx : 0 < x) : (z / x == 0) = true := by
  obtain ⟨s, hs⟩ := exists_unpack_of_beq_zero hz
  have hquotient :
      ∃ r, UnpackedFloat.div .binary64 z.toModel.unpack x.toModel.unpack = .zero r := by
    rw [hs]
    obtain h | ⟨m, e, hm, h⟩ := unpack_of_pos hx <;> rw [h] <;> exact ⟨_, rfl⟩
  obtain ⟨r, hr⟩ := hquotient
  refine beq_zero_of_unpack (s := r) ?_
  change unpack .binary64 (pack .binary64 (UnpackedFloat.div .binary64 _ _)) = _
  rw [hr, unpack_pack_zero]

theorem neg_zero (hz : (z == 0) = true) : (-z == 0) = true := by
  obtain ⟨s, hs⟩ := exists_unpack_of_beq_zero hz
  refine beq_zero_of_unpack (s := -s) ?_
  change unpack .binary64 (pack .binary64 z.toModel.unpack.neg) = _
  rw [hs]
  exact unpack_pack_zero (-s)

end Zeros

/-! ### Rounding what needs no rounding -/

section Rounding

variable {m : Nat} {e : Int}

/-- A significand that has all its bits. -/
def Full (m : Nat) : Prop := 2 ^ 52 ≤ m ∧ m < 2 ^ 53

theorem Full.pos (h : Full m) : 0 < m := by
  have := h.1
  omega

theorem log2_mul_two_pow (hm : 0 < m) (k : Nat) : (m * 2 ^ k).log2 = m.log2 + k := by
  have hpos : m * 2 ^ k ≠ 0 := (Nat.mul_pos hm (Nat.two_pow_pos k)).ne'
  have hlow : 2 ^ m.log2 ≤ m := Nat.log2_self_le hm.ne'
  have hhigh : m < 2 ^ (m.log2 + 1) := Nat.lt_log2_self
  rw [Nat.log2_eq_iff hpos, Nat.add_right_comm, Nat.pow_add, Nat.pow_add]
  exact ⟨Nat.mul_le_mul_right _ hlow, Nat.mul_lt_mul_of_pos_right hhigh (Nat.two_pow_pos k)⟩

theorem Full.log2 (h : Full m) : m.log2 = 52 := (Nat.log2_eq_iff h.pos.ne').mpr h

theorem targetExponent_eq (m : Nat) (e : Int) :
    Format.binary64.targetExponent (totalExponent m e) = max (m.log2 + 1 + e - 53) (-1074) := rfl

/-- The exponent that a full significand asks for. -/
theorem Full.targetExponent (h : Full m) (he : -1074 ≤ e) (k : Nat) :
    Format.binary64.targetExponent (totalExponent (m * 2 ^ k) (e - k)) = e := by
  rw [targetExponent_eq, log2_mul_two_pow h.pos, h.log2]
  omega

theorem ofMantissaAndAccuracy_shiftRight (m k : Nat) :
    (ExtendedMantissa.ofMantissaAndAccuracy (m * 2 ^ k) .exact >>> k) =
      ExtendedMantissa.ofMantissaAndAccuracy m .exact := by
  induction k generalizing m with
  | zero =>
    rw [Nat.pow_zero, Nat.mul_one]
    rfl
  | succ k ih =>
    have hstep : m * 2 ^ (k + 1) = m * 2 * 2 ^ k := by ring
    change ExtendedMantissa.shiftRightOne
      (ExtendedMantissa.ofMantissaAndAccuracy (m * 2 ^ (k + 1)) .exact >>> k) = _
    rw [hstep, ih]
    simp [ExtendedMantissa.shiftRightOne, ExtendedMantissa.ofMantissaAndAccuracy]

/-- Zeros at the end of a significand are dropped without a trace. -/
theorem Full.shiftToTargetExponent (h : Full m) (he : -1074 ≤ e) (k : Nat) :
    shiftToTargetExponent .binary64 (m * 2 ^ k) (e - k) .exact =
      (ExtendedMantissa.ofMantissaAndAccuracy m .exact, e) := by
  have hshift : (e - (e - k)).toNat = k := by omega
  unfold UnpackedFloat.shiftToTargetExponent UnpackedFloat.shiftToExponent
  dsimp only
  rw [h.targetExponent he k, hshift, ofMantissaAndAccuracy_shiftRight]
  congr 1
  omega

theorem Full.roundWithAccuracy (h : Full m) (he : -1074 ≤ e) (s : Sign) (k : Nat) :
    roundWithAccuracy .binary64 s (m * 2 ^ k) (e - k) .exact = .finite s m e h.pos := by
  have hagain := h.shiftToTargetExponent he 0
  rw [Nat.pow_zero, Nat.mul_one, Nat.cast_zero, Int.sub_zero] at hagain
  have hrounded : (ExtendedMantissa.ofMantissaAndAccuracy m .exact).roundedMantissa = m := rfl
  unfold UnpackedFloat.roundWithAccuracy
  rw [h.shiftToTargetExponent he k]
  dsimp only
  rw [hrounded, hagain]
  exact dif_neg h.pos.ne'

/-- A full significand with an exponent in range fits into a bit pattern. -/
theorem Full.unpack_pack (h : Full m) (hlow : -1074 ≤ e) (hhigh : e ≤ 971) (s : Sign) :
    unpack .binary64 (pack .binary64 (.finite s m e h.pos)) = .finite s m e h.pos := by
  have hpacked : pack .binary64 (.finite s m e h.pos) =
      packComponents .binary64 s (BitVec.ofNat 11 (e + 1075).toNat) (BitVec.ofNat 52 m) := by
    have hbiased : e + Format.binary64.exponentBias + Format.binary64.mantissaBitsWithoutImplicit =
        e + 1075 := by
      change e + 1023 + 52 = e + 1075
      omega
    unfold UnpackedFloat.pack
    dsimp only
    rw [hbiased, h.log2, if_neg (by change ¬2048 ≤ _; omega)]
    exact if_pos rfl
  have hexponent : (BitVec.ofNat 11 (e + 1075).toNat).toNat = (e + 1075).toNat :=
    Nat.mod_eq_of_lt (by omega)
  have hmantissa : (1#1 ++ BitVec.ofNat 52 m).toNat = m := by
    obtain ⟨hmin, hmax⟩ := h
    rw [toNat_implicit_append, BitVec.toNat_ofNat]
    omega
  have hones : BitVec.ofNat 11 (e + 1075).toNat ≠ -1#11 := by
    intro heq
    have hlast : (-1#11).toNat = 2047 := rfl
    rw [heq, hlast] at hexponent
    omega
  have hzeros : BitVec.ofNat 11 (e + 1075).toNat ≠ 0#11 := by
    intro heq
    have hfirst : (0#11).toNat = 0 := rfl
    rw [heq, hfirst] at hexponent
    omega
  rw [hpacked]
  unfold UnpackedFloat.unpack
  simp only [UnpackedFloat.unpackMantissa_packComponents,
    UnpackedFloat.unpackExponent_packComponents, UnpackedFloat.unpackSign_packComponents,
    Sign.ofBitVec_toBitVec, hexponent, hmantissa]
  rw [if_neg hones, if_neg hzeros]
  congr 1
  change ((e + 1075).toNat : Int) - (1023 + 52) = e
  omega

end Rounding

/-! ### Integers -/

/-- An unpacked real with the value of an integer below `2 ^ 53`. -/
inductive IsInteger : UnpackedFloat → Int → Prop
  | zero (s : Sign) : IsInteger (.zero s) 0
  | finite {s : Sign} {m k : Nat} {hm : 0 < m} {n : Int} (hfull : Full m)
    (hvalue : s.apply m = n * 2 ^ k) : IsInteger (.finite s m (-k) hm) n

section Integers

variable {u v : UnpackedFloat} {a b n : Int}

theorem natAbs_apply (s : Sign) (m : Nat) : (s.apply m).natAbs = m := by
  cases s <;> simp [Sign.apply]

theorem apply_mul_two_pow (s : Sign) (m k : Nat) :
    s.apply (m * 2 ^ k : Nat) = s.apply m * 2 ^ k := by
  cases s <;> simp [Sign.apply]

/-- The significand of an integer is its magnitude, shifted. -/
theorem eq_natAbs_mul {s : Sign} {m k : Nat} (h : s.apply m = n * 2 ^ k) :
    m = n.natAbs * 2 ^ k := by
  rw [← natAbs_apply s m, h, Int.natAbs_mul, Int.natAbs_pow]
  rfl

theorem Full.exponent_le {m k : Nat} (h : Full m) (hm : m = a.natAbs * 2 ^ k) : k ≤ 52 := by
  have hpos : 0 < a.natAbs := Nat.pos_of_mul_pos_right (hm ▸ h.pos)
  have hpow : 2 ^ k ≤ m := hm ▸ Nat.le_mul_of_pos_left _ hpos
  have hlt : 2 ^ k < 2 ^ 53 := hpow.trans_lt h.2
  have := (Nat.pow_lt_pow_iff_right (by decide : 1 < 2)).mp hlt
  omega

theorem IsInteger.unpack_pack (h : IsInteger u n) : unpack .binary64 (pack .binary64 u) = u := by
  cases h with
  | zero s => exact unpack_pack_zero s
  | finite hfull hvalue =>
    have hle := hfull.exponent_le (eq_natAbs_mul hvalue)
    exact hfull.unpack_pack (by omega) (by omega) _

/-- Rounding finds the place of an integer. -/
theorem exists_round_eq {a : Nat} (hpos : 0 < a) (hlt : a < 2 ^ 53) (s : Sign) (k : Nat) :
    ∃ (place : Nat) (hfull : Full (a * 2 ^ place)),
      UnpackedFloat.round .binary64 s (a * 2 ^ k) (-k) =
        .finite s (a * 2 ^ place) (-place) hfull.pos := by
  have hlog : a.log2 < 53 := (Nat.log2_lt hpos.ne').mpr hlt
  obtain ⟨place, hplace⟩ : ∃ place, a.log2 + place = 52 := ⟨52 - a.log2, by omega⟩
  have hfull : Full (a * 2 ^ place) := by
    have hne : a * 2 ^ place ≠ 0 := (Nat.mul_pos hpos (Nat.two_pow_pos place)).ne'
    rw [Full, ← Nat.log2_eq_iff hne, log2_mul_two_pow hpos, hplace]
  have htarget : Format.binary64.targetExponent (totalExponent (a * 2 ^ k) (-k)) = -place := by
    rw [targetExponent_eq, log2_mul_two_pow hpos]
    omega
  have hdecrease : decreaseExponent (a * 2 ^ k) (-k) (-place) =
      (a * 2 ^ place * 2 ^ (k - place), -place - ((k - place : Nat) : Int)) := by
    have hshift : (-(k : Int) - -place).toNat = place - k := by omega
    have hsum : k + (place - k) = place + (k - place) := by omega
    unfold UnpackedFloat.decreaseExponent
    dsimp only
    rw [hshift, Nat.shiftLeft_eq, Nat.mul_assoc, ← Nat.pow_add, hsum, Nat.pow_add, ← Nat.mul_assoc]
    congr 1
    omega
  refine ⟨place, hfull, ?_⟩
  unfold UnpackedFloat.round
  dsimp only
  rw [htarget, hdecrease]
  exact hfull.roundWithAccuracy (by omega) s _

theorem isInteger_normalize (h : n.natAbs < 2 ^ 53) (k : Nat) (z : Sign) :
    IsInteger (normalize .binary64 (n * 2 ^ k) (-k) z) n := by
  have hround (s : Sign) (hne : n ≠ 0) (hn : s.apply n.natAbs = n) :
      IsInteger (UnpackedFloat.round .binary64 s (n.natAbs * 2 ^ k) (-k)) n := by
    obtain ⟨place, hfull, heq⟩ := exists_round_eq (Int.natAbs_pos.mpr hne) h s k
    rw [heq]
    refine .finite hfull ?_
    rw [apply_mul_two_pow, hn]
  have hmagnitude : (n * 2 ^ k).natAbs = n.natAbs * 2 ^ k := by
    rw [Int.natAbs_mul, Int.natAbs_pow]
    rfl
  have hpow : (0 : Int) < 2 ^ k := by positivity
  unfold UnpackedFloat.normalize
  rcases lt_trichotomy n 0 with hneg | hzero | hpos
  · have hproduct : n * 2 ^ k < 0 := mul_neg_of_neg_of_pos hneg hpow
    have hnat : (-(n * 2 ^ k)).toNat = n.natAbs * 2 ^ k := by omega
    rw [compare_lt_iff_lt.mpr hproduct, hnat]
    refine hround .negative hneg.ne ?_
    simp only [Sign.apply]
    omega
  · subst hzero
    rw [Int.zero_mul, compare_eq_iff_eq.mpr rfl]
    exact .zero z
  · have hproduct : 0 < n * 2 ^ k := mul_pos hpos hpow
    have hnat : (n * 2 ^ k).toNat = n.natAbs * 2 ^ k := by omega
    rw [compare_gt_iff_gt.mpr hproduct, hnat]
    refine hround .positive hpos.ne' ?_
    simp only [Sign.apply]
    omega

/-- Going to a smaller exponent keeps the value. -/
theorem apply_decreaseExponent {s : Sign} {m k l : Nat} (hvalue : s.apply m = n * 2 ^ k)
    (h : k ≤ l) : s.apply (decreaseExponent m (-k) (-l)).1 = n * 2 ^ l := by
  have hshift : (-(k : Int) - -l).toNat = l - k := by omega
  unfold UnpackedFloat.decreaseExponent
  dsimp only
  rw [hshift, Nat.shiftLeft_eq, apply_mul_two_pow, hvalue, Int.mul_assoc, ← pow_add,
    Nat.add_sub_cancel' h]

theorem IsInteger.add (hu : IsInteger u a) (hv : IsInteger v b) (h : (a + b).natAbs < 2 ^ 53) :
    IsInteger (UnpackedFloat.add .binary64 u v) (a + b) := by
  cases hu with
  | zero s =>
    rw [Int.zero_add]
    cases hv with
    | zero t => cases s <;> cases t <;> exact .zero _
    | finite hfull hvalue => exact .finite hfull hvalue
  | @finite s m k hm _ hfull hvalue =>
    cases hv with
    | zero t =>
      rw [Int.add_zero]
      exact .finite hfull hvalue
    | @finite t l j hl _ hfull' hvalue' =>
      have hmin : min (-(k : Int)) (-j) = -((max k j : Nat) : Int) := by omega
      have hleft := apply_decreaseExponent hvalue (le_max_left k j)
      have hright := apply_decreaseExponent hvalue' (le_max_right k j)
      unfold UnpackedFloat.add
      dsimp only
      rw [hmin, hleft, hright, ← Int.add_mul]
      exact isInteger_normalize h (max k j) .positive

theorem apply_neg (s : Sign) (k : Int) : (-s).apply k = -s.apply k := by
  cases s with
  | negative => exact (Int.neg_neg k).symm
  | positive => rfl

theorem IsInteger.neg (hu : IsInteger u a) : IsInteger u.neg (-a) := by
  cases hu with
  | zero s => exact .zero (-s)
  | finite hfull hvalue =>
    refine .finite hfull ?_
    rw [apply_neg, hvalue, Int.neg_mul]

theorem sub_eq_add_neg (u v : UnpackedFloat) :
    UnpackedFloat.sub .binary64 u v = UnpackedFloat.add .binary64 u v.neg := by
  cases u with
  | notANumber => rfl
  | infinity s => cases v <;> rfl
  | zero s => cases v <;> rfl
  | finite s m e hm =>
    cases v with
    | finite t l j hl =>
      unfold UnpackedFloat.sub UnpackedFloat.add UnpackedFloat.neg
      dsimp only
      rw [apply_neg, Int.sub_eq_add_neg]
    | _ => rfl

theorem IsInteger.sub (hu : IsInteger u a) (hv : IsInteger v b) (h : (a - b).natAbs < 2 ^ 53) :
    IsInteger (UnpackedFloat.sub .binary64 u v) (a - b) := by
  rw [sub_eq_add_neg]
  exact hu.add hv.neg h

/-! ### Comparing integers -/

/-- Of two magnitudes the one with the larger exponent is larger. -/
theorem Full.lt_of_lt {m l a b j k : Nat} (hm : Full m) (hl : Full l) (ha : m = a * 2 ^ k)
    (hb : l = b * 2 ^ j) (h : j < k) : a < b := by
  refine Nat.lt_of_mul_lt_mul_right (a := 2 ^ k) ?_
  calc a * 2 ^ k = m := ha.symm
    _ < 2 * l := by have := hm.2; have := hl.1; omega
    _ = b * 2 ^ (j + 1) := by rw [hb]; ring
    _ ≤ b * 2 ^ k := Nat.mul_le_mul_left b (Nat.pow_le_pow_right (by decide) h)

/-- Magnitudes compare by their exponents, and then by their significands. -/
theorem Full.compares {m l a b j k : Nat} (hm : Full m) (hl : Full l) (ha : m = a * 2 ^ k)
    (hb : l = b * 2 ^ j) : ((compare (-k : Int) (-j)).then (compare m l)).Compares a b := by
  rcases lt_trichotomy j k with hlt | rfl | hgt
  · rw [compare_lt_iff_lt.mpr (by omega)]
    exact hm.lt_of_lt hl ha hb hlt
  · have hcmp : (compare m l).Compares m l := cmp_eq_compare m l ▸ cmp_compares m l
    have hpow : 0 < 2 ^ j := Nat.two_pow_pos j
    rw [compare_eq_iff_eq.mpr rfl]
    change (compare m l).Compares a b
    subst ha hb
    cases hc : compare (a * 2 ^ j) (b * 2 ^ j) with
    | lt => exact Nat.lt_of_mul_lt_mul_right (hc ▸ hcmp : Ordering.lt.Compares _ _)
    | eq => exact Nat.eq_of_mul_eq_mul_right hpow (hc ▸ hcmp : Ordering.eq.Compares _ _)
    | gt => exact Nat.lt_of_mul_lt_mul_right (hc ▸ hcmp : Ordering.gt.Compares _ _)
  · rw [compare_gt_iff_gt.mpr (by omega)]
    exact hl.lt_of_lt hm hb ha hgt

theorem pos_of_apply {m k : Nat} (hm : 0 < m) (h : Sign.positive.apply m = n * 2 ^ k) : 0 < n := by
  have hpos : (0 : Int) < n * 2 ^ k := h ▸ Int.natCast_pos.mpr hm
  exact pos_of_mul_pos_left hpos (by positivity)

theorem neg_of_apply {m k : Nat} (hm : 0 < m) (h : Sign.negative.apply m = n * 2 ^ k) : n < 0 := by
  have hneg : n * 2 ^ k < (0 : Int) := h ▸ Int.neg_neg_of_pos (Int.natCast_pos.mpr hm)
  exact neg_of_mul_neg_left hneg (by positivity)

theorem IsInteger.compares (hu : IsInteger u a) (hv : IsInteger v b) :
    ∃ o, u.compare v = some o ∧ o.Compares a b := by
  cases hu with
  | zero s =>
    cases hv with
    | zero t => exact ⟨.eq, rfl, rfl⟩
    | @finite t l j hl _ hfull hvalue =>
      cases t with
      | negative => exact ⟨.gt, rfl, neg_of_apply hl hvalue⟩
      | positive => exact ⟨.lt, rfl, pos_of_apply hl hvalue⟩
  | @finite s m k hm _ hfull hvalue =>
    cases hv with
    | zero t =>
      cases s with
      | negative => exact ⟨.lt, rfl, neg_of_apply hm hvalue⟩
      | positive => exact ⟨.gt, rfl, pos_of_apply hm hvalue⟩
    | @finite t l j hl _ hfull' hvalue' =>
      have hmagnitudes := hfull.compares hfull' (eq_natAbs_mul hvalue) (eq_natAbs_mul hvalue')
      cases s with
      | negative =>
        have ha := neg_of_apply hm hvalue
        cases t with
        | negative =>
          have hb := neg_of_apply hl hvalue'
          refine ⟨_, rfl, ?_⟩
          rw [Ordering.compares_swap]
          revert hmagnitudes
          generalize (compare (-k : Int) (-j)).then (compare m l) = o
          cases o <;> simp only [Ordering.Compares] <;> omega
        | positive => exact ⟨.lt, rfl, ha.trans (pos_of_apply hl hvalue')⟩
      | positive =>
        have ha := pos_of_apply hm hvalue
        cases t with
        | negative => exact ⟨.gt, rfl, (neg_of_apply hl hvalue').trans ha⟩
        | positive =>
          have hb := pos_of_apply hl hvalue'
          refine ⟨_, rfl, ?_⟩
          revert hmagnitudes
          generalize (compare (-k : Int) (-j)).then (compare m l) = o
          cases o <;> simp only [Ordering.Compares] <;> omega

end Integers

/-! ### Sums, differences and comparisons of reals -/

/-- A real is equal to an integer below `2 ^ 53`. -/
def HasValue (x : Float) (n : Int) : Prop := IsInteger x.toModel.unpack n

section Reals

variable {x y : Float} {a b : Int}

theorem HasValue.add (hx : HasValue x a) (hy : HasValue y b) (h : (a + b).natAbs < 2 ^ 53) :
    HasValue (x + y) (a + b) := by
  have hsum := IsInteger.add hx hy h
  change IsInteger (unpack .binary64 (pack .binary64 (UnpackedFloat.add .binary64 _ _))) _
  rwa [hsum.unpack_pack]

theorem HasValue.sub (hx : HasValue x a) (hy : HasValue y b) (h : (a - b).natAbs < 2 ^ 53) :
    HasValue (x - y) (a - b) := by
  have hdifference := IsInteger.sub hx hy h
  change IsInteger (unpack .binary64 (pack .binary64 (UnpackedFloat.sub .binary64 _ _))) _
  rwa [hdifference.unpack_pack]

theorem HasValue.neg (hx : HasValue x a) : HasValue (-x) (-a) := by
  have hneg := IsInteger.neg hx
  change IsInteger (unpack .binary64 (pack .binary64 (UnpackedFloat.neg _))) _
  rwa [hneg.unpack_pack]

theorem HasValue.le_iff (hx : HasValue x a) (hy : HasValue y b) : x ≤ y ↔ a ≤ b := by
  obtain ⟨o, ho, hcompares⟩ := IsInteger.compares hx hy
  rw [le_iff_unpack, UnpackedFloat.le, ho]
  cases o with
  | lt => exact iff_of_true rfl hcompares.le
  | eq => exact iff_of_true rfl hcompares.le
  | gt => exact iff_of_false Bool.false_ne_true (not_le.mpr hcompares)

theorem HasValue.lt_iff (hx : HasValue x a) (hy : HasValue y b) : x < y ↔ a < b := by
  obtain ⟨o, ho, hcompares⟩ := IsInteger.compares hx hy
  rw [lt_iff_unpack, UnpackedFloat.lt, ho]
  cases o with
  | lt => exact iff_of_true rfl hcompares
  | eq => exact iff_of_false Bool.false_ne_true hcompares.not_lt
  | gt => exact iff_of_false Bool.false_ne_true (not_lt.mpr hcompares.le)

/-- Both zeros have the value of the one that they are equal to. -/
theorem HasValue.of_beq (hy : HasValue y a) (h : (x == y) = true) : HasValue x a := by
  obtain ⟨-, -, rfl | ⟨rfl, rfl⟩ | ⟨rfl, rfl⟩⟩ := Float.beq_iff_ne_nan_and_eq.mp h
  · exact hy
  · cases (hy : IsInteger (.zero .negative) a)
    exact .zero .positive
  · cases (hy : IsInteger (.zero .positive) a)
    exact .zero .negative

/-- Natural numbers become reals as words, multiplied by a power of ten that is one. -/
theorem ofNat_eq_mul {n : Nat} (h : n < 2 ^ 53) :
    Float.ofNat n = n.toUInt64.toFloat * .ofBits 0x3ff0000000000000 := by
  change Float.ofScientific n false 0 = _
  unfold Float.ofScientific
  exact dif_pos ⟨h, by decide⟩

theorem IsInteger.mul_one {u : UnpackedFloat} (hu : IsInteger u a) :
    UnpackedFloat.mul .binary64 u (.finite .positive (2 ^ 52) (-52) (by decide)) = u := by
  have hsign (s : Sign) : s * .positive = s := by cases s <;> rfl
  cases hu with
  | zero s => exact congrArg UnpackedFloat.zero (hsign s)
  | @finite s m k hm _ hfull hvalue =>
    have hle := hfull.exponent_le (eq_natAbs_mul hvalue)
    change roundWithAccuracy .binary64 (s * .positive) (m * 2 ^ 52) (-k - (52 : Nat)) .exact = _
    rw [hsign, hfull.roundWithAccuracy (by omega)]

theorem hasValue_ofNat {n : Nat} (h : n < 2 ^ 53) : HasValue (.ofNat n) n := by
  have hword : IsInteger (UnpackedFloat.ofUInt64 .binary64 n.toUInt64) n := by
    have hsmall : n.toUInt64.toNat = n := Nat.mod_eq_of_lt (by omega)
    have hround := isInteger_normalize (n := n) h 0 .positive
    rw [pow_zero, Int.mul_one] at hround
    unfold UnpackedFloat.ofUInt64
    rw [hsmall]
    exact hround
  have hfactor : (Float.ofBits 0x3ff0000000000000).toModel.unpack =
      .finite .positive (2 ^ 52) (-52) (by decide) := rfl
  have hproduct : (Float.ofNat n).toModel.unpack = unpack .binary64 (pack .binary64
      (UnpackedFloat.mul .binary64 (unpack .binary64 (pack .binary64
        (UnpackedFloat.ofUInt64 .binary64 n.toUInt64)))
        (Float.ofBits 0x3ff0000000000000).toModel.unpack)) := by
    rw [ofNat_eq_mul h]
    rfl
  unfold HasValue
  rw [hproduct, hword.unpack_pack, hfactor, hword.mul_one, hword.unpack_pack]
  exact hword

theorem hasValue_ofInt {n : Int} (h : n.natAbs < 2 ^ 53) : HasValue (.ofInt n) n := by
  cases n with
  | ofNat n => exact hasValue_ofNat h
  | negSucc n => exact (hasValue_ofNat (n := n + 1) h).neg

end Reals

end GameRunner.Number

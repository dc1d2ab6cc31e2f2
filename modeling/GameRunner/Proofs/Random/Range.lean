import GameRunner.Proofs.Machine.Negation
import Mathlib.Tactic

/-!
# Random integers stay in range

A draw of 64 bits is multiplied by the size of a range, and the high half of the product is how far the
result lies above the low bound. It is below the size, since the draw is below two to the power of 64.
Adding it to the low bound wraps around nowhere between the bounds, although the size of the range may
not fit a signed word. The size of the whole range of 64 bits wraps to zero, and any word at all is in
that range.
-/

namespace GameRunner

namespace Generator

/-! ### Below a size -/

/-- The high half of the product of a word and a size. -/
theorem high_half_lt {bits size : Nat} (hbits : bits < 2 ^ 64) (hsize : 0 < size) :
    (bits * size) >>> 64 < size := by
  rw [Nat.shiftRight_eq_div_pow]
  exact Nat.div_lt_of_lt_mul (Nat.mul_lt_mul_of_pos_right hbits hsize)

theorem toNat_ofNat_high_half (bits size : UInt64) (hsize : size ≠ 0) :
    (UInt64.ofNat ((bits.toNat * size.toNat) >>> 64)).toNat = (bits.toNat * size.toNat) >>> 64 ∧
      (bits.toNat * size.toNat) >>> 64 < size.toNat := by
  have hpos : 0 < size.toNat :=
    Nat.pos_of_ne_zero fun hzero => hsize (UInt64.toNat_inj.mp hzero)
  have hlt := high_half_lt bits.toNat_lt hpos
  exact ⟨UInt64.toNat_ofNat_of_lt' (hlt.trans size.toNat_lt), hlt⟩

variable {g g' : Generator} {size n : UInt64} {attempts : Nat}

/-- However many draws are rejected, the one that is accepted gives a number below the size. -/
theorem drawBelow_lt (hsize : size ≠ 0) (h : drawBelow size attempts g = some (n, g')) : n < size := by
  induction attempts generalizing g with
  | zero => cases h
  | succ attempts ih =>
    unfold drawBelow at h
    dsimp only at h
    split_ifs at h with haccepted
    · cases h
      obtain ⟨hexact, hlt⟩ := toNat_ofNat_high_half g.draw.1 size hsize
      rw [UInt64.lt_iff_toNat_lt, hexact]
      exact hlt
    · exact ih h

/-- Numbers below nothing come out as zero. -/
theorem drawBelow_zero (h : drawBelow 0 attempts g = some (n, g')) : n = 0 := by
  induction attempts generalizing g with
  | zero => cases h
  | succ attempts ih =>
    unfold drawBelow at h
    dsimp only at h
    split_ifs at h with haccepted
    · cases h
      rw [UInt64.toNat_zero, Nat.mul_zero, Nat.zero_shiftRight]
      rfl
    · exact ih h

/-! ### Nothing below the size is left out -/

/-- The low half of a product may be anything below the size itself. -/
theorem le_zone {low : Nat} (hsize : size ≠ 0) (hlow : low < size.toNat) :
    UInt64.ofNat low ≤ zone size := by
  have hpos : size.toNat ≠ 0 := fun hzero => hsize (UInt64.toNat_inj.mp hzero)
  have hlog : size.toNat.log2 < 64 := (Nat.log2_lt hpos).mpr size.toNat_lt
  have hshift : (63 - size.toNat.log2).toUInt64.toNat % 64 = 63 - size.toNat.log2 := by
    rw [show (63 - size.toNat.log2).toUInt64.toNat = (63 - size.toNat.log2) % 2 ^ 64 from rfl]
    omega
  have hfits : size.toNat * 2 ^ (63 - size.toNat.log2) < 2 ^ 64 := by
    have hpow : 2 ^ (size.toNat.log2 + 1) * 2 ^ (63 - size.toNat.log2) = 2 ^ 64 := by
      rw [← Nat.pow_add]
      congr 1
      omega
    rw [← hpow]
    exact Nat.mul_lt_mul_of_pos_right Nat.lt_log2_self (Nat.two_pow_pos _)
  have hgrows : size.toNat ≤ size.toNat * 2 ^ (63 - size.toNat.log2) :=
    Nat.le_mul_of_pos_right _ (Nat.two_pow_pos _)
  have hzone : (zone size).toNat = size.toNat * 2 ^ (63 - size.toNat.log2) - 1 := by
    have hshifted : (size <<< (63 - size.toNat.log2).toUInt64).toNat =
        size.toNat * 2 ^ (63 - size.toNat.log2) := by
      rw [UInt64.toNat_shiftLeft, hshift, Nat.shiftLeft_eq, Nat.mod_eq_of_lt hfits]
    unfold zone
    rw [UInt64.toNat_sub_of_le, hshifted]
    · rfl
    · rw [UInt64.le_iff_toNat_le, hshifted]
      exact (Nat.pos_of_ne_zero hpos).trans_le hgrows
  rw [UInt64.le_iff_toNat_le, hzone,
    UInt64.toNat_ofNat_of_lt' (show low < UInt64.size from hlow.trans size.toNat_lt)]
  omega

/-- There is a multiple of the size whose high half is a given number and whose low half is below the
size. -/
theorem exists_mul_eq {n size : Nat} (hn : n < size) (hsize : size < 2 ^ 64) :
    ∃ bits low, bits < 2 ^ 64 ∧ low < size ∧ bits * size = n * 2 ^ 64 + low := by
  -- The first multiple from n * 2 ^ 64 on.
  have hdiv := Nat.div_add_mod (n * 2 ^ 64 + (size - 1)) size
  have hmod := Nat.mod_lt (n * 2 ^ 64 + (size - 1)) (Nat.zero_lt_of_lt hn)
  refine ⟨(n * 2 ^ 64 + (size - 1)) / size,
    size - 1 - (n * 2 ^ 64 + (size - 1)) % size, ?_, by omega, ?_⟩
  · apply Nat.div_lt_of_lt_mul
    have hle : (n + 1) * 2 ^ 64 ≤ size * 2 ^ 64 := Nat.mul_le_mul_right _ hn
    omega
  · rw [Nat.mul_comm]
    omega

/-- Every number below the size is what some draw gives. -/
theorem exists_draw_of_lt (hn : n < size) :
    ∃ bits : UInt64, ∀ (g : Generator) (attempts : Nat), g.draw.1 = bits →
      drawBelow size (attempts + 1) g = some (n, g.draw.2) := by
  have hn : n.toNat < size.toNat := UInt64.lt_iff_toNat_lt.mp hn
  have hsize : size ≠ 0 := by
    rintro rfl
    exact Nat.not_lt_zero _ hn
  obtain ⟨bits, low, hbits, hlow, hproduct⟩ := exists_mul_eq hn size.toNat_lt
  have hlowLt : low < 2 ^ 64 := hlow.trans size.toNat_lt
  refine ⟨UInt64.ofNat bits, fun g attempts hdraw => ?_⟩
  have hexact : (UInt64.ofNat bits).toNat * size.toNat = n.toNat * 2 ^ 64 + low := by
    rw [UInt64.toNat_ofNat_of_lt' hbits, hproduct]
  have hlowHalf : UInt64.ofNat (n.toNat * 2 ^ 64 + low) = UInt64.ofNat low := by
    apply UInt64.toNat_inj.mp
    rw [UInt64.toNat_ofNat', UInt64.toNat_ofNat']
    omega
  have hhighHalf : (n.toNat * 2 ^ 64 + low) >>> 64 = n.toNat := by
    rw [Nat.shiftRight_eq_div_pow]
    omega
  unfold drawBelow
  dsimp only
  rw [hdraw, hexact, hlowHalf, if_pos (le_zone hsize hlow), hhighHalf, UInt64.ofNat_toNat]

/-! ### Between two bounds -/

variable {low high : Int64}

/-- The distance of two bounds, as a word, is their distance as integers. -/
theorem toNat_distance (h : low ≤ high) :
    ((high - low).toUInt64.toNat : Int) = high.toInt - low.toInt := by
  have hle := Int64.le_iff_toInt_le.mp h
  have hlow : low.toInt = low.toBitVec.toInt := rfl
  have hhigh : high.toInt = high.toBitVec.toInt := rfl
  have hbits : (high - low).toUInt64.toNat = (high.toBitVec - low.toBitVec).toNat := rfl
  have hlowLt := low.toBitVec.isLt
  have hhighLt := high.toBitVec.isLt
  rw [hlow, hhigh, BitVec.toInt_eq_toNat_cond, BitVec.toInt_eq_toNat_cond] at hle
  rw [hbits, BitVec.toNat_sub, hlow, hhigh, BitVec.toInt_eq_toNat_cond, BitVec.toInt_eq_toNat_cond]
  split_ifs at hle ⊢ <;> omega

/-- Going up from the low bound by no more than the distance wraps around nowhere. -/
theorem toInt_add_of_le_distance (h : low ≤ high) {n : UInt64}
    (hn : n.toNat ≤ (high - low).toUInt64.toNat) :
    (low + n.toInt64).toInt = low.toInt + n.toNat := by
  have hword : n.toInt64.toInt = (n.toNat : Int).bmod (2 ^ 64) := BitVec.toInt_eq_toNat_bmod _
  have hdistance := toNat_distance h
  have hlow := low.le_toInt
  have hhigh := high.toInt_lt
  rw [Int64.toInt_add, hword, Int.add_bmod_bmod, Int.bmod_eq_of_le] <;> omega

/-- The size of a range is one more than the distance of its bounds, unless it is that of the whole
range of 64 bits. -/
theorem toNat_size (h : (high - low).toUInt64 + 1 ≠ 0) :
    ((high - low).toUInt64 + 1).toNat = (high - low).toUInt64.toNat + 1 := by
  have hlt := (high - low).toUInt64.toNat_lt
  have hne : ((high - low).toUInt64 + 1).toNat ≠ 0 := fun hzero => h (UInt64.toNat_inj.mp hzero)
  rw [UInt64.toNat_add] at hne ⊢
  change (_ + 1) % _ ≠ 0 at hne
  change (_ + 1) % _ = _
  omega

theorem whole_range (hle : low ≤ high) (h : (high - low).toUInt64 + 1 = 0) (n : Int64) :
    low ≤ n ∧ n ≤ high := by
  have hdistance := toNat_distance hle
  have hzero := congrArg UInt64.toNat h
  rw [UInt64.toNat_add] at hzero
  change (_ + 1) % _ = 0 at hzero
  have hlow := low.le_toInt
  have hhigh := high.toInt_lt
  have hnlow := n.le_toInt
  have hnhigh := n.toInt_lt
  rw [Int64.le_iff_toInt_le, Int64.le_iff_toInt_le]
  omega

/-- What an integer between two bounds comes from: an accepted draw of how far it lies above the low
one. -/
theorem integer_eq (g : Generator) (hle : low ≤ high) :
    g.integer low high =
      if (high - low).toUInt64 + 1 = 0 then some (g.draw.1.toInt64, g.draw.2)
      else (drawBelow ((high - low).toUInt64 + 1) period g).map fun r => (low + r.1.toInt64, r.2) := by
  simp only [integer, if_pos hle]

/-- The bounds may be given in either order. -/
theorem integer_comm (g : Generator) (a b : Int64) : g.integer a b = g.integer b a := by
  unfold integer
  by_cases hab : a ≤ b
  · by_cases hba : b ≤ a
    · rw [Int64.le_antisymm hab hba]
    · simp only [if_pos hab, if_neg hba]
  · have hba : b ≤ a := (Int64.le_total a b).resolve_left hab
    simp only [if_neg hab, if_pos hba]

theorem integer_mem (hle : low ≤ high) {n : Int64} (h : g.integer low high = some (n, g')) :
    low ≤ n ∧ n ≤ high := by
  rw [integer_eq g hle] at h
  split_ifs at h with hsize
  · exact whole_range hle hsize n
  · obtain ⟨⟨r, g''⟩, hdraw, heq⟩ := Option.map_eq_some_iff.mp h
    obtain ⟨rfl, -⟩ := Prod.mk.inj heq
    have hr := UInt64.lt_iff_toNat_lt.mp (drawBelow_lt hsize hdraw)
    rw [toNat_size hsize] at hr
    have hle' : r.toNat ≤ (high - low).toUInt64.toNat := Nat.lt_succ_iff.mp hr
    have hdistance := toNat_distance hle
    rw [Int64.le_iff_toInt_le, Int64.le_iff_toInt_le, toInt_add_of_le_distance hle hle']
    omega

/-- A generator whose next draw is a given word. -/
def drawing (bits : UInt64) : Generator :=
  { ofSeed 0 with words := [bits.toUInt32, (bits >>> 32).toUInt32] }

theorem joinWords_halves (bits : UInt64) :
    joinWords bits.toUInt32 (bits >>> 32).toUInt32 = bits := by
  have hbits := bits.toNat_lt
  have hlow : bits.toNat % 2 ^ 32 < 2 ^ 32 := Nat.mod_lt _ (Nat.two_pow_pos 32)
  have hshift : (32 : UInt64).toNat % 64 = 32 := rfl
  have hhigh : (bits.toNat >>> 32) % 2 ^ 32 = bits.toNat / 2 ^ 32 := by
    rw [Nat.shiftRight_eq_div_pow]
    omega
  have hplace : (bits.toNat / 2 ^ 32) <<< 32 % 2 ^ 64 = (bits.toNat / 2 ^ 32) <<< 32 := by
    rw [Nat.shiftLeft_eq]
    omega
  apply UInt64.toNat_inj.mp
  unfold joinWords
  rw [UInt64.toNat_or, UInt64.toNat_shiftLeft, UInt32.toNat_toUInt64, UInt32.toNat_toUInt64,
    UInt64.toNat_toUInt32, UInt64.toNat_toUInt32, UInt64.toNat_shiftRight, hshift, hhigh, hplace,
    Nat.or_comm, ← Nat.shiftLeft_add_eq_or_of_lt hlow, Nat.shiftLeft_eq]
  omega

theorem draw_drawing (bits : UInt64) : (drawing bits).draw.1 = bits := joinWords_halves bits

/-- Every integer between the bounds can come out. -/
theorem exists_integer_eq (hle : low ≤ high) {n : Int64} (hlow : low ≤ n) (hhigh : n ≤ high) :
    ∃ g g' : Generator, g.integer low high = some (n, g') := by
  by_cases hsize : (high - low).toUInt64 + 1 = 0
  · refine ⟨drawing n.toUInt64, (drawing n.toUInt64).draw.2, ?_⟩
    rw [integer_eq _ hle, if_pos hsize, draw_drawing]
    rfl
  · have hdistance := toNat_distance hle
    have habove := toNat_distance hlow
    have hlowInt := Int64.le_iff_toInt_le.mp hlow
    have hhighInt := Int64.le_iff_toInt_le.mp hhigh
    have hbelow : (n - low).toUInt64 < (high - low).toUInt64 + 1 := by
      rw [UInt64.lt_iff_toNat_lt, toNat_size hsize]
      omega
    obtain ⟨bits, hbits⟩ := exists_draw_of_lt hbelow
    refine ⟨drawing bits, (drawing bits).draw.2, ?_⟩
    have hdraw := hbits (drawing bits) (period - 1) (draw_drawing bits)
    have hperiod : period - 1 + 1 = period := Nat.sub_add_cancel (Nat.two_pow_pos 67)
    have hback : low + (n - low).toUInt64.toInt64 = n := by
      rw [Int64.toInt64_toUInt64, Int64.add_comm, Int64.sub_add_cancel]
    rw [hperiod] at hdraw
    rw [integer_eq _ hle, if_neg hsize, hdraw, Option.map_some, hback]

/-- The integers that can come out are those between the bounds, in whichever order these are given. -/
theorem exists_integer_iff (a b n : Int64) :
    (∃ g g' : Generator, g.integer a b = some (n, g')) ↔
      min a.toInt b.toInt ≤ n.toInt ∧ n.toInt ≤ max a.toInt b.toInt := by
  wlog hab : a ≤ b generalizing a b
  · have hba : b ≤ a := (Int64.le_total a b).resolve_left hab
    simp only [integer_comm _ a b, min_comm a.toInt, max_comm a.toInt]
    exact this b a hba
  · have hle := Int64.le_iff_toInt_le.mp hab
    rw [min_eq_left hle, max_eq_right hle, ← Int64.le_iff_toInt_le, ← Int64.le_iff_toInt_le]
    constructor
    · rintro ⟨g, g', h⟩
      exact integer_mem hab h
    · rintro ⟨hlow, hhigh⟩
      exact exists_integer_eq hab hlow hhigh

/-- An index is below the length. -/
theorem index_lt {length i : Nat} (hlength : 0 < length) (h : g.index length = some (i, g')) :
    i < length := by
  obtain ⟨⟨n, g''⟩, hdraw, heq⟩ := Option.map_eq_some_iff.mp h
  obtain ⟨rfl, -⟩ := Prod.mk.inj heq
  by_cases hsize : UInt64.ofNat length = 0
  · rw [hsize] at hdraw
    rw [drawBelow_zero hdraw]
    exact hlength
  · have hlt := UInt64.lt_iff_toNat_lt.mp (drawBelow_lt hsize hdraw)
    rw [UInt64.toNat_ofNat'] at hlt
    exact hlt.trans_le (Nat.mod_le _ _)

end Generator

namespace Builtin

variable {args : List Value} {exec : Exec} {s : Setup} {w v : World} {value : Value}

/-- What is chosen is one of the arguments, at an index that is drawn. -/
theorem exists_index_of_choose (hargs : args ≠ [])
    (h : (choose args).perform exec s w = some (value, v)) :
    ∃ i g, w.generator.index args.length = some (i, g) ∧ args[i]? = some value ∧
      v = { w with generator := g } := by
  have hchoose : choose args = .sample fun g =>
      (g.index args.length).map fun r => ((args[r.1]?).getD .zero, r.2) := by
    cases args with
    | nil => exact absurd rfl hargs
    | cons first rest => rfl
  rw [hchoose] at h
  obtain ⟨r, hr, heq⟩ := Option.map_eq_some_iff.mp h
  obtain ⟨⟨i, g⟩, hindex, rfl⟩ := Option.map_eq_some_iff.mp hr
  obtain ⟨rfl, rfl⟩ := Prod.mk.inj heq
  have hlt := Generator.index_lt (List.length_pos_iff.mpr hargs) hindex
  refine ⟨i, g, hindex, ?_, rfl⟩
  dsimp only
  rw [List.getElem?_eq_getElem hlt, Option.getD_some]

end Builtin

/-- Random integers stay in range. Those that can come out between two bounds, given in either order,
are exactly those from the smaller bound to the larger one, also where these are the ends of the whole
range of 64 bits; an index is below the length; and what is chosen from some arguments is one of
them. -/
theorem random_integers_in_range :
    (∀ a b n : Int64, (∃ g g' : Generator, g.integer a b = some (n, g')) ↔
      min a.toInt b.toInt ≤ n.toInt ∧ n.toInt ≤ max a.toInt b.toInt) ∧
    (∀ (g g' : Generator) (length i : Nat), 0 < length → g.index length = some (i, g') →
      i < length) ∧
    ∀ (exec : Exec) (s : Setup) (w v : World) (args : List Value) (value : Value), args ≠ [] →
      (Builtin.choose args).perform exec s w = some (value, v) →
        ∃ i g, w.generator.index args.length = some (i, g) ∧ i < args.length ∧
          args[i]? = some value := by
  refine ⟨Generator.exists_integer_iff, fun g g' length i hlength h => Generator.index_lt hlength h,
    fun exec s w v args value hargs h => ?_⟩
  obtain ⟨i, g, hindex, hvalue, -⟩ := Builtin.exists_index_of_choose hargs h
  exact ⟨i, g, hindex, Generator.index_lt (List.length_pos_iff.mpr hargs) hindex, hvalue⟩

/-- An index below three, and a choice among three texts. -/
theorem random_integers_in_range_of_three :
    (∃ i g', (Generator.ofSeed 1).index 3 = some (i, g') ∧ i < 3) ∧
      ∃ value v, (Builtin.choose [.str "a", .str "b", .str "c"]).perform (fun _ _ _ _ => none)
          Machine.blank Machine.void = some (value, v) ∧
        ∃ i : Nat, i < 3 ∧ [Value.str "a", .str "b", .str "c"][i]? = some value := by
  have hindexed : ((Generator.ofSeed 1).index 3).isSome := by decide +kernel
  have hchosen : ((Builtin.choose [.str "a", .str "b", .str "c"]).perform (fun _ _ _ _ => none)
      Machine.blank Machine.void).isSome := by
    decide +kernel
  obtain ⟨⟨i, g'⟩, hindex⟩ := Option.isSome_iff_exists.mp hindexed
  obtain ⟨⟨value, v⟩, hchoose⟩ := Option.isSome_iff_exists.mp hchosen
  obtain ⟨-, hbelow, hamong⟩ := random_integers_in_range
  obtain ⟨j, -, -, hj, hvalue⟩ := hamong _ _ _ _ _ _ (List.cons_ne_nil _ _) hchoose
  exact ⟨⟨i, g', hindex, hbelow _ g' 3 i (by decide) hindex⟩, value, v, hchoose, j, hj, hvalue⟩

/-- At the ends of the whole range the draw is the result as it stands. -/
example : ((Generator.drawing 5).integer 9223372036854775807 (-9223372036854775808)).map Prod.fst =
    some 5 := by decide +kernel

end GameRunner

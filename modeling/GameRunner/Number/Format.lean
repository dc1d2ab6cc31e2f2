/-!
# Binary number formats

A binary floating-point format stores a sign, a biased exponent and a significand. This module
reads bit patterns apart and rounds exact quotients back into them, to nearest with ties to an even
significand. The exponent and the significand are stored next to each other, so the pattern of a
rounded magnitude is one sum: a significand that rounds up to the next power of two carries into
the exponent, and an exponent that grows too large reaches the pattern of infinity.
-/

namespace GameRunner.Number

/-- A power of two. -/
def twoTo (n : Nat) : Nat := Nat.pow 2 n

/-- A power of ten. -/
def tenTo (n : Nat) : Nat := Nat.pow 10 n

/-- A binary format with the given numbers of stored significand and exponent bits. -/
structure Format where
  significandBits : Nat
  exponentBits : Nat

/-- What a bit pattern stands for; a finite magnitude is `significand * 2 ^ exponent`. -/
inductive Decoded
  | nan
  | infinite (negative : Bool)
  | finite (negative : Bool) (significand : Nat) (exponent : Int)
  deriving Repr, DecidableEq

namespace Format

/-- Double precision. -/
def double : Format := ⟨52, 11⟩

/-- Single precision. -/
def single : Format := ⟨23, 8⟩

/-- The exponent of the last bit of the smallest positive number. -/
def minExponent (f : Format) : Int :=
  2 - twoTo (f.exponentBits - 1) - f.significandBits

/-- The bit pattern of positive infinity, which follows that of the largest finite number. -/
def infinityBits (f : Format) : Nat :=
  (twoTo f.exponentBits - 1) * twoTo f.significandBits

/-- The bit pattern of the sign alone. -/
def signBit (f : Format) : Nat :=
  twoTo (f.significandBits + f.exponentBits)

/-- What the three fields of a bit pattern stand for. The largest biased exponent is reserved for
infinity and for no number; the smallest one has no implicit leading bit. -/
def ofFields (f : Format) (negative : Bool) (biased stored : Nat) : Decoded :=
  if biased + 1 = twoTo f.exponentBits then
    if stored = 0 then .infinite negative else .nan
  else if biased = 0 then .finite negative stored f.minExponent
  else .finite negative (twoTo f.significandBits + stored) (f.minExponent + (biased - 1 : Nat))

/-- A quotient scaled by `2 ^ (-shift)`, again as numerator and denominator. -/
def scaled (num den : Nat) (shift : Int) : Nat × Nat :=
  if 0 ≤ shift then (num, den * twoTo shift.toNat) else (num * twoTo (-shift).toNat, den)

/-- The nearest integer to `num / den`, an exact half going to the even neighbour. -/
def nearestEven (num den : Nat) : Nat :=
  let q := num / den
  let r := num % den
  if 2 * r < den then q
  else if den < 2 * r then q + 1
  else q + q % 2

/-- The exponent of the last significand bit when `num / den` is stored. -/
def lastExponent (f : Format) (num den : Nat) : Int :=
  let guess := max ((num.log2 : Int) - den.log2 - 1 - f.significandBits) f.minExponent
  let (n, d) := scaled num den guess
  if n / d < twoTo (f.significandBits + 1) then guess else guess + 1

/-- The bit pattern, without sign, of the number of this format nearest to `num / den`. -/
def roundQuotient (f : Format) (num den : Nat) : Nat :=
  if num = 0 then 0
  else
    let e := f.lastExponent num den
    let (n, d) := scaled num den e
    min ((e - f.minExponent).toNat * twoTo f.significandBits + nearestEven n d) f.infinityBits

/-- The bit pattern, without sign, of the number nearest to `significand * 2 ^ exponent`. -/
def roundScaled (f : Format) (significand : Nat) (exponent : Int) : Nat :=
  let (n, d) := scaled significand 1 (-exponent)
  f.roundQuotient n d

/-- Adds the sign to the bit pattern of a magnitude. -/
def withSign (f : Format) (negative : Bool) (magnitude : Nat) : Nat :=
  if negative then f.signBit + magnitude else magnitude

end Format

/-- Takes a double-precision bit pattern apart. -/
def decodeDouble (bits : UInt64) : Decoded :=
  Format.double.ofFields (bits >>> 63 != 0) ((bits >>> 52) &&& 0x7ff).toNat
    (bits &&& 0xfffffffffffff).toNat

/-- Takes a single-precision bit pattern apart. -/
def decodeSingle (bits : UInt32) : Decoded :=
  Format.single.ofFields (bits >>> 31 != 0) ((bits >>> 23) &&& 0xff).toNat (bits &&& 0x7fffff).toNat

end GameRunner.Number

import GameRunner.Number.Format

/-!
# Conversions between reals, integers and single precision

Reals become integers by dropping the fraction; integers outside the target range are replaced by
the nearest end of it, and a number that is no number becomes zero. All conversions go through the
decoded bit pattern.
-/

namespace GameRunner.Number

/-- The decoded bit pattern of a real. -/
def decoded (x : Float) : Decoded :=
  decodeDouble x.toBits

/-- A real with the given bit pattern. -/
def ofBitsNat (bits : Nat) : Float :=
  Float.ofBits (UInt64.ofNat bits)

/-- The real nearest to a signed quotient. -/
def ofQuotient (negative : Bool) (num den : Nat) : Float :=
  ofBitsNat (Format.double.withSign negative (Format.double.roundQuotient num den))

/-- The magnitude `significand * 2 ^ exponent` without its fraction. -/
def wholePart (significand : Nat) (exponent : Int) : Nat :=
  if 0 ≤ exponent then significand <<< exponent.toNat else significand >>> (-exponent).toNat

/-- The integer part of a real, rounded towards zero and confined to `low..high`. -/
def truncateWithin (low high : Int) (x : Float) : Int :=
  match decoded x with
  | .nan => 0
  | .infinite negative => if negative then low else high
  | .finite negative significand exponent =>
    let whole : Int := wholePart significand exponent
    max low (min high (if negative then -whole else whole))

/-- Truncation to 32 bits. -/
def toInt32 (x : Float) : Int32 :=
  Int32.ofInt (truncateWithin (-2147483648) 2147483647 x)

/-- Truncation to 64 bits. -/
def toInt64 (x : Float) : Int64 :=
  Int64.ofInt (truncateWithin (-9223372036854775808) 9223372036854775807 x)

/-- The real equal to a 32-bit integer. -/
def ofInt32 (n : Int32) : Float :=
  Float.ofInt n.toInt

/-- The real nearest to a 64-bit integer. -/
def ofInt64 (n : Int64) : Float :=
  Float.ofInt n.toInt

/-- A single-precision number as a real; no rounding takes place. -/
def widen (x : Float32) : Float :=
  match decodeSingle x.toBits with
  | .nan => ofBitsNat (Format.double.infinityBits + twoTo 51)
  | .infinite negative => ofBitsNat (Format.double.withSign negative Format.double.infinityBits)
  | .finite negative significand exponent =>
    ofBitsNat (Format.double.withSign negative (Format.double.roundScaled significand exponent))

/-- The single-precision bit pattern nearest to a real. -/
def narrowBits (x : Float) : Nat :=
  match decoded x with
  | .nan => Format.single.infinityBits + twoTo 22
  | .infinite negative => Format.single.withSign negative Format.single.infinityBits
  | .finite negative significand exponent =>
    Format.single.withSign negative (Format.single.roundScaled significand exponent)

/-- The single-precision number nearest to a real. -/
def narrow (x : Float) : Float32 :=
  Float32.ofBits (UInt32.ofNat (narrowBits x))

end GameRunner.Number

import GameRunner.Number.Format

/-!
# Shortest decimals

The shortest decimal of a binary number is the one with the fewest digits among those that round
back to it. All reals between the midpoints to the two neighbours round back, and the midpoints
themselves do so when the significand is even. For each number of digits only the two neighbours of
the value on that decimal grid need testing: if any point of the grid lies between the midpoints,
then so does one of these two.
-/

namespace GameRunner.Number

/-- The decimal `digits * 10 ^ exponent`. -/
structure Decimal where
  digits : Nat
  exponent : Int
  deriving Repr, DecidableEq

namespace Decimal

/-- Moves a trailing zero of the digits into the exponent. -/
def trim (d : Decimal) : Decimal :=
  if d.digits ≠ 0 ∧ d.digits % 10 = 0 then ⟨d.digits / 10, d.exponent + 1⟩ else d

end Decimal

/-- A positive value and the midpoints to its neighbours, over a common denominator. -/
structure RoundingInterval where
  low : Nat
  value : Nat
  high : Nat
  den : Nat
  closed : Bool

namespace RoundingInterval

/-- The interval of reals that round to `significand * 2 ^ exponent`. The gap below a power of two
is half the gap above it, except at the smallest exponent. -/
def ofScaled (f : Format) (significand : Nat) (exponent : Int) : RoundingInterval :=
  let narrow := significand = twoTo f.significandBits ∧ f.minExponent < exponent
  let below := if narrow then 1 else 2
  let shift := exponent - 2
  let up := if 0 ≤ shift then twoTo shift.toNat else 1
  let down := if 0 ≤ shift then 1 else twoTo (-shift).toNat
  { low := (4 * significand - below) * up
    value := 4 * significand * up
    high := (4 * significand + 2) * up
    den := down
    closed := significand % 2 = 0 }

/-- Whether the point `q * num / den` lies in the interval. -/
def holds (i : RoundingInterval) (q num den : Nat) : Bool :=
  let point := q * num * i.den
  if i.closed then i.low * den ≤ point && point ≤ i.high * den
  else i.low * den < point && point < i.high * den

/-- Raises `k` while `10 ^ (k + 1)` is at most the value. -/
def climb (i : RoundingInterval) : Nat → Int → Int
  | 0, k => k
  | n + 1, k =>
    let next := k + 1
    let reached :=
      if 0 ≤ next then i.den * tenTo next.toNat ≤ i.value
      else i.den ≤ i.value * tenTo (-next).toNat
    if reached then climb i n next else k

/-- The exponent of the leading decimal digit. The binary logarithm bounds it from below within
three steps. -/
def leadingExponent (i : RoundingInterval) : Int :=
  let bits := (i.value.log2 : Int) - i.den.log2 - 1
  i.climb 4 (Int.fdiv (bits * 30103) 100000 - 1)

/-- The point of the grid of step `10 ^ k` nearest to the value, if one of the value's two
neighbours on the grid lies in the interval; of two equally near points the larger. -/
def onGrid? (i : RoundingInterval) (k : Int) : Option Decimal :=
  let num := if 0 ≤ k then tenTo k.toNat else 1
  let den := if 0 ≤ k then 1 else tenTo (-k).toNat
  let q := i.value * den / (i.den * num)
  let r := i.value * den % (i.den * num)
  match i.holds q num den && 0 < q, i.holds (q + 1) num den with
  | true, true => some ⟨if 2 * r < i.den * num then q else q + 1, k⟩
  | true, false => some ⟨q, k⟩
  | false, true => some ⟨q + 1, k⟩
  | false, false => none

/-- Tries grids from coarse to fine. -/
def search (i : RoundingInterval) (leading : Int) (finest : Nat) : Nat → Option Decimal
  | 0 => none
  | n + 1 => (i.onGrid? (leading - (finest - (n + 1) : Nat))).or (search i leading finest n)

end RoundingInterval

/-- The shortest decimal that rounds to `significand * 2 ^ exponent`. Seventeen digits always
suffice in double precision and nine in single precision. -/
def shortest (f : Format) (significand : Nat) (exponent : Int) : Decimal :=
  let i := RoundingInterval.ofScaled f significand exponent
  match i.search i.leadingExponent 17 17 with
  | some d => d.trim
  | none => ⟨i.value / i.den, 0⟩

end GameRunner.Number

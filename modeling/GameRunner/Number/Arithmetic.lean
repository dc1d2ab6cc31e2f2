import GameRunner.Number.Convert

/-!
# Operations beyond the basic four

The remainder is exact and takes the sign of the dividend. The hypotenuse is the correctly rounded
square root of the exact sum of squares. Minimum and maximum pass over an operand that is no
number, and of the two zeros they take the one that comes second. Subtraction of integers is checked
where nothing keeps the operands small.
-/

namespace GameRunner.Number

/-- The difference of two integers. There is none if it is out of range. -/
def difference? (a b : Int32) : Option Int32 :=
  let d := a.toInt - b.toInt
  if -2147483648 ≤ d ∧ d ≤ 2147483647 then some (Int32.ofInt d) else none

/-- Brings `significand * 2 ^ exponent` to the smaller exponent `target`. -/
def atExponent (significand : Nat) (exponent target : Int) : Nat :=
  significand <<< (exponent - target).toNat

/-- The remainder of `x / y` rounded towards zero. -/
def remainder (x y : Float) : Float :=
  match decoded x, decoded y with
  | .finite negative m e, .finite _ m' e' =>
    if m' = 0 then 0 / 0
    else
      let common := min e e'
      let rest := atExponent m e common % atExponent m' e' common
      ofBitsNat (Format.double.withSign negative (Format.double.roundScaled rest common))
  | .finite .., .infinite _ => x
  | _, _ => 0 / 0

/-- The largest integer whose square is at most `n`, by Newton's iteration from above. -/
def sqrtFrom : Nat → Nat → Nat → Nat
  | 0, _, guess => guess
  | fuel + 1, n, guess =>
    let next := (guess + n / guess) / 2
    if guess ≤ next then guess else sqrtFrom fuel n next

/-- The integer square root. Each step of the iteration that is not the last one halves the error,
so twice the number of bits is more than enough steps. -/
def isqrt (n : Nat) : Nat :=
  if n = 0 then 0 else sqrtFrom (2 * n.log2 + 4) n (twoTo (n.log2 / 2 + 1))

/-- The length of the hypotenuse over two legs. The root is taken with at least sixty bits, and a
last bit records whether it was exact, so a single rounding gives the nearest real. -/
def hypotenuse (x y : Float) : Float :=
  match decoded x, decoded y with
  | .infinite _, _ => ofBitsNat Format.double.infinityBits
  | _, .infinite _ => ofBitsNat Format.double.infinityBits
  | .finite _ m e, .finite _ m' e' =>
    let common := min e e' - 64
    let a := atExponent m e common
    let b := atExponent m' e' common
    let square := a * a + b * b
    let root := isqrt square
    let inexact := if root * root = square then 0 else 1
    ofBitsNat (Format.double.roundScaled (2 * root + inexact) (common - 1))
  | _, _ => 0 / 0

/-- The smaller operand, or the second if none is smaller; one that is no number is passed over. -/
def least (x y : Float) : Float :=
  if x.isNaN then y else if y.isNaN then x else if x < y then x else y

/-- The larger operand, or the second if none is larger; one that is no number is passed over. -/
def greatest (x y : Float) : Float :=
  if x.isNaN then y else if y.isNaN then x else if y < x then x else y

/-- Confines a real to the unit interval. What is no number stays so. -/
def clampUnit (x : Float) : Float :=
  if x < 0 then 0 else if 1 < x then 1 else x

/-- Degrees to radians. -/
def radians (x : Float) : Float :=
  x * (3.14159265358979323846264338327950288 / 180)

/-- Radians to degrees. -/
def degrees (x : Float) : Float :=
  x * 57.2957795130823208767981548141051703

/-- The direction of the vector `(dx, dy)` in degrees, counter-clockwise from the right, where `dy`
grows downwards. -/
def direction (dx dy : Float) : Float :=
  remainder (degrees (Float.atan2 (-dy) dx) + 360) 360

/-- The sine of an angle in degrees. -/
def sinDegrees (x : Float) : Float := Float.sin (radians x)

/-- The cosine of an angle in degrees. -/
def cosDegrees (x : Float) : Float := Float.cos (radians x)

/-- Rounding to the nearest integer, halves upwards. -/
def roundHalfUp (x : Float) : Float := (x + 0.5).floor

end GameRunner.Number

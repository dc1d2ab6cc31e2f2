/-!
# The ChaCha block function with twelve rounds

A block of sixteen words is produced from a key of eight words and a block counter. The words of
blocks zero, one, two and so on form the key stream.
-/

namespace GameRunner.Random

/-- Sixteen words, as four rows of a square. -/
structure Square where
  (a0 a1 a2 a3 b0 b1 b2 b3 c0 c1 c2 c3 d0 d1 d2 d3 : UInt32)

/-- The eight words of a key. -/
structure Key where
  (k0 k1 k2 k3 k4 k5 k6 k7 : UInt32)
  deriving Repr, DecidableEq

/-- Rotation to the left. -/
def rotateLeft (x : UInt32) (n : UInt32) : UInt32 :=
  (x <<< n) ||| (x >>> (32 - n))

/-- The quarter round. -/
def quarterRound (a b c d : UInt32) : UInt32 × UInt32 × UInt32 × UInt32 :=
  let a := a + b
  let d := rotateLeft (d ^^^ a) 16
  let c := c + d
  let b := rotateLeft (b ^^^ c) 12
  let a := a + b
  let d := rotateLeft (d ^^^ a) 8
  let c := c + d
  let b := rotateLeft (b ^^^ c) 7
  (a, b, c, d)

namespace Square

/-- A round over the columns followed by a round over the diagonals. -/
def doubleRound (s : Square) : Square :=
  let (a0, b0, c0, d0) := quarterRound s.a0 s.b0 s.c0 s.d0
  let (a1, b1, c1, d1) := quarterRound s.a1 s.b1 s.c1 s.d1
  let (a2, b2, c2, d2) := quarterRound s.a2 s.b2 s.c2 s.d2
  let (a3, b3, c3, d3) := quarterRound s.a3 s.b3 s.c3 s.d3
  let (a0, b1, c2, d3) := quarterRound a0 b1 c2 d3
  let (a1, b2, c3, d0) := quarterRound a1 b2 c3 d0
  let (a2, b3, c0, d1) := quarterRound a2 b3 c0 d1
  let (a3, b0, c1, d2) := quarterRound a3 b0 c1 d2
  ⟨a0, a1, a2, a3, b0, b1, b2, b3, c0, c1, c2, c3, d0, d1, d2, d3⟩

/-- Word by word addition, row after row. -/
def sumWords (s t : Square) : List UInt32 :=
  [s.a0 + t.a0, s.a1 + t.a1, s.a2 + t.a2, s.a3 + t.a3,
   s.b0 + t.b0, s.b1 + t.b1, s.b2 + t.b2, s.b3 + t.b3,
   s.c0 + t.c0, s.c1 + t.c1, s.c2 + t.c2, s.c3 + t.c3,
   s.d0 + t.d0, s.d1 + t.d1, s.d2 + t.d2, s.d3 + t.d3]

/-- The square before the first round: constants, key, block counter and two zero words. -/
def start (key : Key) (counter : UInt64) : Square :=
  { a0 := 0x61707865, a1 := 0x3320646e, a2 := 0x79622d32, a3 := 0x6b206574
    b0 := key.k0, b1 := key.k1, b2 := key.k2, b3 := key.k3
    c0 := key.k4, c1 := key.k5, c2 := key.k6, c3 := key.k7
    d0 := counter.toUInt32, d1 := (counter >>> 32).toUInt32, d2 := 0, d3 := 0 }

end Square

/-- The sixteen words of one block. -/
def block (key : Key) (counter : UInt64) : List UInt32 :=
  let start := Square.start key counter
  let mixed := start.doubleRound.doubleRound.doubleRound.doubleRound.doubleRound.doubleRound
  mixed.sumWords start

end GameRunner.Random

import GameRunner.Random.ChaCha

/-!
# Random numbers

A generator reads the key stream of a seed two words at a time. Integers in a range are drawn by
widening multiplication: the high half of the product of a draw and the size of the range is the
result, and draws whose low half lies beyond a zone are rejected, which makes all results equally
likely. The stream has a finite period, so a search that rejects a whole period of draws would never
end; it gives `none`.
-/

namespace GameRunner.Random

/-- The steps by which a seed is stretched into a key. -/
def stretchSeed : Nat → UInt64 → List UInt32
  | 0, _ => []
  | n + 1, s =>
    let s := s * 6364136223846793005 + 11634580027462260723
    let x := (((s >>> 18) ^^^ s) >>> 27).toUInt32
    let turn := (s >>> 59).toUInt32
    ((x >>> turn) ||| (x <<< (32 - turn))) :: stretchSeed n s

/-- The key of a seed. -/
def Key.ofSeed (seed : UInt64) : Key :=
  match stretchSeed 8 seed with
  | [k0, k1, k2, k3, k4, k5, k6, k7] => ⟨k0, k1, k2, k3, k4, k5, k6, k7⟩
  | _ => ⟨0, 0, 0, 0, 0, 0, 0, 0⟩

end GameRunner.Random

namespace GameRunner

open GameRunner.Random

/-- A position in a key stream: the words left of the current block and the number of the next one.
A generator is predictable if its seed was chosen. -/
structure Generator where
  key : Key
  next : UInt64
  words : List UInt32
  predictable : Bool
  deriving Repr, DecidableEq

namespace Generator

/-- The generator of a chosen seed. -/
def ofSeed (seed : UInt64) : Generator := ⟨Key.ofSeed seed, 0, [], true⟩

/-- The generator of a seed that nobody chose. -/
def ofEntropy (entropy : UInt64) : Generator := ⟨Key.ofSeed entropy, 0, [], false⟩

/-- Two words as one, the first being the low half. -/
def joinWords (low high : UInt32) : UInt64 :=
  low.toUInt64 ||| (high.toUInt64 <<< 32)

/-- The next 64 bits of the stream. -/
def draw (g : Generator) : UInt64 × Generator :=
  match g.words with
  | low :: high :: rest => (joinWords low high, { g with words := rest })
  | _ =>
    match block g.key g.next with
    | low :: high :: rest => (joinWords low high, { g with next := g.next + 1, words := rest })
    | _ => (0, g)

/-- A real in `[0, n)`, zero for an empty or infinite range. -/
def real (g : Generator) (n : Float) : Float × Generator :=
  if n ≤ 0 || !n.isFinite then (0, g)
  else
    let (bits, g) := g.draw
    ((bits >>> 11).toFloat * 1.1102230246251565e-16 * n, g)

/-- The largest low half that is accepted for a range of the given size. -/
def zone (size : UInt64) : UInt64 :=
  (size <<< (63 - size.toNat.log2).toUInt64) - 1

/-- The first accepted draw among the next `attempts`, as the high half of its product. -/
def drawBelow (size : UInt64) : Nat → Generator → Option (UInt64 × Generator)
  | 0, _ => none
  | attempts + 1, g =>
    let (bits, g) := g.draw
    let product := bits.toNat * size.toNat
    if (UInt64.ofNat product) ≤ zone size then some (UInt64.ofNat (product >>> 64), g)
    else drawBelow size attempts g

/-- The number of draws after which the stream repeats: eight for each value of the counter. -/
def period : Nat := Nat.pow 2 67

/-- An integer between two bounds, both included, given in either order. If the bounds are those of
the whole 64-bit range, a draw is the result as it stands. -/
def integer (g : Generator) (a b : Int64) : Option (Int64 × Generator) :=
  let low := if a ≤ b then a else b
  let high := if a ≤ b then b else a
  let size := (high - low).toUInt64 + 1
  if size = 0 then
    let (bits, g) := g.draw
    some (bits.toInt64, g)
  else (drawBelow size period g).map fun r => (low + r.1.toInt64, r.2)

/-- An index below a positive length. -/
def index (g : Generator) (length : Nat) : Option (Nat × Generator) :=
  (drawBelow (UInt64.ofNat length) period g).map fun r => (r.1.toNat, r.2)

end Generator

end GameRunner

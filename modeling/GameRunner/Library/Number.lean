import GameRunner.Library.Action

/-!
# Numbers, chance and colours

Angles are in degrees, and directions go against the clock although `y` grows downwards. A colour is
an integer with red in its lowest byte, then green, then blue.
-/

namespace GameRunner

namespace Builtin

/-- The sign of a number as a number. -/
def sign (x : Float) : Float := if 0 < x then 1 else if x < 0 then -1 else 0

/-- The square root, zero for what has none. -/
def root (x : Float) : Float := if 0 < x then x.sqrt else 0

/-- Folds all arguments, starting from the first. -/
def foldReals (f : Float → Float → Float) (args : List Value) : Except Fault Float := do
  return (args.map Value.toReal).foldl f (← real args 0)

/-- The vector from the point in the first two arguments to the point in the next two. -/
def vector (args : List Value) : Except Fault (Float × Float) := do
  let x2 ← real args 2
  let x1 ← real args 0
  let y2 ← real args 3
  let y1 ← real args 1
  return (x2 - x1, y2 - y1)

/-- A colour by its parts. -/
def color (args : List Value) : Except Fault Value := do
  let r ← int args 0
  let g ← int args 1
  let b ← int args 2
  return .ofInt (((b &&& 0xff) <<< 16) ||| ((g &&& 0xff) <<< 8) ||| (r &&& 0xff))

/-- A part of a colour, given by the position of its lowest bit. -/
def colorPart (shift color : Int32) : Int32 := (color >>> shift) &&& 0xff

/-- A part of the mixture of two colours, at its place in the mixture. -/
def mixPart (c1 c2 : Int32) (t : Float) (shift : Int32) : Int32 :=
  let a := Number.ofInt32 (colorPart shift c1)
  let b := Number.ofInt32 (colorPart shift c2)
  Number.toInt32 (a + (b - a) * t) <<< shift

/-- The mixture of two colours. -/
def mixColors (args : List Value) : Except Fault Value := do
  let c1 ← int args 0
  let c2 ← int args 1
  let t := Number.clampUnit (← real args 2)
  return .ofInt (mixPart c1 c2 t 0 ||| mixPart c1 c2 t 8 ||| mixPart c1 c2 t 16)

/-- A random integer between two bounds. -/
def sampleInteger (low high : Int64) : Action :=
  .sample fun g => (g.integer low high).map fun r => (.real (Number.ofInt64 r.1), r.2)

/-- The largest integer not above an argument. -/
def floorLong (args : List Value) (index : Nat) : Except Fault Int64 := do
  return Number.toInt64 (← real args index).floor

/-- Draws a seed of 32 bits and starts over with it. -/
def reseed (g : Generator) : Option (Value × Generator) :=
  (g.integer 0 0xffffffff).map fun r =>
    (.real (Number.ofInt64 r.1), .ofSeed r.1.toUInt64)

/-- One of the arguments, by chance. -/
def choose (args : List Value) : Action :=
  if args.isEmpty then .answer .zero
  else .sample fun g => (g.index args.length).map fun r => ((args[r.1]?).getD .zero, r.2)

/-- Functions of random numbers. -/
def chance : FunctionTable :=
  [("random", .action fun args => do
      let n ← real args 0
      return .sample fun g => let r := g.real n; some (.real r.1, r.2)),
    ("random_range", .action fun args => do
      let low ← real args 0
      let high ← real args 1
      return .sample fun g => let r := g.real (high - low); some (.real (low + r.1), r.2)),
    ("irandom", .action fun args => do return sampleInteger 0 (← floorLong args 0)),
    ("irandom_range", .action fun args => do
      let low ← floorLong args 0
      return sampleInteger low (← floorLong args 1)),
    ("choose", .action fun args => .ok (choose args)),
    ("randomize", .action fun _ => .ok (.sample reseed)),
    ("random_set_seed", .action fun args => do
      let seed ← real args 0
      return .sample fun _ => some (.zero, .ofSeed (Number.toInt64 seed).toUInt64))]

/-- Functions of numbers. -/
def numbers : FunctionTable :=
  [("round", number fun args => do return Number.roundHalfUp (← real args 0)),
    ("floor", number fun args => do return (← real args 0).floor),
    ("ceil", number fun args => do return (← real args 0).ceil),
    ("abs", number fun args => do return (← real args 0).abs),
    ("sign", number fun args => do return sign (← real args 0)),
    ("min", number (foldReals Number.least)),
    ("max", number (foldReals Number.greatest)),
    ("clamp", number fun args => do
      let x ← real args 0
      let low ← real args 1
      let high ← real args 2
      return Number.least (Number.greatest x low) high),
    ("sqrt", number fun args => do return root (← real args 0)),
    ("power", number fun args => do return (← real args 0).pow (← real args 1)),
    ("sin", number fun args => do return Number.sinDegrees (← real args 0)),
    ("cos", number fun args => do return Number.cosDegrees (← real args 0)),
    ("degtorad", number fun args => do return Number.radians (← real args 0)),
    ("radtodeg", number fun args => do return Number.degrees (← real args 0)),
    ("point_direction", number fun args => do
      let v ← vector args
      return Number.direction v.1 v.2),
    ("point_distance", number fun args => do
      let v ← vector args
      return Number.hypotenuse v.1 v.2),
    ("lengthdir_x", number fun args => do return (← real args 0) * Number.cosDegrees (← real args 1)),
    ("lengthdir_y", number fun args => do
      return -(← real args 0) * Number.sinDegrees (← real args 1)),
    ("lerp", number fun args => do
      let low ← real args 0
      let high ← real args 1
      let t ← real args 2
      return low + (high - low) * t)]

/-- Functions of colours. -/
def colors : FunctionTable :=
  [("make_color_rgb", compute color),
    ("make_colour_rgb", compute color),
    ("merge_color", compute mixColors),
    ("merge_colour", compute mixColors),
    ("color_get_red", compute fun args => do return .ofInt (colorPart 0 (← int args 0))),
    ("color_get_green", compute fun args => do return .ofInt (colorPart 8 (← int args 0))),
    ("color_get_blue", compute fun args => do return .ofInt (colorPart 16 (← int args 0)))]

end Builtin

end GameRunner

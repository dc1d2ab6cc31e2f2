import GameRunner.Game.Assets
import GameRunner.Number.Arithmetic

/-!
# Moving along paths

A position on a path is the fraction of its length that has been covered. How the position advances
depends on the speed, the length and what is to happen at the ends; this rule is stated for any kind
of number.
-/

namespace GameRunner

namespace Path

/-- The segments of a path; a closed one returns to its first point. -/
def segments (p : Path) : List (PathPoint × PathPoint) :=
  match p.points with
  | [] => []
  | [_] => []
  | first :: rest => (first :: rest).zip (if p.closed then rest ++ [first] else rest)

/-- The length of a segment. -/
def segmentLength (s : PathPoint × PathPoint) : Float :=
  Number.hypotenuse (Number.widen (s.2.x - s.1.x)) (Number.widen (s.2.y - s.1.y))

/-- The length of a path. The sum starts from negative zero, the neutral element of addition. -/
def length (p : Path) : Float :=
  (p.segments.map segmentLength).foldl (· + ·) (-0.0)

/-- The point at a distance from the start of a segment. -/
def pointOn (s : PathPoint × PathPoint) (segment distance : Float) : Float × Float :=
  let t := if 0 < segment then distance / segment else 0
  (Number.widen s.1.x + Number.widen (s.2.x - s.1.x) * t,
    Number.widen s.1.y + Number.widen (s.2.y - s.1.y) * t)

/-- The point at a distance along segments, behind the distance covered before them. The last segment
takes what remains. -/
def pointAlong (target : Float) : Float → List (PathPoint × PathPoint) → Option (Float × Float)
  | _, [] => none
  | covered, s :: rest =>
    let segment := segmentLength s
    if target ≤ covered + segment || rest.isEmpty then some (pointOn s segment (target - covered))
    else pointAlong target (covered + segment) rest

/-- The point at a position on the path. Positions beyond the ends stand for the ends. -/
def pointAt? (p : Path) (position : Float) : Option (Float × Float) :=
  match p.points with
  | [] => none
  | first :: _ =>
    let total := p.length
    if total == 0 then some (Number.widen first.x, Number.widen first.y)
    else pointAlong (Number.clampUnit position * total) 0 p.segments

end Path

/-- What happens at the end of a path. -/
inductive PathEnd
  | stop
  | restart
  | reverse
  deriving Repr, DecidableEq

/-- The action with a number. Going on beyond the end is the same as stopping. -/
def PathEnd.ofInt (n : Int32) : PathEnd :=
  if n = 1 then .restart else if n = 3 then .reverse else .stop

/-- The outcome of a frame on a path: go on at a position with a speed, or leave the path at its
start or end. -/
inductive PathProgress (R : Type)
  | goOn (position speed : R)
  | leave (atEnd : Bool)
  deriving Repr, DecidableEq

/-- Advances a position by a speed along a path of the given length. At either end the path starts
over, or the position bounces back and the speed turns round, or the path is left. -/
def advancePosition {R : Type} [Add R] [Sub R] [Neg R] [Div R] [OfNat R 0] [OfNat R 1] [LE R]
    [DecidableLE R] (action : PathEnd) (position speed length : R) : PathProgress R :=
  let next := position + speed / length
  if 1 ≤ next then
    match action with
    | .restart => .goOn (next - 1) speed
    | .reverse => .goOn (1 - (next - 1)) (-speed)
    | .stop => .leave true
  else if next ≤ 0 then
    match action with
    | .restart => .goOn (next + 1) speed
    | .reverse => .goOn (-next) (-speed)
    | .stop => .leave false
  else .goOn next speed

end GameRunner

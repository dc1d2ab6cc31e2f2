import GameRunner.Number.Arithmetic

/-!
# Boxes

Axis-aligned boxes in room coordinates, where `y` grows downwards. Boxes that only share an edge do
not overlap, but points and rectangles touch a box up to and including its edges.
-/

namespace GameRunner

/-- An axis-aligned box. -/
structure Box where
  left : Float
  right : Float
  top : Float
  bottom : Float

namespace Box

/-- Whether two boxes share more than an edge. -/
def overlaps (a b : Box) : Bool :=
  a.left < b.right && b.left < a.right && a.top < b.bottom && b.top < a.bottom

/-- Whether a point lies in the box or on its edge. -/
def containsPoint (b : Box) (x y : Float) : Bool :=
  b.left ≤ x && x ≤ b.right && b.top ≤ y && y ≤ b.bottom

/-- The box with two opposite corners, given in any order. -/
def ofCorners (x1 y1 x2 y2 : Float) : Box where
  left := Number.least x1 x2
  right := Number.greatest x1 x2
  top := Number.least y1 y2
  bottom := Number.greatest y1 y2

/-- Whether the rectangle between two corners meets the box. -/
def touchesRect (b : Box) (x1 y1 x2 y2 : Float) : Bool :=
  let r := ofCorners x1 y1 x2 y2
  b.left ≤ r.right && r.left ≤ b.right && b.top ≤ r.bottom && r.top ≤ b.bottom

end Box

end GameRunner

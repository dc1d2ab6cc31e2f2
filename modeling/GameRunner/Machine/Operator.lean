import GameRunner.Value

/-!
# Operators

Arithmetic works on reals; bitwise operators truncate both sides to 64-bit integers. Dividing by zero
gives zero. Adding joins texts if one side is a text.
-/

namespace GameRunner

namespace Value

/-- Joins texts or adds reals. -/
def add (a b : Value) : Value :=
  if a.isText || b.isText then .str (a.toText ++ b.toText) else .real (a.toReal + b.toReal)

/-- An operator on reals. -/
def onReals (f : Float → Float → Float) (a b : Value) : Value := .real (f a.toReal b.toReal)

/-- An operator on 64-bit integers. -/
def onLongs (f : Int64 → Int64 → Int64) (a b : Value) : Value :=
  .real (Number.ofInt64 (f a.toLong b.toLong))

/-- The quotient, zero if there is none. -/
def quotient (x y : Float) : Float := if y != 0 then x / y else 0

/-- The remainder, zero if there is none. -/
def rest (x y : Float) : Float := if y != 0 then Number.remainder x y else 0

/-- The number with the other sign. -/
def negate (a : Value) : Value := .real (-a.toReal)

/-- One if the integer part is zero, and zero otherwise. -/
def invert (a : Value) : Value := .ofBool (a.toLong == 0)

/-- The order of two reals; what is no number has no order. -/
def orderOfReals? (x y : Float) : Option Ordering :=
  if x < y then some .lt else if x == y then some .eq else if y < x then some .gt else none

/-- The order of two texts, else of the reals that the values stand for. -/
def order? (a b : Value) : Option Ordering :=
  match a, b with
  | .str s, .str t => some (if s < t then .lt else if s = t then .eq else .gt)
  | _, _ => orderOfReals? a.toReal b.toReal

/-- Whether a comparison holds for an order: less, less or equal, equal, not equal, greater or equal,
greater, counted from one. Where there is no order only "not equal" holds. -/
def holds (kind : UInt8) (order : Option Ordering) : Bool :=
  match order with
  | none => kind == 4
  | some o =>
    match kind with
    | 1 => o == .lt
    | 2 => o != .gt
    | 3 => o == .eq
    | 4 => o != .eq
    | 5 => o != .lt
    | 6 => o == .gt
    | _ => false

/-- The outcome of a comparison as a value. -/
def compareBy (kind : UInt8) (a b : Value) : Value := .ofBool (holds kind (order? a b))

end Value

end GameRunner

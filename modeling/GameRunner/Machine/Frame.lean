import GameRunner.Code.Instruction
import GameRunner.Dict
import GameRunner.Value

/-!
# Frames

A frame is the state of one run of a code entry: the position, the operand stack, local variables and
the `with` blocks that are open. An empty stack gives zeros.
-/

namespace GameRunner

/-- An open `with` block: the instance it is at, those still to come, and what self and other were
outside. -/
structure WithBlock where
  current : Int32
  rest : List Int32
  outerSelf : Int32
  outerOther : Int32
  deriving Repr, DecidableEq

/-- The state of one run of a code entry. Top of the stack and innermost block come first. -/
structure Frame where
  code : Int32
  pc : Nat := 0
  stack : List Value := []
  locals : Dict Int32 Value := .empty
  blocks : List WithBlock := []
  self : Int32
  other : Int32
  /-- The instance that the entry was started on, which gets the returned value. -/
  entrySelf : Int32 := self

namespace Frame

/-- The frame at the start of an entry. -/
def start (code self other : Int32) : Frame := { code, self, other }

/-- Puts a value on the stack. -/
def push (f : Frame) (v : Value) : Frame := { f with stack := v :: f.stack }

/-- The value on top of the stack. -/
def top (f : Frame) : Value := f.stack.head?.getD .zero

/-- Takes the top off the stack. -/
def drop (f : Frame) : Frame := { f with stack := f.stack.tail }

/-- Takes a value from the stack. -/
def pop (f : Frame) : Value × Frame := (f.top, f.drop)

/-- Takes some values from the stack, the top first. -/
def popMany : Nat → Frame → List Value × Frame
  | 0, f => ([], f)
  | n + 1, f =>
    let rest := popMany n f.drop
    (f.top :: rest.1, rest.2)

/-- Applies an operator to the top of the stack. -/
def apply (f : Frame) (op : Value → Value) : Frame := f.drop.push (op f.top)

/-- Applies an operator to the two values on top of the stack, the upper one being the right side. -/
def combine (f : Frame) (op : Value → Value → Value) : Frame :=
  f.drop.drop.push (op f.drop.top f.top)

/-- Repeats the topmost values of the stack. -/
def duplicate (f : Frame) (count : Nat) : Frame := { f with stack := f.stack.take count ++ f.stack }

/-- Opens a `with` block on an instance and those to come after it. -/
def enter (f : Frame) (first : Int32) (rest : List Int32) : Frame :=
  { f with
    blocks := ⟨first, rest, f.self, f.other⟩ :: f.blocks
    self := first
    other := f.self }

end Frame

end GameRunner

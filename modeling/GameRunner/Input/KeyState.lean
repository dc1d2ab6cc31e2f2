import GameRunner.Input.KeySet

/-!
# Keyboard and mouse state

The host reports keys going down and up. Besides the keys that are held, the state keeps which ones
went down and which went up since the last frame, the key that counts as current and the key that
was pressed last.
-/

namespace GameRunner

/-- The key code that stands for no key. -/
def noKey : Int32 := 0

/-- The key code that stands for any key. -/
def anyKey : Int32 := 1

/-- What is known of the keyboard and the mouse. -/
structure KeyState where
  held : KeySet := .empty
  pressed : KeySet := .empty
  released : KeySet := .empty
  current : Int32 := 0
  last : Int32 := 0
  mouseX : Float := 0
  mouseY : Float := 0

namespace KeyState

/-- The current key when the given keys are held: the one added last. -/
def currentOf (held : KeySet) : Int32 := held.last?.getD noKey

/-- A key goes down. One that is held already is not pressed again. -/
def keyDown (s : KeyState) (k : Int32) : KeyState :=
  { s with
    pressed := if s.held.contains k then s.pressed else s.pressed.insert k
    held := s.held.insert k
    current := k
    last := k }

/-- A key goes up. -/
def keyUp (s : KeyState) (k : Int32) : KeyState :=
  let held := s.held.erase k
  { s with
    released := if s.held.contains k then s.released.insert k else s.released
    held
    current := currentOf held }

/-- Forgets what happened since the last frame. -/
def nextFrame (s : KeyState) : KeyState :=
  { s with pressed := .empty, released := .empty }

/-- Forgets a key altogether. -/
def clearKey (s : KeyState) (k : Int32) : KeyState :=
  let held := s.held.erase k
  { s with
    held
    pressed := s.pressed.erase k
    released := s.released.erase k
    current := currentOf held }

/-- Makes the given keys the held ones; what differs from before was pressed or released. -/
def holdExactly (s : KeyState) (keys : List Int32) : KeyState :=
  let held := KeySet.ofList keys
  let pressed := held.difference s.held
  { s with
    held
    pressed
    released := s.held.difference held
    current := currentOf held
    last := pressed.last?.getD s.last }

/-- Whether a key is in a set, where two key codes stand for none and for any. -/
def check (set : KeySet) (k : Int32) : Bool :=
  if k = noKey then set.isEmpty
  else if k = anyKey then !set.isEmpty
  else set.contains k

/-- Whether a key is held. -/
def isHeld (s : KeyState) (k : Int32) : Bool := check s.held k

/-- Whether a key was pressed since the last frame. -/
def isPressed (s : KeyState) (k : Int32) : Bool := check s.pressed k

/-- Whether a key was released since the last frame. -/
def isReleased (s : KeyState) (k : Int32) : Bool := check s.released k

end KeyState

end GameRunner

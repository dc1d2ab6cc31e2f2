import GameRunner.Game.Basic

/-!
# Lineages

An object inherits from its parent, which may have a parent in turn. An event is handled by the first
object of the lineage that has a handler for it.
-/

namespace GameRunner

/-! Event types are positions in an object's event table. -/

namespace EventType

/-- An instance has been created. -/
def create : Nat := 0

/-- An instance is about to be destroyed. -/
def destroy : Nat := 1

/-- An alarm has run down; the subtype is its number. -/
def alarm : Nat := 2

/-- A frame passes. -/
def step : Nat := 3

/-- Two instances overlap; the subtype is the object of the other one. -/
def collision : Nat := 4

/-- Anything else; the subtype tells what. -/
def misc : Nat := 7

/-- An instance is drawn. -/
def draw : Nat := 8

/-- A key has been pressed; the subtype is the key. -/
def keyPress : Nat := 9

end EventType

/-! Subtypes of the step event. -/

namespace StepEvent

/-- The event itself. -/
def normal : Int32 := 0

/-- The event at the start of a frame. -/
def first : Int32 := 1

/-- The event after collisions. -/
def last : Int32 := 2

end StepEvent

/-! Subtypes of the events that have no type of their own. -/

namespace MiscEvent

/-- An instance has left the room. -/
def outsideRoom : Int32 := 0

/-- The first room is entered. -/
def gameStart : Int32 := 2

/-- A room has been entered. -/
def roomStart : Int32 := 4

/-- A room is about to be left. -/
def roomEnd : Int32 := 5

/-- An animation starts over. -/
def animationEnd : Int32 := 7

end MiscEvent

/-- The longest lineage that is followed, which also ends parent links that run in a circle. -/
def maxLineage : Nat := 32

namespace Game

/-- The first objects of a lineage with their indices, from an object up to its farthest ancestor. -/
def lineageUpTo (g : Game) : Nat → Int32 → List (Int32 × GameObject)
  | 0, _ => []
  | n + 1, object =>
    match g.object? object with
    | none => []
    | some o => (object, o) :: lineageUpTo g n o.parent

/-- The lineage of an object. -/
def lineage (g : Game) (object : Int32) : List (Int32 × GameObject) :=
  g.lineageUpTo maxLineage object

/-- Whether an object descends from another through at least one parent link. -/
def descends (g : Game) (object ancestor : Int32) : Bool :=
  (g.lineage object).any fun o => o.2.parent = ancestor

/-- Whether an object is another one or descends from it. -/
def isKindOf (g : Game) (object kind : Int32) : Bool :=
  object = kind || g.descends object kind

/-- The first handler of an event in a lineage, and the object that has it. -/
def handlerIn? (type : Nat) (subtype : Int32) (lineage : List (Int32 × GameObject)) :
    Option (Int32 × EventHandler) :=
  lineage.findSome? fun o => (o.2.handler? type subtype).map fun h => (o.1, h)

/-- The nearest handler of an event from an object upwards. -/
def handler? (g : Game) (object : Int32) (type : Nat) (subtype : Int32) :
    Option (Int32 × EventHandler) :=
  handlerIn? type subtype (g.lineage object)

/-- The objects that a lineage has collision handlers for, nearest first and each once. -/
def collisionTargets (g : Game) (object : Int32) : List Int32 :=
  ((g.lineage object).flatMap fun o =>
    ((o.2.events[EventType.collision]?).getD []).map (·.subtype)).eraseDups

end Game

end GameRunner

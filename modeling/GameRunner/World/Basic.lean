import GameRunner.Collections
import GameRunner.Game.Lineage
import GameRunner.Input.Recording
import GameRunner.Instance.Roster
import GameRunner.Program.Basic
import GameRunner.Random.Generator
import GameRunner.Screen.Basic
import GameRunner.Settings

/-!
# The world

The setup is what stays the same while a game is played: its tables, its program and the settings. The
world is everything that changes: the instances, the global variables, the room, the input, what is
on the screen and so on.
-/

namespace GameRunner

/-- What stays the same while a game is played. -/
structure Setup where
  game : Game
  program : Program
  settings : Settings

/-- The event whose code is running, and the object of the lineage that handles it. -/
structure EventContext where
  type : Nat
  subtype : Int32
  object : Int32
  deriving Repr, DecidableEq

/-- The time in milliseconds since the start of the game and since the start of the year 1970, as
told by the host. -/
structure Clock where
  elapsed : Float := 0
  unix : Float := 0

/-- Script calls may be nested this deep. -/
def maxCallDepth : Nat := 64

/-- Everything that changes while a game is played. -/
structure World where
  instances : Roster := .empty
  globals : Dict String Value := .empty
  /-- The current room, `-1` before the first one is entered. -/
  room : Int32 := -1
  /-- The views of the current room, which code may change. -/
  views : List View := []
  /-- The room to be entered when the next frame starts. -/
  pendingRoom : Option Int32 := none
  /-- Every instance that was ever made has a smaller id. -/
  nextId : Int32 := firstInstanceId
  /-- For each room, whether it counts as persistent. -/
  roomPersistent : List Bool := []
  currentView : Int32 := 0
  keys : KeyState := {}
  recording : Option Recording := none
  playback : Option Playback := none
  /-- The number of frames played. -/
  frame : Nat := 0
  /-- Whether a room has been entered. -/
  started : Bool := false
  /-- Whether the game has asked to be ended. -/
  quit : Bool := false
  event : Option EventContext := none
  /-- The instance for which a function is being called. -/
  self : Option Int32 := none
  /-- The other instance for that function. -/
  other : Option Int32 := none
  screen : Screen := {}
  pen : Pen := {}
  collections : Collections := {}
  generator : Generator
  /-- Names of functions that do not exist and have been reported. -/
  unknownNames : List String := []
  /-- The number of script calls that are being made. -/
  callDepth : Nat := 0
  /-- The number of code entries that were cut off because they ran too long. -/
  cutOff : Nat := 0
  clock : Clock := {}
  journal : Journal := .silent

/-- Runs a code entry on an instance, with another one to go with it or else the same one. There is
no result if the run does not come to an end, or if it breaks off because a number is out of range:
the program cannot go on then. -/
abbrev Exec := World → (code self : Int32) → (other : Option Int32) → Option World

namespace World

/-- The world before the first frame of a game. The entropy is used unless a seed is set. -/
def start (s : Setup) (entropy : UInt64) (journal : Journal) : World where
  roomPersistent := s.game.rooms.toList.map (·.persistent)
  generator :=
    match s.settings.rngSeed with
    | some seed => .ofSeed seed
    | none => .ofEntropy entropy
  journal := journal

/-- Reports a line. -/
def log (w : World) (s : Severity) (line : Unit → String) : World :=
  if w.journal.keeps s then { w with journal := w.journal.add s line } else w

/-- The instance with an id. -/
def instance? (w : World) (id : Int32) : Option Instance := w.instances.get? id

/-- Whether there is a live instance with an id. -/
def isLive (w : World) (id : Int32) : Bool := w.instances.isLive id

/-- The ids of the live instances in order. -/
def liveIds (w : World) : List Int32 := w.instances.liveIds

/-- Changes the instance with an id. -/
def modify (w : World) (id : Int32) (f : Instance → Instance) : World :=
  { w with instances := w.instances.modify id f }

/-- Changes every live instance. -/
def mapLive (w : World) (f : Instance → Instance) : World :=
  { w with instances := w.instances.map fun i => if i.live then f i else i }

/-- Draws, and reports what is drawn. -/
def paint (w : World) (c : DrawCommand) : World :=
  { w with screen := w.screen.add c, journal := Screen.report c w.journal }

/-- Asks for a room to be entered when the next frame starts. An earlier request is forgotten. -/
def gotoRoom (g : Game) (w : World) (index : Int32) : World :=
  let w := w.log .debug fun _ =>
    let name := ((g.room? index).map (·.name)).getD "<invalid>"
    s!"goto_room({index} = {name}) at frame {w.frame}"
  { w with pendingRoom := some index }

/-- The instance that an object's definition makes of a new instance. -/
def dress (g : Game) (i : Instance) : Instance :=
  match g.object? i.objectIndex with
  | none => i
  | some o =>
    { i with
      spriteIndex := o.sprite
      visible := o.visible
      solid := o.solid
      depth := o.depth
      persistent := o.persistent
      maskIndex := o.mask }

/-- Adds an instance under an id. The next free id stays above it. -/
def addInstance (g : Game) (w : World) (id object : Int32) (x y : Float) : World :=
  { w with
    instances := w.instances.insert (dress g (.create id object x y))
    nextId := if w.nextId ≤ id then id + 1 else w.nextId }

/-- Adds an instance under a given id or else under the next free one. No event happens. -/
def create (g : Game) (w : World) (object : Int32) (x y : Float) (id? : Option Int32) :
    Int32 × World :=
  let id := id?.getD w.nextId
  (id, addInstance g w id object x y)

end World

end GameRunner

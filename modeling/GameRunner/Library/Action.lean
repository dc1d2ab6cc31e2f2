import GameRunner.Event.Fire
import GameRunner.Fault
import GameRunner.World.Variables

/-!
# Functions of the library

Game code calls functions of a library by name. A function first reads its arguments, which can fail
if there are too few of them, and so arrives at an action. Performing the action has no faults, but
there are some that break off the whole run. An action says which part of the world it is about: most
compute a value and touch nothing.
-/

namespace GameRunner

/-- What a library function does once it has read its arguments. -/
inductive Action
  /-- Gives a value. -/
  | answer (v : Value)
  /-- Gives a value, or breaks off because a number is out of range. -/
  | attempt (v : Option Value)
  /-- Gives a value that depends on the world. -/
  | query (f : Setup → World → Value)
  /-- Draws random numbers; this may not come to an end. -/
  | sample (f : Generator → Option (Value × Generator))
  /-- Works on the collections. -/
  | collect (f : Collections → Value × Collections)
  /-- Changes how things are drawn. -/
  | setPen (f : Pen → Pen)
  /-- Draws something, if there is something to be drawn. -/
  | paint (f : Setup → World → Option DrawCommand)
  /-- Forgets a key. -/
  | clearKey (key : Int32)
  /-- Stores a global variable. -/
  | setGlobal (name : String) (v : Value)
  /-- Reports a line. -/
  | say (line : String)
  /-- Ends the game. -/
  | quit
  /-- Asks for a room, which may depend on the current one. -/
  | gotoRoom (f : Int32 → Int32)
  /-- Moves the calling instance. -/
  | moveTo (x y : Float)
  /-- Puts the calling instance on a path. -/
  | startPath (path : Int32) (speed : Float) (endAction : Int32) (absolute : Bool)
  /-- Takes the calling instance off its path. -/
  | leavePath
  /-- Makes an instance. -/
  | create (object : Int32) (x y : Float)
  /-- Destroys the calling instance. -/
  | destroy
  /-- Runs the handler above the one that is running. -/
  | inherit

/-- A library function: an action for its arguments, or the one that runs a script given by number. -/
inductive Builtin
  | action (plan : List Value → Except Fault Action)
  | runScript

/-- Part of the library: functions by name. -/
abbrev FunctionTable := List (String × Builtin)

namespace Builtin

/-- An argument, which must be there. -/
def arg (args : List Value) (index : Nat) : Except Fault Value :=
  match args[index]? with
  | some v => .ok v
  | none => .error (.missingArgument index args.length)

/-- An argument as a real. -/
def real (args : List Value) (index : Nat) : Except Fault Float := (arg args index).map Value.toReal

/-- An argument as an integer. -/
def int (args : List Value) (index : Nat) : Except Fault Int32 := (arg args index).map Value.toInt

/-- An argument as a text. -/
def text (args : List Value) (index : Nat) : Except Fault String := (arg args index).map Value.toText

/-- A function that computes its value from its arguments. -/
def compute (f : List Value → Except Fault Value) : Builtin :=
  .action fun args => (f args).map .answer

/-- A function that computes its value from its arguments unless a number is out of range. -/
def attempting (f : List Value → Except Fault (Option Value)) : Builtin :=
  .action fun args => (f args).map .attempt

/-- A function that computes a real from its arguments. -/
def number (f : List Value → Except Fault Float) : Builtin :=
  compute fun args => (f args).map .real

/-- A function that always gives the same value. -/
def constant (v : Value) : Builtin := .action fun _ => .ok (.answer v)

/-- A function that looks at the world. -/
def asking (f : List Value → Except Fault (Setup → World → Value)) : Builtin :=
  .action fun args => (f args).map .query

end Builtin

namespace Instance

/-- Puts an instance on a path that starts at a point. Unless the path is absolute, it is shifted so
that it starts where the instance is. -/
def startPath (i : Instance) (path : Int32) (speed : Float) (endAction : Int32) (absolute : Bool)
    (start : PathPoint) : Instance :=
  let x := Number.widen start.x
  let y := Number.widen start.y
  let i := { i with
    pathIndex := path
    pathSpeed := speed
    pathEndAction := endAction
    pathPosition := 0 }
  if absolute then { i with pathXOffset := 0, pathYOffset := 0, x, y }
  else { i with pathXOffset := i.x - x, pathYOffset := i.y - y }

end Instance

namespace World

/-- Changes the calling instance, if there is one. -/
def modifySelf (w : World) (f : Instance → Instance) : World :=
  match w.self with
  | some id => w.modify id f
  | none => w

/-- Puts the calling instance on a path. -/
def startPath (g : Game) (w : World) (path : Int32) (speed : Float) (endAction : Int32)
    (absolute : Bool) : World :=
  match w.self with
  | none => w
  | some id =>
    match w.instances.contains id, ((g.path? path).bind fun p => p.points.head?) with
    | true, some start => w.modify id fun i => i.startPath path speed endAction absolute start
    | _, _ => w.log .debug fun _ => s!"path_start: no path {path} or no calling instance"

end World

/-- Performs an action. There is no result if it breaks off, or if code that it runs, or the search
for a random number, does not come to an end. -/
def Action.perform (exec : Exec) (s : Setup) (w : World) : Action → Option (Value × World)
  | .answer v => some (v, w)
  | .attempt v => v.map fun v => (v, w)
  | .query f => some (f s w, w)
  | .sample f => (f w.generator).map fun r => (r.1, { w with generator := r.2 })
  | .collect f =>
    let r := f w.collections
    some (r.1, { w with collections := r.2 })
  | .setPen f => some (.zero, { w with pen := f w.pen })
  | .paint f =>
    match f s w with
    | some c => some (.zero, w.paint c)
    | none => some (.zero, w)
  | .clearKey key => some (.zero, { w with keys := w.keys.clearKey key })
  | .setGlobal name v => some (.zero, { w with globals := w.globals.insert name v })
  | .say line => some (.zero, w.log .info fun _ => line)
  | .quit =>
    some (.zero, { w.log .info fun _ => s!"game_end() at frame {w.frame}" with quit := true })
  | .gotoRoom f => some (.zero, w.gotoRoom s.game (f w.room))
  | .moveTo x y => some (.zero, w.modifySelf fun i => { i with x, y })
  | .startPath path speed endAction absolute =>
    some (.zero, w.startPath s.game path speed endAction absolute)
  | .leavePath => some (.zero, w.modifySelf Instance.stopPath)
  | .create object x y => do
    let (id, w) ← w.spawn exec s object x y
    return (.ofInt id, w.log .debug fun _ =>
      s!"instance_create({s.game.objectName object}) -> {id}")
  | .destroy =>
    match w.self with
    | some id => (w.destroy exec s id).map fun w => (.zero, w)
    | none => some (.zero, w)
  | .inherit =>
    match w.self with
    | some id => (w.fireInherited exec s id w.other).map fun w => (.zero, w)
    | none => some (.zero, w)

end GameRunner

import GameRunner.World.Basic

/-!
# Events

An event on an instance runs the code of the nearest handler in the lineage of its object, and of no
other one. While this code runs it can ask for the handler above its own.
-/

namespace GameRunner

namespace World

/-- Runs code entries one after the other on an instance. -/
def runAll (exec : Exec) (id : Int32) (other : Option Int32) : List Int32 → World → Option World
  | [], w => some w
  | code :: rest, w => do runAll exec id other rest (← exec w code id other)

/-- Runs code as part of an event; afterwards the event that was running before is running again. -/
def during (w : World) (context : EventContext) (run : World → Option World) : Option World := do
  let after ← run { w with event := some context }
  return { after with event := w.event }

/-- Runs the nearest handler of an event from an object upwards. -/
def runHandler (exec : Exec) (g : Game) (w : World) (id object : Int32) (type : Nat)
    (subtype : Int32) (other : Option Int32) : Option World :=
  match g.handler? object type subtype with
  | none => some w
  | some (handling, handler) =>
    w.during ⟨type, subtype, handling⟩ (runAll exec id other (handler.actions.filter (0 ≤ ·)))

/-- An optional id as it stands in a report. -/
def idText : Option Int32 → String
  | none => "None"
  | some id => s!"Some({id})"

/-- Reports an event if the settings ask for it. -/
def reportEvent (s : Setup) (w : World) (id object : Int32) (type : Nat) (subtype : Int32)
    (other : Option Int32) : World :=
  let name := s.game.objectName object
  if s.settings.trace.tracesEvents name then
    w.log .debug fun _ =>
      s!"event ({type}, {subtype}) on {name} ({id}) other=" ++ idText other ++ s!" frame={w.frame}"
  else w

/-- An event happens to an instance. -/
def fire (exec : Exec) (s : Setup) (w : World) (id : Int32) (type : Nat) (subtype : Int32)
    (other : Option Int32) : Option World :=
  match w.instance? id with
  | none => some w
  | some i =>
    runHandler exec s.game (reportEvent s w id i.objectIndex type subtype other) id i.objectIndex
      type subtype other

/-- Runs the handler above the one that is running. -/
def fireInherited (exec : Exec) (s : Setup) (w : World) (id : Int32) (other : Option Int32) :
    Option World :=
  match w.event with
  | none => some w
  | some context =>
    match s.game.object? context.object with
    | none => some w
    | some o => runHandler exec s.game w id o.parent context.type context.subtype other

/-- Takes instances in turn, except those that are not live when their turn comes. -/
def visitLive (visit : World → Int32 → Option World) (w : World) (ids : List Int32) :
    Option World :=
  ids.foldlM (fun w id => if w.isLive id then visit w id else some w) w

/-- An event happens to every instance that is live now and still is when its turn comes. -/
def dispatch (exec : Exec) (s : Setup) (w : World) (type : Nat) (subtype : Int32) : Option World :=
  w.visitLive (fun w id => w.fire exec s id type subtype none) w.liveIds

/-- Makes an instance and lets it handle its creation. -/
def spawn (exec : Exec) (s : Setup) (w : World) (object : Int32) (x y : Float) :
    Option (Int32 × World) := do
  let (id, w) := w.create s.game object x y none
  return (id, ← w.fire exec s id EventType.create 0 none)

/-- Lets an instance handle its end and marks it as destroyed, unless it is already. It stays in the
roster until the frame ends. -/
def destroy (exec : Exec) (s : Setup) (w : World) (id : Int32) : Option World :=
  if w.isLive id then do
    let w ← w.fire exec s id EventType.destroy 0 none
    return w.modify id fun i => { i with destroyed := true }
  else some w

end World

end GameRunner

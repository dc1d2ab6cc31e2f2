import GameRunner.Library.Table

/-!
# Calls

A function name means a function of the library or else a script of the game. A script finds its
arguments as variables on the calling instance; what these variables held before is put back when the
script ends.
-/

namespace GameRunner

namespace World

/-- The outcome of a call. A fault is passed on to the code that made the call. There is nothing if
the call does not come to an end or breaks off. -/
abbrev CallResult := Option (Except Fault Value × World)

/-- The variables through which a script sees its arguments. -/
def bindings (args : List Value) : List (String × Value) :=
  args.zipIdx.map (fun a => (s!"argument{a.2}", a.1)) ++
    [("argument_count", .ofNat args.length), ("argument", .ofList args)]

/-- What variables hold at the moment. -/
def saved (names : List String) (d : Dict String Value) : List (String × Option Value) :=
  names.map fun name => (name, d.get? name)

/-- Gives variables values. -/
def bind (bindings : List (String × Value)) (d : Dict String Value) : Dict String Value :=
  bindings.foldl (fun d b => d.insert b.1 b.2) d

/-- Gives variables back what they held, or removes them. -/
def restore (saved : List (String × Option Value)) (d : Dict String Value) : Dict String Value :=
  saved.foldl (fun d b => d.put b.1 b.2) d

/-- Runs a script on an instance. -/
def callScript (exec : Exec) (w : World) (code : Int32) (args : List Value) (self other : Int32) :
    CallResult :=
  if maxCallDepth ≤ w.callDepth then some (.error (.callDepthExceeded maxCallDepth), w)
  else
    match w.instance? self with
    | none => some (.error (.noSuchInstance self), w)
    | some i =>
      let old := saved ((bindings args).map Prod.fst) i.vars
      let entered := w.modify self fun i =>
        { i with vars := bind (bindings args) i.vars, returned := none }
      match exec { entered with callDepth := w.callDepth + 1 } code self (some other) with
      | none => none
      | some after =>
        let after := { after with callDepth := after.callDepth - 1 }
        match after.instance? self with
        | none => some (.ok .zero, after)
        | some i =>
          some (.ok (i.returned.getD .zero), after.modify self fun i =>
            { i with vars := restore old i.vars, returned := none })

/-- Reports a function that does not exist, the first time it is called. -/
def reportUnknown (w : World) (name : String) (count : Nat) : World :=
  if w.unknownNames.contains name then w
  else
    { w.log .warn fun _ => s!"Unknown function '{name}' with {count} args" with
      unknownNames := name :: w.unknownNames }

/-- Reports a call if the settings ask for it. Arguments are cut after thirty characters. -/
def reportCall (s : Setup) (w : World) (name : String) (args : List Value) (self : Int32) : World :=
  if s.settings.trace.calls.isEmpty then w
  else
    let object := ((w.instance? self).map fun i => s.game.objectName i.objectIndex).getD "<none>"
    if s.settings.trace.tracesCalls object name then
      w.log .debug fun _ =>
        let shown := args.map fun a => String.ofList (a.toText.toList.take 30)
        s!"CALL ({object}): {name}(" ++ ", ".intercalate shown ++ ")"
    else w

/-- The script with a number, and the instance to run it on: the calling one or else the first. -/
def scriptTarget? (s : Setup) (w : World) (index : Int32) : Option (String × Int32) :=
  (tableAt? s.game.scripts index).bind fun script =>
    ((w.self.orElse fun _ => w.instances.ids.head?)).map fun id => (script.name, id)

/-- Reports a script that cannot be run. -/
def reportNoScript (w : World) (index : Int32) : World :=
  w.log .debug fun _ => s!"script_execute({index}) with no script or no instance"

/-- Sets who calls a function while it runs. -/
def asCaller (w : World) (self other : Int32) (run : World → CallResult) : CallResult :=
  (run { w with self := some self, other := some other }).map fun r =>
    (r.1, { r.2 with self := w.self, other := w.other })

/-- Performs what a library function with a plan does. -/
def callAction (exec : Exec) (s : Setup) (w : World) (plan : List Value → Except Fault Action)
    (args : List Value) : CallResult :=
  match plan args with
  | .error fault => some (.error fault, w)
  | .ok action => (action.perform exec s w).map fun r => (.ok r.1, r.2)

/-- Calls a function by name. A script that is run by number is called by its name, with the
arguments behind the number. -/
def call (exec : Exec) (s : Setup) (w : World) (name : String) (args : List Value)
    (self other : Int32) : CallResult :=
  (w.reportCall s name args self).asCaller self other fun w =>
    match Builtin.named? name with
    | some (.action plan) => w.callAction exec s plan args
    | some .runScript =>
      match args with
      | [] => some (.error (.missingArgument 0 0), w)
      | index :: rest =>
        match w.scriptTarget? s index.toInt with
        | some (script, id) => call exec s w script rest id id
        | none => some (.ok .zero, w.reportNoScript index.toInt)
    | none =>
      match s.program.scriptCode? name with
      | some code => w.callScript exec code args self other
      | none => some (.ok .zero, w.reportUnknown name args.length)

/-- Calls a function of the library directly, on behalf of nobody in particular. -/
def callBuiltin (exec : Exec) (s : Setup) (w : World) (b : Builtin) (args : List Value) :
    CallResult :=
  match b with
  | .action plan => w.callAction exec s plan args
  | .runScript =>
    match args with
    | [] => some (.error (.missingArgument 0 0), w)
    | index :: rest =>
      match w.scriptTarget? s index.toInt with
      | some (script, id) => w.call exec s script rest id id
      | none => some (.ok .zero, w.reportNoScript index.toInt)

end World

end GameRunner

import GameRunner.Proofs.Event.Inheritance
import GameRunner.Proofs.World.PendingRoom

/-!
# Which rooms code asks for

Code asks for a room by calling one of a few library functions, directly or through scripts, events
and instances that it creates or destroys. The rooms that a run asks for are listed in order, along
the same way that the run takes. The room that is to be entered after the run is the last one of the
list; if the list is empty, it is the one from before.
-/

namespace GameRunner

/-- Tells which rooms a code entry asks for while it runs, in order. -/
abbrev Requests := World → (code self : Int32) → (other : Option Int32) → List Int32

namespace World

/-- After rooms have been asked for, the last of them is the one to be entered. -/
def Asks (w : World) (rooms : List Int32) (v : World) : Prop :=
  v.pendingRoom = rooms.getLast?.or w.pendingRoom

namespace Asks

variable {w v u : World} {rooms rooms' : List Int32}

theorem of_eq (h : v.pendingRoom = w.pendingRoom) : w.Asks [] v := h

theorem trans (h : w.Asks rooms v) (h' : v.Asks rooms' u) : w.Asks (rooms ++ rooms') u := by
  unfold Asks at h h' ⊢
  rw [h', h, List.getLast?_append, Option.or_assoc]

theorem before (hwv : v.pendingRoom = w.pendingRoom) (h : v.Asks rooms u) : w.Asks rooms u :=
  Eq.trans h (congrArg (rooms.getLast?.or ·) hwv)

theorem after (h : w.Asks rooms v) (hvu : u.pendingRoom = v.pendingRoom) : w.Asks rooms u :=
  hvu.trans h

theorem gotoRoom (g : Game) (w : World) (index : Int32) : w.Asks [index] (w.gotoRoom g index) := rfl

end Asks

end World

/-- Code that is run asks for the rooms that are told of it. -/
def Exec.Follows (exec : Exec) (asked : Requests) : Prop :=
  ∀ w code self other v, exec w code self other = some v → w.Asks (asked w code self other) v

/-! ### The rooms that are asked for -/

namespace World

section Listing

variable (exec : Exec) (asked : Requests) (s : Setup)

def requestsOfAll (id : Int32) (other : Option Int32) : List Int32 → World → List Int32
  | [], _ => []
  | code :: rest, w =>
    asked w code id other ++ (exec w code id other).elim [] (requestsOfAll id other rest)

def requestsOfHandler (w : World) (id object : Int32) (type : Nat) (subtype : Int32)
    (other : Option Int32) : List Int32 :=
  match s.game.handler? object type subtype with
  | none => []
  | some (handling, handler) =>
    requestsOfAll exec asked id other (handler.actions.filter (0 ≤ ·))
      { w with event := some ⟨type, subtype, handling⟩ }

def requestsOfEvent (w : World) (id : Int32) (type : Nat) (subtype : Int32)
    (other : Option Int32) : List Int32 :=
  match w.instance? id with
  | none => []
  | some i =>
    requestsOfHandler exec asked s (reportEvent s w id i.objectIndex type subtype other) id
      i.objectIndex type subtype other

def requestsOfInherited (w : World) (id : Int32) (other : Option Int32) : List Int32 :=
  match w.event with
  | none => []
  | some context =>
    match s.game.object? context.object with
    | none => []
    | some o =>
      requestsOfHandler exec asked s w id o.parent context.type context.subtype other

def requestsOfSpawn (w : World) (object : Int32) (x y : Float) : List Int32 :=
  requestsOfEvent exec asked s (w.create s.game object x y none).2
    (w.create s.game object x y none).1 EventType.create 0 none

def requestsOfDestroy (w : World) (id : Int32) : List Int32 :=
  if w.isLive id then requestsOfEvent exec asked s w id EventType.destroy 0 none else []

/-- Only one kind of action asks for a room by itself; some others run code that may do so. -/
def requestsOfAction (w : World) : Action → List Int32
  | .gotoRoom f => [f w.room]
  | .create object x y => requestsOfSpawn exec asked s w object x y
  | .destroy => w.self.elim [] (requestsOfDestroy exec asked s w)
  | .inherit => w.self.elim [] fun id => requestsOfInherited exec asked s w id w.other
  | _ => []

def requestsOfPlan (w : World) (plan : List Value → Except Fault Action) (args : List Value) :
    List Int32 :=
  match plan args with
  | .error _ => []
  | .ok action => requestsOfAction exec asked s w action

def requestsOfScript (w : World) (code : Int32) (args : List Value) (self other : Int32) :
    List Int32 :=
  if maxCallDepth ≤ w.callDepth then []
  else
    match w.instance? self with
    | none => []
    | some _ => asked (w.modify self (givenArguments args)).descend code self (some other)

def requestsOfCall (w : World) (name : String) (args : List Value) (self other : Int32) :
    List Int32 :=
  let w := w.calling s name args self other
  match Builtin.named? name with
  | some (.action plan) => requestsOfPlan exec asked s w plan args
  | some .runScript =>
    match args with
    | [] => []
    | index :: rest =>
      match w.scriptTarget? s index.toInt with
      | some (script, id) => requestsOfCall w script rest id id
      | none => []
  | none =>
    match s.program.scriptCode? name with
    | some code => requestsOfScript asked w code args self other
    | none => []

def requestsOfBuiltin (w : World) (b : Builtin) (args : List Value) : List Int32 :=
  match b with
  | .action plan => requestsOfPlan exec asked s w plan args
  | .runScript =>
    match args with
    | [] => []
    | index :: rest =>
      match w.scriptTarget? s index.toInt with
      | some (script, id) => requestsOfCall exec asked s w script rest id id
      | none => []

end Listing

end World

namespace Machine

section Listing

variable (exec : Exec) (asked : Requests) (s : Setup)

def requestsOfStep (i : Instruction) (f : Frame) (w : World) : List Int32 :=
  if i.op? = some .call then
    let (args, f) := f.popMany i.argCount
    match tableAt? s.game.functionTable i.functionIndex with
    | none => []
    | some function => World.requestsOfCall exec asked s w function.name args f.self f.other
  else []

def requestsOfFrame (code : Code) (name : String) (traced : Bool) : Nat → Frame → World → List Int32
  | 0, _, _ => []
  | n + 1, f, w =>
    match code.instructions[f.pc]? with
    | none => []
    | some i =>
      requestsOfStep exec asked s i f (reportStep traced name i f w) ++
        (advance exec s name traced code f w).elim [] fun r =>
          requestsOfFrame code name traced n r.1 r.2

def requestsOfEntry : Requests := fun w code self other =>
  match s.program.code? code with
  | none => []
  | some c =>
    if c.isEmpty then []
    else
      let name := s.game.codeName code
      requestsOfFrame exec asked s c name (s.settings.trace.tracesInstructions name)
        s.settings.maxInstructions (.start code self (other.getD self)) w

end Listing

/-- The rooms that a code entry asks for, with others nested in it up to a depth. -/
def requests (s : Setup) : (depth : Nat) → Requests
  | 0 => fun _ _ _ _ => []
  | depth + 1 => requestsOfEntry (execute s depth) (requests s depth) s

end Machine

/-! ### The last room that is asked for is the one to be entered -/

namespace Machine

/-- An instruction that is no call asks for no room. -/
theorem pendingRoom_of_step {exec : Exec} {s : Setup} {i : Instruction} {f f' : Frame} {w v : World}
    {outcome : Except Fault Signal} (hop : i.op? ≠ some .call)
    (h : step exec s i f w = some (outcome, f', v)) : v.pendingRoom = w.pendingRoom := by
  by_cases hret : i.op? = some .ret
  · rw [step_ret hret] at h
    unfold ret at h
    split at h <;> cases h <;> rfl
  · rcases reports_or_strokes_of_step hop hret h with hreports | hstrokes
    · exact hreports.pendingRoom
    · exact hstrokes.pendingRoom

end Machine

section Follows

variable {exec : Exec} {asked : Requests} (hexec : exec.Follows asked) {s : Setup} {w v : World}

include hexec

namespace World

theorem asks_runAll {id : Int32} {other : Option Int32} {codes : List Int32}
    (h : runAll exec id other codes w = some v) :
    w.Asks (requestsOfAll exec asked id other codes w) v := by
  induction codes generalizing w with
  | nil =>
    cases h
    exact .of_eq rfl
  | cons code rest ih =>
    obtain ⟨u, hu, hrest⟩ := Option.bind_eq_some_iff.mp h
    rw [requestsOfAll, hu]
    exact (hexec _ _ _ _ _ hu).trans (ih hrest)

theorem asks_runHandler {id object : Int32} {type : Nat} {subtype : Int32} {other : Option Int32}
    (h : runHandler exec s.game w id object type subtype other = some v) :
    w.Asks (requestsOfHandler exec asked s w id object type subtype other) v := by
  cases hhandler : s.game.handler? object type subtype with
  | none =>
    simp only [runHandler, hhandler] at h
    simp only [requestsOfHandler, hhandler]
    cases h
    exact .of_eq rfl
  | some handling =>
    simp only [runHandler, hhandler] at h
    simp only [requestsOfHandler, hhandler]
    obtain ⟨u, hu, h⟩ := Option.bind_eq_some_iff.mp h
    cases h
    exact (asks_runAll hexec hu).before rfl

theorem asks_fire {id : Int32} {type : Nat} {subtype : Int32} {other : Option Int32}
    (h : w.fire exec s id type subtype other = some v) :
    w.Asks (requestsOfEvent exec asked s w id type subtype other) v := by
  cases hi : w.instance? id with
  | none =>
    simp only [fire, hi] at h
    simp only [requestsOfEvent, hi]
    cases h
    exact .of_eq rfl
  | some i =>
    simp only [fire, hi] at h
    simp only [requestsOfEvent, hi]
    exact (asks_runHandler hexec h).before (pendingRoom_reportEvent ..)

theorem asks_fireInherited {id : Int32} {other : Option Int32}
    (h : w.fireInherited exec s id other = some v) :
    w.Asks (requestsOfInherited exec asked s w id other) v := by
  cases hcontext : w.event with
  | none =>
    simp only [fireInherited, hcontext] at h
    simp only [requestsOfInherited, hcontext]
    cases h
    exact .of_eq rfl
  | some context =>
    cases ho : s.game.object? context.object with
    | none =>
      simp only [fireInherited, hcontext, ho] at h
      simp only [requestsOfInherited, hcontext, ho]
      cases h
      exact .of_eq rfl
    | some o =>
      simp only [fireInherited, hcontext, ho] at h
      simp only [requestsOfInherited, hcontext, ho]
      exact asks_runHandler hexec h

theorem asks_spawn {object : Int32} {x y : Float} {r : Int32 × World}
    (h : w.spawn exec s object x y = some r) :
    w.Asks (requestsOfSpawn exec asked s w object x y) r.2 := by
  obtain ⟨u, hu, h⟩ := Option.bind_eq_some_iff.mp h
  cases h
  exact (asks_fire hexec hu).before rfl

theorem asks_destroy {id : Int32} (h : w.destroy exec s id = some v) :
    w.Asks (requestsOfDestroy exec asked s w id) v := by
  unfold destroy at h
  unfold requestsOfDestroy
  split_ifs at h ⊢
  · obtain ⟨u, hu, h⟩ := Option.bind_eq_some_iff.mp h
    cases h
    exact (asks_fire hexec hu).after rfl
  · cases h
    exact .of_eq rfl

theorem asks_perform {a : Action} {r : Value × World} (h : a.perform exec s w = some r) :
    w.Asks (requestsOfAction exec asked s w a) r.2 := by
  cases a with
  | gotoRoom f =>
    cases h
    exact .gotoRoom s.game w _
  | create object x y =>
    obtain ⟨u, hu, h⟩ := Option.bind_eq_some_iff.mp h
    cases h
    exact (asks_spawn hexec hu).after (pendingRoom_log ..)
  | destroy =>
    cases hself : w.self with
    | none =>
      simp only [Action.perform, hself] at h
      simp only [requestsOfAction, hself, Option.elim_none]
      cases h
      exact .of_eq rfl
    | some id =>
      simp only [Action.perform, hself] at h
      simp only [requestsOfAction, hself, Option.elim_some]
      obtain ⟨u, hu, rfl⟩ := Option.map_eq_some_iff.mp h
      exact asks_destroy hexec hu
  | inherit =>
    cases hself : w.self with
    | none =>
      simp only [Action.perform, hself] at h
      simp only [requestsOfAction, hself, Option.elim_none]
      cases h
      exact .of_eq rfl
    | some id =>
      simp only [Action.perform, hself] at h
      simp only [requestsOfAction, hself, Option.elim_some]
      obtain ⟨u, hu, rfl⟩ := Option.map_eq_some_iff.mp h
      exact asks_fireInherited hexec hu
  | attempt v =>
    obtain ⟨v, -, rfl⟩ := Option.map_eq_some_iff.mp h
    exact .of_eq rfl
  | sample f =>
    obtain ⟨r, -, rfl⟩ := Option.map_eq_some_iff.mp h
    exact .of_eq rfl
  | paint f =>
    simp only [Action.perform] at h
    split at h <;> cases h <;> exact .of_eq rfl
  | say line =>
    cases h
    exact .of_eq (pendingRoom_log ..)
  | quit =>
    cases h
    exact .of_eq (pendingRoom_log w _ _)
  | moveTo x y =>
    cases h
    exact .of_eq (pendingRoom_modifySelf ..)
  | startPath path speed endAction absolute =>
    cases h
    exact .of_eq (pendingRoom_startPath ..)
  | leavePath =>
    cases h
    exact .of_eq (pendingRoom_modifySelf ..)
  | _ =>
    cases h
    exact .of_eq rfl

theorem asks_callAction {plan : List Value → Except Fault Action} {args : List Value}
    {r : Except Fault Value × World} (h : w.callAction exec s plan args = some r) :
    w.Asks (requestsOfPlan exec asked s w plan args) r.2 := by
  cases hplan : plan args with
  | error fault =>
    simp only [callAction, hplan] at h
    simp only [requestsOfPlan, hplan]
    cases h
    exact .of_eq rfl
  | ok action =>
    simp only [callAction, hplan] at h
    simp only [requestsOfPlan, hplan]
    obtain ⟨u, hu, rfl⟩ := Option.map_eq_some_iff.mp h
    exact asks_perform hexec hu

theorem asks_callScript {code : Int32} {args : List Value} {self other : Int32}
    {r : Except Fault Value × World} (h : w.callScript exec code args self other = some r) :
    w.Asks (requestsOfScript asked w code args self other) r.2 := by
  unfold requestsOfScript
  by_cases hdepth : maxCallDepth ≤ w.callDepth
  · simp only [callScript, if_pos hdepth] at h
    cases h
    rw [if_pos hdepth]
    exact .of_eq rfl
  · rw [if_neg hdepth]
    cases hi : w.instance? self with
    | none =>
      simp only [callScript, if_neg hdepth, hi] at h
      cases h
      exact .of_eq rfl
    | some i =>
      rw [callScript_eq (Nat.not_le.mp hdepth) hi] at h
      obtain ⟨u, hu, rfl⟩ := Option.map_eq_some_iff.mp h
      have hrun := (hexec _ _ _ _ _ hu).before (w := w) rfl
      refine hrun.after ?_
      unfold scriptOutcome
      split <;> rfl

theorem asks_call {w : World} {name : String} {args : List Value} {self other : Int32}
    {r : Except Fault Value × World} (h : w.call exec s name args self other = some r) :
    w.Asks (requestsOfCall exec asked s w name args self other) r.2 := by
  unfold call at h
  obtain ⟨q, hq, rfl⟩ := Option.map_eq_some_iff.mp h
  unfold requestsOfCall
  have hcalling : (w.calling s name args self other).pendingRoom = w.pendingRoom :=
    (OnlyReports.reportCall s w name args self).pendingRoom
  generalize hu : w.calling s name args self other = u at hcalling ⊢
  unfold calling at hu
  rw [hu] at hq
  refine Asks.after (v := q.2) (.before hcalling ?_) rfl
  cases hnamed : Builtin.named? name with
  | none =>
    simp only [hnamed] at hq ⊢
    cases hcode : s.program.scriptCode? name with
    | none =>
      simp only [hcode] at hq ⊢
      cases hq
      exact .of_eq (pendingRoom_reportUnknown ..)
    | some code =>
      simp only [hcode] at hq ⊢
      exact asks_callScript hexec hq
  | some b =>
    simp only [hnamed] at hq ⊢
    cases b with
    | action plan => exact asks_callAction hexec hq
    | runScript =>
      cases args with
      | nil =>
        cases hq
        exact .of_eq rfl
      | cons index rest =>
        cases htarget : u.scriptTarget? s index.toInt with
        | none =>
          simp only [htarget] at hq ⊢
          cases hq
          exact .of_eq (pendingRoom_log ..)
        | some target =>
          simp only [htarget] at hq ⊢
          exact asks_call hq
termination_by args.length

theorem asks_callBuiltin {b : Builtin} {args : List Value} {r : Except Fault Value × World}
    (h : w.callBuiltin exec s b args = some r) :
    w.Asks (requestsOfBuiltin exec asked s w b args) r.2 := by
  cases b with
  | action plan => exact asks_callAction hexec h
  | runScript =>
    unfold callBuiltin at h
    unfold requestsOfBuiltin
    cases args with
    | nil =>
      cases h
      exact .of_eq rfl
    | cons index rest =>
      cases htarget : w.scriptTarget? s index.toInt with
      | none =>
        simp only [htarget] at h ⊢
        cases h
        exact .of_eq (pendingRoom_log ..)
      | some target =>
        simp only [htarget] at h ⊢
        exact asks_call hexec h

end World

namespace Machine

theorem asks_step {i : Instruction} {f f' : Frame} {outcome : Except Fault Signal}
    (h : step exec s i f w = some (outcome, f', v)) :
    w.Asks (requestsOfStep exec asked s i f w) v := by
  unfold requestsOfStep
  split_ifs with hop
  · simp only [step, hop] at h
    unfold call at h
    dsimp only at h ⊢
    cases hfunction : tableAt? s.game.functionTable i.functionIndex with
    | none =>
      simp only [hfunction] at h ⊢
      cases h
      exact .of_eq (World.pendingRoom_log ..)
    | some function =>
      simp only [hfunction] at h ⊢
      split at h
      · cases h
      · next fault u hcall =>
        cases h
        exact World.asks_call hexec hcall
      · next value u hcall =>
        cases h
        exact World.asks_call hexec hcall
  · exact .of_eq (pendingRoom_of_step hop h)

theorem asks_runFrame {code : Code} {name : String} {traced : Bool} {n : Nat} {f f' : Frame}
    {ending : Ending} (h : runFrame exec s code name traced n f w = some (ending, f', v)) :
    w.Asks (requestsOfFrame exec asked s code name traced n f w) v := by
  induction n generalizing f w with
  | zero =>
    unfold runFrame at h
    split_ifs at h
    · cases h
      exact .of_eq (World.pendingRoom_log w _ _)
    · cases h
      exact .of_eq rfl
  | succ n ih =>
    unfold requestsOfFrame
    cases hi : code.instructions[f.pc]? with
    | none =>
      simp only [runFrame, hi] at h
      cases h
      exact .of_eq rfl
    | some i =>
      rw [runFrame_succ hi] at h
      obtain ⟨⟨outcome, f₁, u⟩, hstep, hcontinue⟩ := Option.bind_eq_some_iff.mp h
      have hfirst := (asks_step hexec hstep).before
        (World.OnlyReports.reportStep traced name i f w).pendingRoom
      refine hfirst.trans ?_
      rcases outcome with fault | signal
      · cases hcontinue
        simp only [advance, hi, Option.bind_some, hstep]
        exact .of_eq rfl
      · cases signal with
        | returned value =>
          cases hcontinue
          simp only [advance, hi, Option.bind_some, hstep]
          exact .of_eq rfl
        | next =>
          simp only [advance, hi, Option.bind_some, hstep]
          exact ih hcontinue
        | branch target =>
          simp only [advance, hi, Option.bind_some, hstep]
          exact (ih hcontinue).before
            (World.OnlyReports.reportTarget code name target u).pendingRoom
        | skip target =>
          simp only [advance, hi, Option.bind_some, hstep]
          exact (ih hcontinue).before
            (World.OnlyReports.reportTarget code name target u).pendingRoom

theorem follows_runEntry (s : Setup) : (runEntry exec s).Follows (requestsOfEntry exec asked s) := by
  intro w code self other v h
  unfold requestsOfEntry
  cases hc : s.program.code? code with
  | none =>
    simp only [runEntry, hc] at h
    cases h
    exact .of_eq (World.pendingRoom_log w _ _)
  | some c =>
    dsimp only
    cases hne : c.isEmpty with
    | true =>
      simp only [runEntry, hc, hne, if_true] at h
      cases h
      exact .of_eq rfl
    | false =>
      rw [runEntry_eq hc hne] at h
      obtain ⟨⟨ending, f, u⟩, hrun, rfl⟩ := Option.map_eq_some_iff.mp h
      refine (asks_runFrame hexec hrun).after ?_
      cases ending with
      | failed fault => exact World.pendingRoom_log u _ _
      | _ => rfl

end Machine

end Follows

/-- A run of code asks for the rooms that are listed for it, however deep other code is nested in
it. -/
theorem Machine.follows_execute (s : Setup) (depth : Nat) :
    (execute s depth).Follows (requests s depth) := by
  induction depth with
  | zero =>
    intro w code self other v h
    cases h
  | succ depth ih => exact follows_runEntry ih s

end GameRunner

import GameRunner.Proofs.Machine.Limit

/-!
# How deep code entries are nested

Code entries run inside one another through scripts and through events. Scripts are counted: where as
many of them are being called as may be, a further call is a fault. Events are not. So entries are
nested as deep as the scripts allow and deeper by the number of events among them, which nothing
bounds: the creation of one instance can make an object handle the same event again and again, each
time inside the last.
-/

namespace GameRunner

namespace Machine

/-- Runs code entries nested in one another up to a depth, as they are always run. Those that would be
nested deeper are run in some other way, which may depend on how many of the entries nested in others
are part of events. These can be told from scripts: a script runs with one more call around it than
its caller, an event with as many. -/
def executeOver (s : Setup) (inner : Nat → Exec) : (depth events : Nat) → Exec
  | 0, events => inner events
  | depth + 1, events => fun w =>
    runEntry (fun v =>
      executeOver s inner depth (if w.callDepth < v.callDepth then events else events + 1) v) s w

theorem executeOver_none (s : Setup) (depth events : Nat) :
    executeOver s (fun _ _ _ _ _ => none) depth events = execute s depth := by
  induction depth generalizing events with
  | zero => rfl
  | succ depth ih =>
    funext w
    simp only [executeOver, ih]
    rfl

section Inner

variable {s : Setup} {inner inner' : Nat → Exec}

theorem keepsContext_executeOver (hkeeps : ∀ k, (inner k).KeepsContext) (depth events : Nat) :
    (executeOver s inner depth events).KeepsContext := by
  induction depth generalizing events with
  | zero => exact hkeeps events
  | succ depth ih =>
    intro w code self other w' h
    apply (activity_runEntry s w code self other).context_eq (fun _ _ he => he.context_eq) ?_ h
    intro v
    exact ih _ v

/-- Entries that are nested too deep for the scripts and events around them do not occur. -/
theorem executeOver_congr (hkeeps : ∀ k, (inner k).KeepsContext) (depth events : Nat) {w : World}
    (hw : w.callDepth ≤ maxCallDepth)
    (h : ∀ k, depth + w.callDepth + events ≤ maxCallDepth + k → inner k = inner' k) :
    executeOver s inner depth events w = executeOver s inner' depth events w := by
  induction depth generalizing events w with
  | zero => exact congrFun (h events (by omega)) w
  | succ depth ih =>
    funext code self other
    apply (activity_runEntry s w code self other).eq_of_agree (fun _ _ he => he.context_eq)
      (n := w.callDepth) ?_ ?_ le_rfl hw
    · intro v
      exact keepsContext_executeOver hkeeps _ _ v
    · intro v hwv hv
      apply ih _ hv
      intro k hk
      apply h
      split_ifs at hk <;> omega

end Inner

end Machine

/-- Wherever an operation nests an entry in the given number of others, the number of events has a
property, where all of these entries count but the outermost one. Nothing that the operation comes to
rests on how an entry would be run that is nested so deep with another number of events. -/
def Operation.NestsOnly (op : Operation) (s : Setup) (w : World) (depth : Nat) (p : Nat → Prop) :
    Prop :=
  ∀ inner inner' : Nat → Exec, (∀ k, (inner k).KeepsContext) → (∀ k, p k → inner k = inner' k) →
    op.run (Machine.executeOver s inner depth 0) s w =
      op.run (Machine.executeOver s inner' depth 0) s w

namespace World

/-- Asks for the inherited handler. -/
def askAbove : Instruction := { (Statement.call 0 0).instruction 0 with functionIndex := 0 }

def endlessCode : Code := ⟨#[askAbove]⟩

/-- An object that is its own parent and handles its creation by asking for the inherited handler. -/
def endlessSetup : Setup where
  game :=
    { functionTable := #[⟨"event_inherited", 1, 0⟩]
      objects := #[{ parent := 0, events := [[⟨0, [0]⟩]] }] }
  program :=
    { code := #[endlessCode]
      references := ⟨[], []⟩
      scripts := .empty }
  settings := {}

/-- The event of that object. -/
def endlessEvent : EventContext := ⟨EventType.create, 0, 0⟩

/-- The world before the first frame of that game. -/
def endlessStart : World := .ofSetup endlessSetup 0 default

end World

/-- A script that can be run is run once, with one more call around it than its caller has. -/
theorem World.exists_callScript_eq {w : World} {self : Int32} {i : Instance}
    (hdepth : w.callDepth < maxCallDepth) (hi : w.instance? self = some i) (code : Int32)
    (args : List Value) (other : Int32) :
    ∃ (v : World) (finish : World → Except Fault Value × World), v.callDepth = w.callDepth + 1 ∧
      ∀ exec : Exec,
        w.callScript exec code args self other = (exec v code self (some other)).map finish :=
  ⟨(w.modify self (givenArguments args)).descend, _, rfl, fun exec =>
    callScript_eq hdepth hi exec code args other⟩

/-- Of the entries that are nested in one another no more are scripts than may be called, so all that
are nested deeper than that owe it to events. A script is run as one entry, which counts as one more
call; one that would be too many is a fault and is not run. -/
theorem nests_beyond_scripts (s : Setup) {w : World} (hw : w.callDepth ≤ maxCallDepth) :
    (∀ (op : Operation) (depth : Nat),
      op.NestsOnly s w depth fun events => depth + w.callDepth ≤ maxCallDepth + events) ∧
      ∀ (v : World) (code : Int32) (args : List Value) (self other : Int32),
        (maxCallDepth ≤ v.callDepth → ∀ exec : Exec,
          v.callScript exec code args self other =
            some (.error (.callDepthExceeded maxCallDepth), v)) ∧
        (v.callDepth < maxCallDepth → ∀ i, v.instance? self = some i →
          ∃ (u : World) (finish : World → Except Fault Value × World),
            u.callDepth = v.callDepth + 1 ∧ ∀ exec : Exec,
              v.callScript exec code args self other =
                (exec u code self (some other)).map finish) := by
  constructor
  · intro op depth inner inner' hkeeps hagree
    apply (op.activity_run s w).eq_of_agree (fun _ _ he => he.context_eq)
      (Machine.keepsContext_executeOver hkeeps depth 0) ?_ le_rfl hw
    intro v hwv hv
    apply Machine.executeOver_congr hkeeps depth 0 hv
    intro k hk
    apply hagree
    omega
  · intro v code args self other
    constructor
    · intro hv exec
      exact if_pos hv
    · intro hv i hi
      exact World.exists_callScript_eq hv hi code args other

/-- Where that object nests an entry in a thousand others, all but sixty-four are events. -/
theorem nests_beyond_scripts_endless :
    World.endlessStart.callDepth ≤ maxCallDepth ∧
      (Operation.spawn 0 0 0).NestsOnly World.endlessSetup World.endlessStart 1000
        fun events => 1000 ≤ maxCallDepth + events := by
  have hw : World.endlessStart.callDepth ≤ maxCallDepth := Nat.zero_le _
  obtain ⟨hnests, -⟩ := nests_beyond_scripts World.endlessSetup hw
  exact ⟨hw, hnests (.spawn 0 0 0) 1000⟩

/-! ### Events are nested without bound -/

namespace World

/-- The handler of that object runs its one action. -/
theorem runHandler_endless (exec : Exec) (w : World) (self : Int32) (other : Option Int32) :
    runHandler exec endlessSetup.game w self 0 EventType.create 0 other =
      (exec { w with event := some endlessEvent } 0 self other).map
        fun u => { u with event := w.event } := by
  have hhandler : endlessSetup.game.handler? 0 EventType.create 0 = some (0, ⟨0, [0]⟩) := by decide
  have hruns : runAll exec self other [0] { w with event := some endlessEvent } =
      exec { w with event := some endlessEvent } 0 self other := Option.bind_fun_some _
  simp only [runHandler, hhandler]
  change (runAll exec self other [0] { w with event := some endlessEvent }).bind _ = _
  rw [hruns, Option.map_eq_bind]
  rfl

theorem call_endless {w : World} (hevent : w.event = some endlessEvent) (self other : Int32) :
    ∃ (v : World) (finish : World → World), v.event = some endlessEvent ∧ ∀ exec : Exec,
      w.call exec endlessSetup "event_inherited" [] self other =
        (exec v 0 self (some other)).map fun u => (.ok .zero, finish u) := by
  have ho : endlessSetup.game.object? 0 = some { parent := 0, events := [[⟨0, [0]⟩]] } := rfl
  let caller := w.calling endlessSetup "event_inherited" [] self other
  refine ⟨{ caller with event := some endlessEvent },
    fun u => { u with event := caller.event, self := w.self, other := w.other }, rfl, ?_⟩
  intro exec
  have hcall := call_eventInherited hevent ho exec [] self other
  have hruns := runHandler_endless exec caller self (some other)
  exact hcall.trans ((congrArg (Option.map _) hruns).trans (Option.map_map ..))

theorem step_endless {w : World} (hevent : w.event = some endlessEvent) (f : Frame) :
    ∃ (v : World) (finish : World → World), v.event = some endlessEvent ∧ ∀ exec : Exec,
      Machine.step exec endlessSetup askAbove f w =
        (exec v 0 f.self (some f.other)).map fun u => (.ok .next, f.push .zero, finish u) := by
  obtain ⟨v, finish, hv, hcall⟩ := call_endless hevent f.self f.other
  refine ⟨v, finish, hv, ?_⟩
  intro exec
  have hfunction : tableAt? endlessSetup.game.functionTable askAbove.functionIndex =
      some ⟨"event_inherited", 1, 0⟩ := rfl
  have hargs : f.popMany askAbove.argCount = ([], f) := rfl
  change Machine.call exec endlessSetup askAbove f w = _
  simp only [Machine.call, hargs, hfunction, hcall]
  cases exec v 0 f.self (some f.other) <;> rfl

/-- The handler runs itself once more, as part of the same event. -/
theorem runEntry_endless {w : World} (hevent : w.event = some endlessEvent) (self : Int32)
    (other : Option Int32) :
    ∃ (v : World) (finish : World → World), v.event = some endlessEvent ∧ ∀ exec : Exec,
      Machine.runEntry exec endlessSetup w 0 self other =
        (exec v 0 self (some (other.getD self))).map finish := by
  have hc : endlessSetup.program.code? 0 = some endlessCode := rfl
  have hlimit : endlessSetup.settings.maxInstructions = 9999999 + 1 := rfl
  have hi : endlessCode.instructions[(Frame.start 0 self (other.getD self)).pc]? = some askAbove :=
    rfl
  let u := Machine.reportStep (endlessSetup.settings.trace.tracesInstructions
    (endlessSetup.game.codeName 0)) (endlessSetup.game.codeName 0) askAbove
    (.start 0 self (other.getD self)) w
  have hu : u.event = some endlessEvent :=
    (congrArg Context.event (Machine.quiet_reportStep ..).context).trans hevent
  obtain ⟨v, finish, hv, hstep⟩ : ∃ (v : World) (finish : World → World),
      v.event = some endlessEvent ∧ ∀ exec : Exec,
        Machine.step exec endlessSetup askAbove (.start 0 self (other.getD self)) u =
          (exec v 0 self (some (other.getD self))).map
            fun r => (.ok .next, (Frame.start 0 self (other.getD self)).push .zero, finish r) :=
    step_endless hu _
  refine ⟨v, finish, hv, ?_⟩
  intro exec
  rw [Machine.runEntry_eq hc rfl, hlimit, Machine.runFrame_succ hi, hstep]
  -- The one instruction is the last one, so nothing of the entry follows.
  cases exec v 0 self (some (other.getD self)) <;> rfl

/-- What the nested events come to is what the innermost one comes to. -/
theorem executeOver_endless (depth events : Nat) {w : World} (hevent : w.event = some endlessEvent)
    (self : Int32) (other : Option Int32) :
    ∃ (v : World) (k : Nat) (other' : Option Int32) (finish : World → World),
      v.event = some endlessEvent ∧ ∀ inner : Nat → Exec,
        Machine.executeOver endlessSetup inner depth events w 0 self other =
          (inner k v 0 self other').map finish := by
  induction depth generalizing events w other with
  | zero => exact ⟨w, events, other, id, hevent, fun inner => (congrFun Option.map_id _).symm⟩
  | succ depth ih =>
    obtain ⟨u, finish, hu, hentry⟩ := runEntry_endless hevent self other
    obtain ⟨v, k, other', finish', hv, hinner⟩ :=
      ih (if w.callDepth < u.callDepth then events else events + 1) hu (some (other.getD self))
    refine ⟨v, k, other', finish ∘ finish', hv, ?_⟩
    intro inner
    simp only [Machine.executeOver, hentry, hinner, Option.map_map]

/-- An instance of that object handles its creation. -/
theorem spawn_endless :
    ∃ (v : World) (finish : World → World), v.event = some endlessEvent ∧ ∀ exec : Exec,
      (Operation.spawn 0 0 0).run exec endlessSetup endlessStart =
        (exec v 0 100000 none).map finish := by
  let w := (endlessStart.create endlessSetup.game 0 0 0 none).2
  refine ⟨{ w with event := some endlessEvent }, fun u => { u with event := w.event }, rfl, ?_⟩
  intro exec
  have hfire : w.fire exec endlessSetup 100000 EventType.create 0 none =
      (exec { w with event := some endlessEvent } 0 100000 none).map
        fun u => { u with event := w.event } :=
    runHandler_endless exec w 100000 none
  change ((w.fire exec endlessSetup 100000 EventType.create 0 none).bind
    fun v => some ((100000 : Int32), v)).map Prod.snd = _
  rw [hfire]
  cases exec { w with event := some endlessEvent } 0 100000 none <;> rfl

end World

/-- Nothing bounds how deep entries are nested in one another. And code can go on to nest events for
ever, without a fault. -/
theorem nesting_unbounded :
    (¬ ∃ bound, ∀ (s : Setup) (w : World) (op : Operation), Occurs s w →
      op.NestsOnly s w bound fun _ => False) ∧
      ∃ (s : Setup) (w : World) (op : Operation), Occurs s w ∧
        ∀ depth, op.run (Machine.execute s depth) s w = none := by
  obtain ⟨w, finish, hevent, hspawn⟩ := World.spawn_endless
  have hoccurs : Occurs World.endlessSetup World.endlessStart := .start 0 default
  constructor
  · rintro ⟨bound, hbound⟩
    obtain ⟨v, k, other, finish', -, hinner⟩ := World.executeOver_endless bound 0 hevent 100000 none
    have hsame := hbound World.endlessSetup World.endlessStart (.spawn 0 0 0) hoccurs
      (fun _ _ _ _ _ => none) (fun _ w _ _ _ => some w) (fun _ _ _ _ _ _ h => nomatch h)
      (fun _ h => h.elim)
    rw [hspawn, hspawn, hinner, hinner] at hsame
    cases hsame
  · refine ⟨World.endlessSetup, World.endlessStart, .spawn 0 0 0, hoccurs, ?_⟩
    intro depth
    obtain ⟨v, k, other, finish', -, hinner⟩ := World.executeOver_endless depth 0 hevent 100000 none
    rw [hspawn, ← Machine.executeOver_none _ depth 0, hinner]
    rfl

end GameRunner

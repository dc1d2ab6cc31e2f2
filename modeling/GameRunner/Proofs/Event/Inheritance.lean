import GameRunner.Proofs.Machine.WithLoop

/-!
# Handlers and the handlers above them

An event is handled by the nearest object of a lineage that has a handler for it, and which one that
is can be told from the parent links alone. While a handler runs it can ask for the handler above its
own: the nearest one from the parent of the object that has the running handler, whatever code has
run in the meantime and on whichever instance. Every search gives up after as many objects as a
lineage may be long.
-/

namespace GameRunner

namespace Game

/-- The nearest handler of an event from an object upwards, with the number of parent links that lead
to the object that has it. -/
inductive Nearest (g : Game) (type : Nat) (subtype : Int32) :
    Int32 → Nat → Int32 → EventHandler → Prop
  | here {object : Int32} {o : GameObject} {handler : EventHandler} :
    g.object? object = some o → o.handler? type subtype = some handler →
      Nearest g type subtype object 0 object handler
  | above {object handling : Int32} {o : GameObject} {handler : EventHandler} {links : Nat} :
    g.object? object = some o → o.handler? type subtype = none →
      Nearest g type subtype o.parent links handling handler →
        Nearest g type subtype object (links + 1) handling handler

section Search

variable {g : Game} {object handling : Int32} {type : Nat} {subtype : Int32} {links : Nat}
  {handler : EventHandler}

theorem handlerIn?_lineageUpTo_succ {o : GameObject} (ho : g.object? object = some o) (n : Nat) :
    handlerIn? type subtype (g.lineageUpTo (n + 1) object) =
      match o.handler? type subtype with
      | some handler => some (object, handler)
      | none => handlerIn? type subtype (g.lineageUpTo n o.parent) := by
  simp only [lineageUpTo, ho, handlerIn?, List.findSome?_cons]
  cases o.handler? type subtype <;> rfl

/-- A search of the first objects of a lineage finds the nearest handler if one of them has it. -/
theorem handlerIn?_lineageUpTo_eq_some_iff (n : Nat) :
    handlerIn? type subtype (g.lineageUpTo n object) = some (handling, handler) ↔
      ∃ links < n, g.Nearest type subtype object links handling handler := by
  induction n generalizing object with
  | zero => simp [lineageUpTo, handlerIn?]
  | succ n ih =>
    constructor
    · intro hfound
      cases ho : g.object? object with
      | none => simp [lineageUpTo, ho, handlerIn?] at hfound
      | some o =>
        rw [handlerIn?_lineageUpTo_succ ho] at hfound
        split at hfound
        · next hown =>
          cases hfound
          exact ⟨0, Nat.succ_pos n, .here ho hown⟩
        · next hown =>
          obtain ⟨links, hlinks, hnear⟩ := ih.mp hfound
          exact ⟨links + 1, Nat.succ_lt_succ hlinks, .above ho hown hnear⟩
    · rintro ⟨links, hlinks, hnear⟩
      cases hnear with
      | here ho hown => rw [handlerIn?_lineageUpTo_succ ho, hown]
      | above ho hown hnear =>
        rw [handlerIn?_lineageUpTo_succ ho, hown]
        exact ih.mpr ⟨_, Nat.lt_of_succ_lt_succ hlinks, hnear⟩

theorem handler?_eq_some_iff :
    g.handler? object type subtype = some (handling, handler) ↔
      ∃ links < maxLineage, g.Nearest type subtype object links handling handler :=
  handlerIn?_lineageUpTo_eq_some_iff maxLineage

theorem handler?_eq_none_of_far
    (h : ∀ links handling handler, g.Nearest type subtype object links handling handler →
      maxLineage ≤ links) : g.handler? object type subtype = none := by
  rw [Option.eq_none_iff_forall_ne_some]
  rintro ⟨handling, handler⟩ hfound
  obtain ⟨links, hlinks, hnear⟩ := handler?_eq_some_iff.mp hfound
  exact Nat.not_lt.mpr (h links handling handler hnear) hlinks

end Search

end Game

/-- A number of instructions of a run that goes on after them. -/
def Machine.advances (exec : Exec) (s : Setup) (name : String) (traced : Bool) (code : Code) :
    Nat → Frame → World → Option (Frame × World)
  | 0, f, w => some (f, w)
  | n + 1, f, w =>
    (advance exec s name traced code f w).bind fun r => advances exec s name traced code n r.1 r.2

namespace World

/-- What comes of running the nearest handler from an object upwards: all actions of the handler that
name code, one after the other, as part of its event, or nothing if no handler is within reach. -/
structure RunsNearest (exec : Exec) (g : Game) (w : World) (id object : Int32) (type : Nat)
    (subtype : Int32) (other : Option Int32) (result : Option World) : Prop where
  within : ∀ links handling handler, g.Nearest type subtype object links handling handler →
    links < maxLineage → result = w.during ⟨type, subtype, handling⟩
      (runAll exec id other (handler.actions.filter (0 ≤ ·)))
  beyond : (∀ links handling handler, g.Nearest type subtype object links handling handler →
    maxLineage ≤ links) → result = some w

theorem runsNearest_runHandler (exec : Exec) (g : Game) (w : World) (id object : Int32) (type : Nat)
    (subtype : Int32) (other : Option Int32) :
    RunsNearest exec g w id object type subtype other
      (runHandler exec g w id object type subtype other) := by
  constructor
  · intro links handling handler hnear hlinks
    simp only [runHandler, Game.handler?_eq_some_iff.mpr ⟨links, hlinks, hnear⟩]
  · intro hfar
    simp only [runHandler, Game.handler?_eq_none_of_far hfar]

theorem fire_of_handler? {exec : Exec} {s : Setup} {w : World} {id handling : Int32} {type : Nat}
    {subtype : Int32} {other : Option Int32} {i : Instance} {handler : EventHandler}
    (hi : w.instance? id = some i)
    (h : s.game.handler? i.objectIndex type subtype = some (handling, handler)) :
    w.fire exec s id type subtype other =
      (reportEvent s w id i.objectIndex type subtype other).during ⟨type, subtype, handling⟩
        (runAll exec id other (handler.actions.filter (0 ≤ ·))) := by
  simp only [fire, hi, runHandler, h]

/-- The worlds in which the handler runs that an object has for an event: at its start, after code
that it has run, between its instructions, and in the scripts that it calls. Instructions may be any
ones, on any instance. -/
inductive InHandler (s : Setup) (c : EventContext) : World → Prop
  | start {w : World} {o : GameObject} {handler : EventHandler} :
    s.game.object? c.object = some o → o.handler? c.type c.subtype = some handler →
      InHandler s c { w with event := some c }
  | code {w v : World} {depth : Nat} {code self : Int32} {other : Option Int32} :
    InHandler s c w → Machine.execute s depth w code self other = some v → InHandler s c v
  | instruction {w v : World} {depth : Nat} {i : Instruction} {f f' : Frame}
    {outcome : Except Fault Signal} :
    InHandler s c w → Machine.step (Machine.execute s depth) s i f w = some (outcome, f', v) →
      InHandler s c v
  | report {w v : World} : InHandler s c w → w.OnlyReports v → InHandler s c v
  | script {w : World} (self other : Int32) (args : List Value) :
    InHandler s c w →
      InHandler s c
        (({ w with self := some self, other := some other } : World).modify self
          (givenArguments args)).descend

namespace InHandler

variable {s : Setup} {c : EventContext} {w : World}

theorem exists_handler (h : InHandler s c w) :
    ∃ o handler, s.game.object? c.object = some o ∧ o.handler? c.type c.subtype = some handler := by
  induction h with
  | start ho hhandler => exact ⟨_, _, ho, hhandler⟩
  | code _ _ ih => exact ih
  | instruction _ _ ih => exact ih
  | report _ _ ih => exact ih
  | script _ _ _ _ ih => exact ih

/-- Whatever has happened, the event that is running is the handler's own. -/
theorem event_eq (h : InHandler s c w) : w.event = some c := by
  induction h with
  | start => rfl
  | @code _ _ depth _ _ _ _ hrun ih =>
    have hc := Machine.keepsContext_execute s depth _ _ _ _ _ hrun
    exact (congrArg Context.event hc).trans ih
  | @instruction w _ depth i f _ _ _ hstep ih =>
    have hc := (Machine.activity_step s i f w).context_eq (fun _ _ he => he.context_eq)
      (Machine.keepsContext_execute s depth) hstep
    exact (congrArg Context.event hc).trans ih
  | report _ hreports ih =>
    obtain ⟨lines, rfl⟩ := hreports
    exact ih
  | script _ _ _ _ ih => exact ih

theorem advance {depth : Nat} {name : String} {traced : Bool} {code : Code} {f f' : Frame}
    {v : World} (h : InHandler s c w)
    (hadvance : Machine.advance (Machine.execute s depth) s name traced code f w = some (f', v)) :
    InHandler s c v := by
  obtain ⟨i, signal, f₁, w₁, pc, hstep, -, hreports⟩ := Machine.exists_step_of_advance hadvance
  have hreport : InHandler s c (Machine.reportStep traced name i f w) :=
    h.report (.reportStep traced name i f w)
  exact (hreport.instruction hstep).report hreports

theorem advances {depth : Nat} {name : String} {traced : Bool} {code : Code} {n : Nat} {f f' : Frame}
    {v : World} (h : InHandler s c w)
    (hrun : Machine.advances (Machine.execute s depth) s name traced code n f w = some (f', v)) :
    InHandler s c v := by
  induction n generalizing f w with
  | zero =>
    cases hrun
    exact h
  | succ n ih =>
    obtain ⟨⟨f₁, w₁⟩, hfirst, hrest⟩ := Option.bind_eq_some_iff.mp hrun
    exact ih (h.advance hfirst) hrest

end InHandler

/-- The world in which a function is called for an instance. -/
def calling (s : Setup) (w : World) (name : String) (args : List Value) (self other : Int32) :
    World :=
  { w.reportCall s name args self with self := some self, other := some other }

theorem call_eventInherited {s : Setup} {c : EventContext} {w : World} {o : GameObject}
    (hevent : w.event = some c) (ho : s.game.object? c.object = some o) (exec : Exec)
    (args : List Value) (self other : Int32) :
    w.call exec s "event_inherited" args self other =
      (runHandler exec s.game (w.calling s "event_inherited" args self other) self o.parent c.type
        c.subtype (some other)).map
          fun v => (.ok .zero, { v with self := w.self, other := w.other }) := by
  have hnamed : Builtin.named? "event_inherited" = some (.action fun _ => .ok .inherit) := rfl
  obtain ⟨lines, hreport⟩ := OnlyReports.reportCall s w "event_inherited" args self
  have hcontext : (w.calling s "event_inherited" args self other).event = some c := by
    rw [calling, hreport]
    exact hevent
  unfold call
  simp only [hnamed, asCaller, callAction, Action.perform]
  change ((((w.calling s "event_inherited" args self other).fireInherited exec s self
    (some other)).map _).map _).map _ = _
  simp only [fireInherited, hcontext, ho, Option.map_map]
  rw [hreport]
  rfl

/-- An event that happens to an instance is handled by the nearest handler from its object upwards,
and by nothing else. And whenever code asks for the inherited handler while the handler of an object
runs, the nearest one from the parent of that object upwards is run for the same event on the calling
instance. No more objects are searched than a lineage may have. -/
theorem handlers_resume_above (s : Setup) :
    (∀ (exec : Exec) (w : World) (id : Int32) (type : Nat) (subtype : Int32) (other : Option Int32),
      (w.instance? id = none → w.fire exec s id type subtype other = some w) ∧
        ∀ i, w.instance? id = some i →
          RunsNearest exec s.game (reportEvent s w id i.objectIndex type subtype other) id
            i.objectIndex type subtype other (w.fire exec s id type subtype other)) ∧
      ∀ (c : EventContext) (w : World), InHandler s c w →
        ∃ o handler, s.game.object? c.object = some o ∧
          o.handler? c.type c.subtype = some handler ∧
          ∀ (exec : Exec) (args : List Value) (self other : Int32), ∃ result,
            RunsNearest exec s.game (w.calling s "event_inherited" args self other) self o.parent
              c.type c.subtype (some other) result ∧
            w.call exec s "event_inherited" args self other =
              result.map fun v => (.ok .zero, { v with self := w.self, other := w.other }) := by
  refine ⟨?_, ?_⟩
  · intro exec w id type subtype other
    refine ⟨?_, ?_⟩
    · intro hnone
      simp only [fire, hnone]
    · intro i hi
      simp only [fire, hi]
      exact runsNearest_runHandler ..
  · intro c w h
    obtain ⟨o, handler, ho, hhandler⟩ := h.exists_handler
    refine ⟨o, handler, ho, hhandler, ?_⟩
    intro exec args self other
    exact ⟨_, runsNearest_runHandler .., call_eventInherited h.event_eq ho exec args self other⟩

/-- Destroys the second instance and then asks for the inherited handler. -/
def heirCode : Code :=
  ⟨#[(Statement.pushInt32 100002).instruction 0, (Statement.branch .pushenv 4).instruction 8,
    { (Statement.call 0 0).instruction 12 with functionIndex := 0 }, Statement.popz.instruction 20,
    (Statement.branch .popenv (-3)).instruction 24,
    { (Statement.call 1 0).instruction 28 with functionIndex := 1 }]⟩

/-- Three objects, each the parent of the next. The first two handle creations, and the second one
also handles the end of instances. -/
def heirSetup : Setup where
  game :=
    { functionTable := #[⟨"instance_destroy", 1, 0⟩, ⟨"event_inherited", 1, 0⟩]
      objects := #[{ events := [[⟨0, [0]⟩]] },
        { parent := 0, events := [[⟨0, [1]⟩], [⟨0, [2]⟩]] }, { parent := 1 }] }
  program :=
    { code := #[⟨#[{ (Statement.call 0 0).instruction 0 with functionIndex := 0 }]⟩, heirCode,
        ⟨#[Statement.exit.instruction 0]⟩]
      references := ⟨[], []⟩
      scripts := .empty }
  settings := {}

def heirs : World where
  instances := ⟨[.create 100001 2 0 0, .create 100002 2 0 0], by decide⟩
  nextId := 100003
  generator := .ofSeed 1

/-- The creation of an instance is handled by the second object. Where its code has come to the last
instruction, after the end of the other instance was handled, the inherited handler is that of the
first object. -/
theorem handlers_resume_above_heirs :
    (∀ exec, heirs.fire exec heirSetup 100001 EventType.create 0 none =
      heirs.during ⟨EventType.create, 0, 1⟩ (runAll exec 100001 none [1])) ∧
      ∃ w, InHandler heirSetup ⟨EventType.create, 0, 1⟩ w ∧ w.isLive 100002 = false ∧
        ∀ exec, w.call exec heirSetup "event_inherited" [] 100001 100001 =
          ((w.calling heirSetup "event_inherited" [] 100001 100001).during ⟨EventType.create, 0, 0⟩
            (runAll exec 100001 (some 100001) [0])).map
              fun v => (.ok .zero, { v with self := w.self, other := w.other }) := by
  obtain ⟨hfire, hinherited⟩ := handlers_resume_above heirSetup
  refine ⟨?_, ?_⟩
  · intro exec
    obtain ⟨-, hruns⟩ := hfire exec heirs 100001 EventType.create 0 none
    exact (hruns _ rfl).within 1 1 ⟨0, [1]⟩ (.above rfl rfl (.here rfl rfl)) (by decide)
  · have hstart : InHandler heirSetup ⟨EventType.create, 0, 1⟩
        { heirs with event := some ⟨EventType.create, 0, 1⟩ } := .start rfl rfl
    have hrun : (Machine.advances (Machine.execute heirSetup 1) heirSetup "" false heirCode 5
        (.start 1 100001 100001) { heirs with event := some ⟨EventType.create, 0, 1⟩ }).map
          (fun r => (r.1.pc, r.2.isLive 100002)) = some (5, false) := by
      decide +kernel
    obtain ⟨⟨f, w⟩, hw, hend⟩ := Option.map_eq_some_iff.mp hrun
    have hin := hstart.advances hw
    refine ⟨w, hin, (Prod.mk.inj hend).2, ?_⟩
    intro exec
    obtain ⟨o, handler, ho, -, hcalls⟩ := hinherited _ w hin
    have hparent : ∀ o ∈ heirSetup.game.object? 1, o.parent = 0 := by decide
    obtain ⟨result, hruns, hcall⟩ := hcalls exec [] 100001 100001
    rw [hparent o ho] at hruns
    rw [hcall, hruns.within 0 0 ⟨0, [0]⟩ (.here rfl rfl) (by decide)]
    rfl

/-- An object that handles creations as its farthest ancestor does, with more objects between them
than a lineage may have. The handler destroys the instance. -/
def distantSetup : Setup :=
  { Machine.farewellSetup with
    game :=
      { Machine.farewellSetup.game with
        objects := (#[{ parent := 1, events := [[⟨0, [0]⟩]] }] ++
          (Array.range 32).map fun k => { parent := Int32.ofNat (k + 2) }) ++
            #[{ events := [[⟨0, [0]⟩]] }] } }

/-- The nearest inherited handler would destroy the instance, but it is too far up to be run. -/
theorem inherited_handler_beyond_reach :
    ∃ c w o links handling handler, InHandler distantSetup c w ∧
      distantSetup.game.object? c.object = some o ∧
      distantSetup.game.Nearest c.type c.subtype o.parent links handling handler ∧
      ((w.calling distantSetup "event_inherited" [] 100001 100001).during
        ⟨c.type, c.subtype, handling⟩ (runAll (Machine.execute distantSetup 1) 100001 (some 100001)
          (handler.actions.filter (0 ≤ ·)))).map (·.isLive 100001) = some false ∧
      (w.call (Machine.execute distantSetup 1) distantSetup "event_inherited" [] 100001
        100001).map (·.2.isLive 100001) = some true := by
  have ho : distantSetup.game.object? 0 = some { parent := 1, events := [[⟨0, [0]⟩]] } := by
    decide +kernel
  have hfound : Game.handlerIn? EventType.create 0 (distantSetup.game.lineageUpTo 33 1) =
      some (33, ⟨0, [0]⟩) := by
    decide +kernel
  obtain ⟨links, -, hnear⟩ := (Game.handlerIn?_lineageUpTo_eq_some_iff 33).mp hfound
  refine ⟨⟨EventType.create, 0, 0⟩,
    { Machine.farewellWorld with event := some ⟨EventType.create, 0, 0⟩ }, _, links, 33, ⟨0, [0]⟩,
    .start ho rfl, ho, hnear, ?_, ?_⟩
  · decide +kernel
  · decide +kernel

end World

end GameRunner

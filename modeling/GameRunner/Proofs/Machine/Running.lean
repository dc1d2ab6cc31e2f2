import GameRunner.Machine.Run
import GameRunner.Proofs.Library.Tame
import GameRunner.Proofs.World.Effects

/-!
# Running code is an activity

Events, library functions, scripts, instructions and whole code entries do nothing but what an
activity with the effects of code does. Hence what holds of such activities holds of every run,
however deep scripts, events and `with` blocks are nested in it.
-/

namespace GameRunner

namespace World

section Events

variable {E : World → World → Prop}

theorem activity_runAll (self : Int32) (other : Option Int32) (codes : List Int32) (w : World) :
    Activity E id w fun exec => runAll exec self other codes w := by
  induction codes generalizing w with
  | nil => exact .done w
  | cons code rest ih => exact .bind (.run code self other) ih

theorem activity_during {w : World} {run : Exec → World → Option World} (c : EventContext)
    (h : Activity E id { w with event := some c } fun exec => run exec { w with event := some c }) :
    Activity E id w fun exec => w.during c (run exec) := by
  have hd := h.during (q := id) (some c) (fun after : World => { after with event := w.event })
    fun _ => rfl
  refine hd.congr fun exec => ?_
  rw [Option.map_eq_bind]
  rfl

theorem activity_runHandler (g : Game) (w : World) (self object : Int32) (type : Nat)
    (subtype : Int32) (other : Option Int32) :
    Activity E id w fun exec => runHandler exec g w self object type subtype other := by
  unfold runHandler
  split
  · exact .done w
  · exact activity_during _ (activity_runAll self other _ _)

end Events

variable {g : Game}

theorem mild_reportEvent (s : Setup) (w : World) (id object : Int32) (type : Nat) (subtype : Int32)
    (other : Option Int32) : Mild w (reportEvent s w id object type subtype other) := by
  unfold reportEvent
  dsimp only
  split_ifs
  · exact .log w _ _
  · exact .refl w

theorem activity_fire (s : Setup) (w : World) (self : Int32) (type : Nat) (subtype : Int32)
    (other : Option Int32) :
    Activity (Deed g) id w fun exec => w.fire exec s self type subtype other := by
  unfold fire
  split
  · exact .done w
  · exact .mildly (mild_reportEvent ..) (activity_runHandler ..)

theorem activity_fireInherited (s : Setup) (w : World) (self : Int32) (other : Option Int32) :
    Activity (Deed g) id w fun exec => w.fireInherited exec s self other := by
  unfold fireInherited
  split
  · exact .done w
  · split
    · exact .done w
    · exact activity_runHandler ..

theorem activity_spawn (s : Setup) (w : World) (object : Int32) (x y : Float) :
    Activity (Deed s.game) Prod.snd w fun exec => w.spawn exec s object x y :=
  .act (.create object x y) ((activity_fire ..).bind fun _ => .done (p := Prod.snd) (_, _))

theorem retains_destroyed : Instance.Retains fun i => { i with destroyed := true } :=
  ⟨fun _ => rfl, fun _ _ => rfl⟩

theorem activity_destroy (s : Setup) (w : World) (self : Int32) :
    Activity (Deed g) id w fun exec => w.destroy exec s self := by
  unfold destroy
  split_ifs
  · exact (activity_fire ..).bind fun v => .finish (.modify self retains_destroyed)
  · exact .done w

/-! ### Library functions and scripts -/

theorem deeds_modifySelf (w : World) {f : Instance → Instance} (hf : Instance.Retains f) :
    Deeds g w (w.modifySelf f) := by
  unfold modifySelf
  split
  · exact .modify w _ hf
  · exact .refl

theorem deeds_startPath (w : World) (path : Int32) (speed : Float) (endAction : Int32)
    (absolute : Bool) : Deeds g w (w.startPath g path speed endAction absolute) := by
  unfold startPath
  split
  · exact .refl
  · split
    · exact .modify w _ (Instance.retains_startPath ..)
    · exact .mild (.log w _ _)

theorem mild_gotoRoom (w : World) (index : Int32) : Mild w (w.gotoRoom g index) :=
  (Mild.log w _ _).trans (by constructor <;> rfl)

theorem quiet_gotoRoom (w : World) (index : Int32) : Quiet w (w.gotoRoom g index) :=
  (mild_gotoRoom w index).quiet

theorem activity_paint {E : World → World → Prop} {s : Setup} {w : World}
    {f : Setup → World → Option DrawCommand} (h : ∀ c, f s w = some c → E w (w.paint c)) :
    Activity E Prod.snd w fun exec => (Action.paint f).perform exec s w := by
  simp only [Action.perform]
  split
  · next c hc => exact .finish (h c hc)
  · exact .done (_, w)

/-- What an action draws may be of any kind; all else that it does are deeds. -/
theorem activity_perform {E : World → World → Prop} {s : Setup} {w : World} {a : Action}
    (hE : ∀ w v, Deed s.game w v → E w v)
    (hpaint : ∀ f, a = .paint f → ∀ c, f s w = some c → E w (w.paint c)) :
    Activity E Prod.snd w fun exec => a.perform exec s w := by
  by_cases hf : ∃ f, a = .paint f
  · obtain ⟨f, rfl⟩ := hf
    exact activity_paint (hpaint f rfl)
  · refine Activity.mono hE ?_
    cases a with
    | answer v => exact .done (v, w)
    | attempt v =>
      cases v with
      | none => exact .stuck
      | some v => exact .done (v, w)
    | query f => exact .done (f s w, w)
    | sample f =>
      simp only [Action.perform]
      cases f w.generator with
      | none => exact .stuck
      | some r => exact .finish (.mild (by constructor <;> rfl))
    | collect f => exact .finish (.mild (by constructor <;> rfl))
    | setPen f => exact .finish (.mild (by constructor <;> rfl))
    | paint f => exact absurd ⟨f, rfl⟩ hf
    | clearKey key => exact .finish (.editKeys w (.clear key))
    | setGlobal name v => exact .finish (.mild (by constructor <;> rfl))
    | say line => exact .finish (.mild (.log w _ _))
    | quit => exact .finish (.mild ((Mild.log w _ _).trans (by constructor <;> rfl)))
    | gotoRoom f => exact .finish (.mild (mild_gotoRoom w _))
    | moveTo x y => exact .finishes (deeds_modifySelf w ⟨fun _ => rfl, fun _ h => h⟩)
    | startPath path speed endAction absolute => exact .finishes (deeds_startPath ..)
    | leavePath => exact .finishes (deeds_modifySelf w ⟨fun _ => rfl, fun _ h => h⟩)
    | create object x y =>
      exact (activity_spawn s w object x y).bind fun r => .finish (.mild (.log r.2 _ _))
    | destroy =>
      simp only [Action.perform]
      split
      · exact (activity_destroy s w _).map _ fun _ => rfl
      · exact .done (_, w)
    | inherit =>
      simp only [Action.perform]
      split
      · exact (activity_fireInherited s w _ _).map _ fun _ => rfl
      · exact .done (_, w)

theorem activity_callAction {E : World → World → Prop} {s : Setup} {w : World}
    {plan : List Value → Except Fault Action} {args : List Value}
    (hE : ∀ w v, Deed s.game w v → E w v)
    (hpaint : ∀ f, plan args = .ok (.paint f) → ∀ c, f s w = some c → E w (w.paint c)) :
    Activity E Prod.snd w fun exec => w.callAction exec s plan args := by
  unfold callAction
  split
  · exact .done (_, w)
  · next action haction =>
    refine (activity_perform hE fun f hf => hpaint f ?_).map _ fun _ => rfl
    rw [haction, hf]

/-- An instance that is given the arguments of a script. -/
def givenArguments (args : List Value) (i : Instance) : Instance :=
  { i with vars := bind (bindings args) i.vars, returned := none }

/-- An instance that is given back what its variables held before a script. -/
def givenBack (old : List (String × Option Value)) (i : Instance) : Instance :=
  { i with vars := restore old i.vars, returned := none }

theorem retains_givenArguments (args : List Value) : Instance.Retains (givenArguments args) :=
  ⟨fun _ => rfl, fun _ h => h⟩

theorem retains_givenBack (old : List (String × Option Value)) : Instance.Retains (givenBack old) :=
  ⟨fun _ => rfl, fun _ h => h⟩

/-- The outcome of a script, once it has run on an instance. -/
def scriptOutcome (self : Int32) (old : List (String × Option Value)) (after : World) :
    Except Fault Value × World :=
  match after.instance? self with
  | none => (.ok .zero, after)
  | some i => (.ok (i.returned.getD .zero), after.modify self (givenBack old))

/-- A world in which one more script is being called. -/
def descend (w : World) : World := { w with callDepth := w.callDepth + 1 }

/-- A world in which one script less is being called. -/
def ascend (w : World) : World := { w with callDepth := w.callDepth - 1 }

/-- A script that can be run is run one call deeper, on the instance that has been given the
arguments. -/
theorem callScript_eq {w : World} {self : Int32} {i : Instance}
    (hdepth : w.callDepth < maxCallDepth) (hi : w.instance? self = some i) (exec : Exec)
    (code : Int32) (args : List Value) (other : Int32) :
    w.callScript exec code args self other =
      (exec (w.modify self (givenArguments args)).descend code self (some other)).map
        fun after =>
          scriptOutcome self (saved ((bindings args).map Prod.fst) i.vars) after.ascend := by
  unfold callScript
  rw [if_neg (Nat.not_le.mpr hdepth), hi]
  dsimp only
  split
  · next hrun =>
    have hnone : exec (w.modify self (givenArguments args)).descend code self (some other) = none :=
      hrun
    rw [hnone]
    rfl
  · next after hrun =>
    have hsome : exec (w.modify self (givenArguments args)).descend code self (some other) =
        some after := hrun
    rw [hsome, Option.map_some, scriptOutcome]
    split
    · next h => simp only [ascend, h]
    · next i h =>
      simp only [ascend, h]
      rfl

theorem activity_scriptOutcome (self : Int32) (old : List (String × Option Value)) (w : World) :
    Activity (Deed g) Prod.snd w fun _ => some (scriptOutcome self old w) := by
  unfold scriptOutcome
  split
  · exact .done (_, w)
  · exact .finish (.modify self (retains_givenBack old))

theorem activity_callScript (w : World) (code : Int32) (args : List Value) (self other : Int32) :
    Activity (Deed g) Prod.snd w fun exec => w.callScript exec code args self other := by
  by_cases hdepth : w.callDepth < maxCallDepth
  · cases hi : w.instance? self with
    | none =>
      simp only [callScript, if_neg (Nat.not_le.mpr hdepth), hi]
      exact .done (_, w)
    | some i =>
      refine Activity.congr ?_ fun exec => callScript_eq hdepth hi exec code args other
      have hrun : Activity (Deed g) id w fun exec =>
          (exec (w.modify self (givenArguments args)).descend code self (some other)).map ascend :=
        .act (.modify self (retains_givenArguments args))
          (.deeper (q := id) ascend hdepth (.run code self (some other)) fun _ => rfl)
      have hout := activity_scriptOutcome (g := g) self
        (saved ((bindings args).map Prod.fst) i.vars)
      refine (hrun.bind hout).congr fun exec => ?_
      rw [Option.bind_map, Option.map_eq_bind]
      rfl
  · simp only [callScript, if_pos (Nat.not_lt.mp hdepth)]
    exact .done (_, w)

theorem mild_reportUnknown (w : World) (name : String) (count : Nat) :
    Mild w (w.reportUnknown name count) := by
  unfold reportUnknown
  split_ifs
  · exact .refl w
  · exact (Mild.log w _ _).trans (by constructor <;> rfl)

theorem mild_reportCall (s : Setup) (w : World) (name : String) (args : List Value)
    (self : Int32) : Mild w (w.reportCall s name args self) := by
  unfold reportCall
  dsimp only
  split_ifs
  · exact .refl w
  · exact .log w _ _
  · exact .refl w

theorem activity_asCaller {E : World → World → Prop} {w : World} {self other : Int32}
    {run : Exec → World → CallResult}
    (h : Activity E Prod.snd { w with self := some self, other := some other } fun exec =>
      run exec { w with self := some self, other := some other }) :
    Activity E Prod.snd w fun exec => w.asCaller self other (run exec) :=
  h.calling (q := Prod.snd) (some self) (some other) _ fun _ => rfl

theorem activity_call (s : Setup) (w : World) (name : String) (args : List Value)
    (self other : Int32) :
    Activity (Deed s.game) Prod.snd w fun exec => w.call exec s name args self other := by
  unfold call
  refine .mildly (mild_reportCall s w name args self) (activity_asCaller ?_)
  split
  · next plan hnamed =>
    refine activity_callAction (fun _ _ => id) fun f hf c hc => ?_
    exact .paint _ ((Builtin.tame_of_named? hnamed args _ hf).2 s _ c hc)
  · cases args with
    | nil => exact .done (_, _)
    | cons index rest =>
      dsimp only
      split
      · exact activity_call s _ _ rest _ _
      · exact .finish (.mild (.log _ _ _))
  · split
    · exact activity_callScript ..
    · exact .finish (.mild (mild_reportUnknown ..))
termination_by args.length

/-- A function that need not be one of the library may draw anything. -/
theorem activity_callBuiltin (s : Setup) (w : World) (b : Builtin) (args : List Value) :
    Activity (Abiding (Effect s.game)) Prod.snd w fun exec => w.callBuiltin exec s b args := by
  unfold callBuiltin
  split
  · exact activity_callAction (fun _ _ => Deed.toAbiding) fun _ _ c _ => .paint w c
  · cases args with
    | nil => exact .done (_, _)
    | cons index rest =>
      dsimp only
      split
      · exact (activity_call ..).mono fun _ _ => Deed.toAbiding
      · exact .finish (.mild (.log _ _ _))

end World

/-! ### Instructions and code entries -/

namespace Machine

variable {g : Game}

/-- The world that an instruction or a run of instructions leaves. -/
def resultWorld {α : Type} (r : α × Frame × World) : World := r.2.2

theorem activity_proceed (f : Frame) (w : World) :
    Activity (Deed g) resultWorld w fun _ => proceed f w := .done (p := resultWorld) (_, f, w)

theorem activity_call (s : Setup) (i : Instruction) (f : Frame) (w : World) :
    Activity (Deed s.game) resultWorld w fun exec => call exec s i f w := by
  unfold call
  dsimp only
  split
  · exact .mildly (.log w _ _) (activity_proceed _ _)
  · next function h =>
    refine ((World.activity_call s w function.name (f.popMany i.argCount).1
      (f.popMany i.argCount).2.self (f.popMany i.argCount).2.other).bind (q := resultWorld)
        (k := fun r _ => match r with
          | (.error fault, w) => some (.error fault, (f.popMany i.argCount).2, w)
          | (.ok v, w) => proceed ((f.popMany i.argCount).2.push v) w) ?_).congr ?_
    · rintro ⟨_ | v, w⟩
      · exact .done (p := resultWorld) (_, _, w)
      · exact activity_proceed _ w
    · intro exec
      cases World.call exec s w function.name (f.popMany i.argCount).1
          (f.popMany i.argCount).2.self (f.popMany i.argCount).2.other with
      | none => rfl
      | some r => rcases r with ⟨_ | v, w⟩ <;> rfl

theorem activity_branchIf (truth : Bool) (i : Instruction) (f : Frame) (w : World) :
    Activity (Deed g) resultWorld w fun _ => branchIf truth i f w := by
  unfold branchIf
  dsimp only
  split_ifs
  · exact .done (p := resultWorld) (_, _, w)
  · exact activity_proceed _ w

theorem activity_pushEnv (g' : Game) (i : Instruction) (f : Frame) (w : World) :
    Activity (Deed g) resultWorld w fun _ => pushEnv g' i f w := by
  unfold pushEnv
  dsimp only
  split
  · exact .done (p := resultWorld) (_, _, w)
  · exact activity_proceed _ w

theorem activity_popEnv (i : Instruction) (f : Frame) (w : World) :
    Activity (Deed g) resultWorld w fun _ => popEnv i f w := by
  unfold popEnv
  split
  · exact activity_proceed _ w
  · dsimp only
    split
    · exact .done (p := resultWorld) (_, _, w)
    · exact activity_proceed _ w

theorem activity_push (g' : Game) (i : Instruction) (f : Frame) (w : World) :
    Activity (Deed g) resultWorld w fun _ => push g' i f w := by
  unfold push
  split <;> exact activity_proceed _ w

theorem activity_ret (f : Frame) (w : World) :
    Activity (Deed g) resultWorld w fun _ => ret f w := by
  unfold ret
  split
  · exact .done (p := resultWorld) (_, f, w)
  · exact .finish (p := resultWorld) (.modify f.entrySelf ⟨fun _ => rfl, fun _ h => h⟩)

/-- One case for each operation; those that are not named leave the world as it is. -/
theorem activity_step (s : Setup) (i : Instruction) (f : Frame) (w : World) :
    Activity (Deed s.game) resultWorld w fun exec => step exec s i f w := by
  unfold step
  split
  · exact .mildly (.log w _ _) (activity_proceed _ _)
  · next op hop =>
    cases op with
    | pop => exact .deeds (.of_strokes (.write s.game w f i)) (activity_proceed _ _)
    | ret => exact activity_ret f w
    | exit => exact .done (p := resultWorld) (_, f, w)
    | b => exact .done (p := resultWorld) (_, f, w)
    | bt => exact activity_branchIf true i f w
    | bf => exact activity_branchIf false i f w
    | pushenv => exact activity_pushEnv s.game i f w
    | popenv => exact activity_popEnv i f w
    | push => exact activity_push s.game i f w
    | call => exact activity_call s i f w
    | _ => exact activity_proceed _ w

theorem mild_reportStep (traced : Bool) (name : String) (i : Instruction) (f : Frame) (w : World) :
    Mild w (reportStep traced name i f w) := by
  unfold reportStep
  split_ifs <;> exact .log w _ _

theorem quiet_reportStep (traced : Bool) (name : String) (i : Instruction) (f : Frame) (w : World) :
    Quiet w (reportStep traced name i f w) := (mild_reportStep traced name i f w).quiet

theorem mild_reportTarget (code : Code) (name : String) (target : Option Nat) (w : World) :
    Mild w (reportTarget code name target w) := by
  unfold reportTarget
  split_ifs
  · exact .refl w
  · exact .log w _ _

theorem quiet_reportTarget (code : Code) (name : String) (target : Option Nat) (w : World) :
    Quiet w (reportTarget code name target w) := (mild_reportTarget code name target w).quiet

/-- What follows an instruction in a run. -/
def continueFrame (exec : Exec) (s : Setup) (code : Code) (name : String) (traced : Bool)
    (n : Nat) : Except Fault Signal × Frame × World → Option (Ending × Frame × World)
  | (.error fault, f, w) => some (.failed fault, f, w)
  | (.ok .next, f, w) => runFrame exec s code name traced n { f with pc := f.pc + 1 } w
  | (.ok (.branch target), f, w) =>
    runFrame exec s code name traced n { f with pc := landing code target }
      (reportTarget code name target w)
  | (.ok (.skip target), f, w) =>
    runFrame exec s code name traced n { f with pc := landingPast code target }
      (reportTarget code name target w)
  | (.ok (.returned v), f, w) => some (.returned v, f, w)

theorem runFrame_succ {code : Code} {f : Frame} {i : Instruction}
    (hi : code.instructions[f.pc]? = some i) (exec : Exec) (s : Setup) (name : String)
    (traced : Bool) (n : Nat) (w : World) :
    runFrame exec s code name traced (n + 1) f w =
      (step exec s i f (reportStep traced name i f w)).bind
        (continueFrame exec s code name traced n) := by
  rw [runFrame, hi]
  dsimp only
  cases step exec s i f (reportStep traced name i f w) with
  | none => rfl
  | some r => rcases r with ⟨_ | signal, f, w⟩ <;> [rfl; cases signal <;> rfl]

theorem activity_runFrame (s : Setup) (code : Code) (name : String) (traced : Bool) (n : Nat)
    (f : Frame) (w : World) :
    Activity (Deed s.game) resultWorld w fun exec =>
      runFrame exec s code name traced n f w := by
  induction n generalizing f w with
  | zero =>
    unfold runFrame
    split_ifs
    · exact .finish (p := resultWorld) (.countCutOff (.log w _ _))
    · exact .done (p := resultWorld) (_, f, w)
  | succ n ih =>
    cases hi : code.instructions[f.pc]? with
    | none =>
      simp only [runFrame, hi]
      exact .done (p := resultWorld) (_, f, w)
    | some i =>
      refine Activity.congr ?_ fun exec => runFrame_succ hi exec s name traced n w
      refine .mildly (mild_reportStep traced name i f w)
        ((activity_step s i f _).bind (q := resultWorld) ?_)
      rintro ⟨_ | signal, f, v⟩
      · exact .done (p := resultWorld) (_, f, v)
      · cases signal with
        | next => exact ih _ v
        | branch target => exact .mildly (mild_reportTarget code name target v) (ih _ _)
        | skip target => exact .mildly (mild_reportTarget code name target v) (ih _ _)
        | returned value => exact .done (p := resultWorld) (_, f, v)

/-- The world that the end of an entry leaves. -/
def endEntry (code : Code) (name : String) : Ending × Frame × World → World
  | (.failed fault, f, w) => reportFault code name fault f w
  | (_, _, w) => w

theorem runEntry_eq {s : Setup} {code : Int32} {c : Code} (hc : s.program.code? code = some c)
    (hne : c.isEmpty = false) (exec : Exec) (w : World) (self : Int32) (other : Option Int32) :
    runEntry exec s w code self other =
      (runFrame exec s c (s.game.codeName code)
        (s.settings.trace.tracesInstructions (s.game.codeName code)) s.settings.maxInstructions
        (.start code self (other.getD self)) w).map (endEntry c (s.game.codeName code)) := by
  unfold runEntry
  rw [hc]
  dsimp only
  rw [hne, if_neg Bool.false_ne_true]
  cases runFrame exec s c (s.game.codeName code)
      (s.settings.trace.tracesInstructions (s.game.codeName code)) s.settings.maxInstructions
      (.start code self (other.getD self)) w with
  | none => rfl
  | some r =>
    rcases r with ⟨ending, f, v⟩
    cases ending <;> rfl

theorem activity_runEntry (s : Setup) (w : World) (code self : Int32) (other : Option Int32) :
    Activity (Deed s.game) id w fun exec => runEntry exec s w code self other := by
  cases hc : s.program.code? code with
  | none =>
    simp only [runEntry, hc]
    exact .finish (p := id) (.mild (.log w _ _))
  | some c =>
    cases hne : c.isEmpty with
    | true =>
      simp only [runEntry, hc, hne, if_true]
      exact .done (p := id) w
    | false =>
      refine Activity.congr ?_ fun exec => runEntry_eq hc hne exec w self other
      simp only [Option.map_eq_bind]
      refine (activity_runFrame s c _ _ _ _ w).bind (q := id) ?_
      rintro ⟨ending, f, v⟩
      cases ending with
      | failed fault => exact .finish (p := id) (.mild (.log v _ _))
      | _ => exact .done (p := id) v

/-- Every run of code leaves the context as it was. -/
theorem keepsContext_execute (s : Setup) (depth : Nat) :
    Exec.KeepsContext (execute s depth) := by
  induction depth with
  | zero =>
    intro w code self other w' h
    cases h
  | succ depth ih =>
    intro w code self other w' h
    exact (activity_runEntry s w code self other).context_eq (fun _ _ he => he.context_eq) ih h

/-- What all effects of code have in common as a relation between two worlds, every run of code has
too, if the relation takes no notice of the context. -/
theorem keeps_execute {s : Setup} {R : World → World → Prop}
    (hE : ∀ w v, Deed s.game w v → R w v) (htrans : ∀ w v u, R w v → R v u → R w u)
    (hcontext : ∀ w c, R w (w.withContext c)) (depth : Nat) :
    Exec.Keeps R (execute s depth) := by
  induction depth with
  | zero =>
    intro w code self other w' h
    cases h
  | succ depth ih =>
    intro w code self other w' h
    exact (activity_runEntry s w code self other).rel hE htrans hcontext ih h

end Machine

end GameRunner

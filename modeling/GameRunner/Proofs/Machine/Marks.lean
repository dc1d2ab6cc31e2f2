import GameRunner.Proofs.Event.Inheritance
import GameRunner.Proofs.World.Selection

/-!
# What becomes of instances while code runs

While code runs, instances are made and come to their end, scripts are called on them, and values are
returned for them. Each of these moments is noted, in order, along the same way that the run takes, also
if the run does not come to an end. What is noted is all that happens to the returned value of an
instance and to whether it is destroyed: between two notes both stay as they are.
-/

namespace GameRunner

/-- What is noted: an instance is made, it is about to handle its end, it is destroyed, a script is
about to run on it, the script is over, or an entry that was started on it returns a value. -/
inductive Mark
  | created (id : Int32)
  | ending (id : Int32)
  | destroyed (id : Int32)
  | called (id : Int32)
  | answered (id : Int32)
  | returned (id : Int32) (v : Value)

/-- Tells what is noted while a code entry runs. -/
abbrev Marking := World → (code self : Int32) → (other : Option Int32) → List Mark

/-! ### What is noted -/

namespace World

section Listing

variable (exec : Exec) (noted : Marking) (s : Setup)

def marksOfAll (id : Int32) (other : Option Int32) : List Int32 → World → List Mark
  | [], _ => []
  | code :: rest, w =>
    noted w code id other ++ (exec w code id other).elim [] (marksOfAll id other rest)

def marksOfHandler (w : World) (id object : Int32) (type : Nat) (subtype : Int32)
    (other : Option Int32) : List Mark :=
  match s.game.handler? object type subtype with
  | none => []
  | some (handling, handler) =>
    marksOfAll exec noted id other (handler.actions.filter (0 ≤ ·))
      { w with event := some ⟨type, subtype, handling⟩ }

def marksOfEvent (w : World) (id : Int32) (type : Nat) (subtype : Int32)
    (other : Option Int32) : List Mark :=
  match w.instance? id with
  | none => []
  | some i =>
    marksOfHandler exec noted s (reportEvent s w id i.objectIndex type subtype other) id
      i.objectIndex type subtype other

def marksOfInherited (w : World) (id : Int32) (other : Option Int32) : List Mark :=
  match w.event with
  | none => []
  | some context =>
    match s.game.object? context.object with
    | none => []
    | some o => marksOfHandler exec noted s w id o.parent context.type context.subtype other

def marksOfSpawn (w : World) (object : Int32) (x y : Float) : List Mark :=
  let (id, v) := w.create s.game object x y none
  .created id :: marksOfEvent exec noted s v id EventType.create 0 none

/-- The instance is destroyed only after it has handled its end. -/
def marksOfDestroy (w : World) (id : Int32) : List Mark :=
  if w.isLive id then
    .ending id :: (marksOfEvent exec noted s w id EventType.destroy 0 none ++
      (w.fire exec s id EventType.destroy 0 none).elim [] fun _ => [.destroyed id])
  else []

def marksOfAction (w : World) : Action → List Mark
  | .create object x y => marksOfSpawn exec noted s w object x y
  | .destroy => w.self.elim [] (marksOfDestroy exec noted s w)
  | .inherit => w.self.elim [] fun id => marksOfInherited exec noted s w id w.other
  | _ => []

def marksOfPlan (w : World) (plan : List Value → Except Fault Action) (args : List Value) :
    List Mark :=
  match plan args with
  | .error _ => []
  | .ok action => marksOfAction exec noted s w action

def marksOfScript (w : World) (code : Int32) (args : List Value) (self other : Int32) :
    List Mark :=
  if maxCallDepth ≤ w.callDepth then []
  else
    match w.instance? self with
    | none => []
    | some _ =>
      let entered := (w.modify self (givenArguments args)).descend
      .called self :: (noted entered code self (some other) ++
        (exec entered code self (some other)).elim [] fun _ => [.answered self])

def marksOfCall (w : World) (name : String) (args : List Value) (self other : Int32) :
    List Mark :=
  let w := w.calling s name args self other
  match Builtin.named? name with
  | some (.action plan) => marksOfPlan exec noted s w plan args
  | some .runScript =>
    match args with
    | [] => []
    | index :: rest =>
      match w.scriptTarget? s index.toInt with
      | some (script, id) => marksOfCall w script rest id id
      | none => []
  | none =>
    match s.program.scriptCode? name with
    | some code => marksOfScript exec noted w code args self other
    | none => []

def marksOfBuiltin (w : World) (b : Builtin) (args : List Value) : List Mark :=
  match b with
  | .action plan => marksOfPlan exec noted s w plan args
  | .runScript =>
    match args with
    | [] => []
    | index :: rest =>
      match w.scriptTarget? s index.toInt with
      | some (script, id) => marksOfCall exec noted s w script rest id id
      | none => []

end Listing

end World

namespace Machine

section Listing

variable (exec : Exec) (noted : Marking) (s : Setup)

def marksOfFunction (i : Instruction) (f : Frame) (w : World) : List Mark :=
  let (args, f) := f.popMany i.argCount
  match tableAt? s.game.functionTable i.functionIndex with
  | none => []
  | some function => World.marksOfCall exec noted s w function.name args f.self f.other

def marksOfRet (f : Frame) : List Mark := f.stack.head?.elim [] fun v => [.returned f.entrySelf v]

def marksOfStep (i : Instruction) (f : Frame) (w : World) : List Mark :=
  if i.op? = some .call then marksOfFunction exec noted s i f w
  else if i.op? = some .ret then marksOfRet f
  else []

def marksOfFrame (code : Code) (name : String) (traced : Bool) : Nat → Frame → World → List Mark
  | 0, _, _ => []
  | n + 1, f, w =>
    match code.instructions[f.pc]? with
    | none => []
    | some i =>
      marksOfStep exec noted s i f (reportStep traced name i f w) ++
        (advance exec s name traced code f w).elim [] fun r =>
          marksOfFrame code name traced n r.1 r.2

def marksOfEntry : Marking := fun w code self other =>
  match s.program.code? code with
  | none => []
  | some c =>
    if c.isEmpty then []
    else
      let name := s.game.codeName code
      marksOfFrame exec noted s c name (s.settings.trace.tracesInstructions name)
        s.settings.maxInstructions (.start code self (other.getD self)) w

end Listing

/-- What is noted while a code entry runs, with others nested in it up to a depth. -/
def marks (s : Setup) : (depth : Nat) → Marking
  | 0 => fun _ _ _ _ => []
  | depth + 1 => marksOfEntry (execute s depth) (marks s depth) s

end Machine

/-! ### What goes with a note, and what is between two of them -/

/-- The returned value of an instance, and whether it is destroyed. -/
structure Standing where
  returned : Option Value
  destroyed : Bool

def Instance.standing (i : Instance) : Standing := ⟨i.returned, i.destroyed⟩

def World.standing? (w : World) (id : Int32) : Option Standing :=
  (w.instance? id).map Instance.standing

/-- Nothing happens that would be noted. In particular nobody comes, goes or changes places. -/
structure World.Calm (w v : World) : Prop where
  standing?_eq (id : Int32) : v.standing? id = w.standing? id
  ids : v.instances.ids = w.instances.ids

/-- What becomes of the standing of an instance when something is noted about it. -/
def Mark.follow (before : Option Standing) : Mark → Option Standing
  | created _ => some ⟨none, false⟩
  | ending _ => before
  | destroyed _ => before.map fun s => { s with destroyed := true }
  | called _ => before.map fun s => { s with returned := none }
  | answered _ => before.map fun s => { s with returned := none }
  | returned _ v => before.map fun s => { s with returned := some v }

/-- The instance about which something is noted. -/
def Mark.id : Mark → Int32
  | created id => id
  | ending id => id
  | destroyed id => id
  | called id => id
  | answered id => id
  | returned id _ => id

/-- What happens to the world when something is noted. -/
inductive Noted (g : Game) : World → Mark → World → Prop
  | created {w : World} (object : Int32) (x y : Float) (id? : Option Int32) :
    Noted g w (.created (w.create g object x y id?).1) (w.create g object x y id?).2
  | ending {w : World} {id : Int32} : w.isLive id = true → Noted g w (.ending id) w
  | destroyed {w : World} (id : Int32) :
    Noted g w (.destroyed id) (w.modify id fun i => { i with destroyed := true })
  | called {w : World} (id : Int32) (args : List Value) :
    Noted g w (.called id) (w.modify id (World.givenArguments args))
  | answered {w : World} (id : Int32) (old : List (String × Option Value)) :
    Noted g w (.answered id) (w.modify id (World.givenBack old))
  | returned {w : World} (id : Int32) (v : Value) :
    Noted g w (.returned id v) (w.modify id fun i => { i with returned := some v })

/-- A world comes of another one by what is noted, with changes of some kind before, between and
after. -/
inductive Annals (C : World → World → Prop) (g : Game) : World → List Mark → World → Prop
  | refl (w : World) : Annals C g w [] w
  | between {w v u : World} {l : List Mark} : C w v → Annals C g v l u → Annals C g w l u
  | note {w v u : World} {m : Mark} {l : List Mark} :
    Noted g w m v → Annals C g v l u → Annals C g w (m :: l) u

namespace World

theorem standing?_modify (w : World) (id k : Int32) {f : Instance → Instance}
    {g : Standing → Standing} (hf : ∀ i, (f i).standing = g i.standing) :
    (w.modify id f).standing? k = if k = id then (w.standing? k).map g else w.standing? k := by
  unfold standing?
  rw [instance?_modify]
  split_ifs with hk
  · rw [hk, Option.map_map, Option.map_map]
    exact congrArg (Option.map · _) (funext hf)
  · rfl

theorem standing_dress (g : Game) (i : Instance) : (dress g i).standing = i.standing := by
  unfold dress
  split <;> rfl

theorem standing?_create (g : Game) (w : World) (object : Int32) (x y : Float) (id? : Option Int32)
    (k : Int32) :
    (w.create g object x y id?).2.standing? k =
      if k = (w.create g object x y id?).1 then some ⟨none, false⟩ else w.standing? k := by
  have hid : (dress g (.create (w.create g object x y id?).1 object x y)).id =
      (w.create g object x y id?).1 := id_dress g _
  have hget := Roster.get?_insert w.instances
    (dress g (.create (w.create g object x y id?).1 object x y)) k
  rw [hid] at hget
  refine (congrArg (Option.map Instance.standing) hget).trans ?_
  by_cases hk : k = (w.create g object x y id?).1
  · rw [if_pos hk.symm, if_pos hk, Option.map_some, standing_dress]
    rfl
  · rw [if_neg (Ne.symm hk), if_neg hk]
    rfl

theorem isLive_eq_standing? (w : World) (id : Int32) :
    w.isLive id = (w.standing? id).any fun s => !s.destroyed := by
  unfold isLive Roster.isLive standing? instance?
  cases w.instances.get? id <;> rfl

end World

/-- What is noted about an instance is what happens to its standing, and nothing happens to that of any
other instance. -/
theorem Noted.standing?_eq {g : Game} {w v : World} {m : Mark} (h : Noted g w m v) (k : Int32) :
    v.standing? k = if k = m.id then m.follow (w.standing? k) else w.standing? k := by
  cases h with
  | created object x y id? => exact World.standing?_create ..
  | ending _ =>
    split_ifs <;> rfl
  | destroyed id =>
    exact w.standing?_modify id k (g := fun s => { s with destroyed := true }) fun _ => rfl
  | called id args =>
    exact w.standing?_modify id k (g := fun s => { s with returned := none }) fun _ => rfl
  | answered id old =>
    exact w.standing?_modify id k (g := fun s => { s with returned := none }) fun _ => rfl
  | returned id v =>
    exact w.standing?_modify id k (g := fun s => { s with returned := some v }) fun _ => rfl

namespace World.Calm

variable {w v u : World}

theorem refl (w : World) : w.Calm w := ⟨fun _ => rfl, rfl⟩

theorem trans (h : w.Calm v) (h' : v.Calm u) : w.Calm u :=
  ⟨fun id => (h'.standing?_eq id).trans (h.standing?_eq id), h'.ids.trans h.ids⟩

theorem of_instances (h : v.instances = w.instances) : w.Calm v := by
  refine ⟨fun id => ?_, congrArg Roster.ids h⟩
  unfold standing? instance?
  rw [h]

theorem of_onlyReports (h : w.OnlyReports v) : w.Calm v := by
  obtain ⟨lines, rfl⟩ := h
  exact .of_instances rfl

theorem log (w : World) (severity : Severity) (line : Unit → String) :
    w.Calm (w.log severity line) := .of_onlyReports (.log w severity line)

theorem modify (w : World) (id : Int32) {f : Instance → Instance}
    (hf : ∀ i, (f i).standing = i.standing) : w.Calm (w.modify id f) := by
  refine ⟨fun k => ?_, Roster.ids_modify ..⟩
  rw [standing?_modify w id k (g := fun s => s) hf]
  split_ifs
  · exact Option.map_id'
  · rfl

theorem modifySelf (w : World) {f : Instance → Instance}
    (hf : ∀ i, (f i).standing = i.standing) : w.Calm (w.modifySelf f) := by
  unfold World.modifySelf
  split
  · exact modify w _ hf
  · exact .refl w

end World.Calm

namespace Instance

theorem standing_store (i : Instance) (name : String) (v : Value) :
    (i.store name v).standing = i.standing := by
  unfold store
  split
  · next h =>
    unfold withField? at h
    split at h <;> cases h <;> rfl
  · rfl

theorem standing_storeElement (i : Instance) (name : String) (index : Int32) (v : Value) :
    (i.storeElement name index v).standing = i.standing := by
  unfold storeElement
  split_ifs <;> rfl

theorem standing_startPath (i : Instance) (path : Int32) (speed : Float) (endAction : Int32)
    (absolute : Bool) (start : PathPoint) :
    (i.startPath path speed endAction absolute start).standing = i.standing := by
  unfold startPath
  dsimp only
  split_ifs <;> rfl

end Instance

theorem Strokes.calm {w v : World} (h : Strokes w v) : w.Calm v := by
  induction h with
  | refl => exact .refl w
  | tail _ hstroke ih =>
    refine ih.trans ?_
    cases hstroke with
    | store id name v => exact .modify _ id fun i => i.standing_store name v
    | storeElement id name index v =>
      exact .modify _ id fun i => i.standing_storeElement name index v
    | _ => exact .of_instances rfl

theorem World.calm_startPath (g : Game) (w : World) (path : Int32) (speed : Float)
    (endAction : Int32) (absolute : Bool) :
    w.Calm (w.startPath g path speed endAction absolute) := by
  unfold startPath
  split
  · exact .refl w
  · split
    · exact .modify w _ fun i => i.standing_startPath ..
    · exact .log w _ _

namespace Annals

variable {C : World → World → Prop} {g : Game} {w v u : World} {l l' : List Mark}

theorem trans (h : Annals C g w l v) (h' : Annals C g v l' u) : Annals C g w (l ++ l') u := by
  induction h with
  | refl => exact h'
  | between hcalm _ ih => exact .between hcalm (ih h')
  | note hnoted _ ih => exact .note hnoted (ih h')

theorem of_between (h : C w v) : Annals C g w [] v := .between h (.refl v)

theorem single {m : Mark} (h : Noted g w m v) : Annals C g w [m] v := .note h (.refl v)

theorem mono {C' : World → World → Prop} (hC : ∀ w v, C w v → C' w v) (h : Annals C g w l v) :
    Annals C' g w l v := by
  induction h with
  | refl => exact .refl _
  | between hcalm _ ih => exact .between (hC _ _ hcalm) ih
  | note hnoted _ ih => exact .note hnoted ih

/-- The world at a moment between two notes. -/
theorem split (h : Annals C g w (l ++ l') u) : ∃ v, Annals C g w l v ∧ Annals C g v l' u := by
  generalize hl : l ++ l' = m at h
  induction h generalizing l with
  | refl =>
    obtain ⟨rfl, rfl⟩ := List.append_eq_nil_iff.mp hl
    exact ⟨_, .refl _, .refl _⟩
  | between hcalm _ ih =>
    obtain ⟨x, hx, hrest⟩ := ih hl
    exact ⟨x, .between hcalm hx, hrest⟩
  | @note a b c m rest hnoted htail ih =>
    cases l with
    | nil =>
      subst hl
      exact ⟨_, .refl _, .note hnoted htail⟩
    | cons m' l =>
      obtain ⟨rfl, rfl⟩ := List.cons_eq_cons.mp hl
      obtain ⟨x, hx, hrest⟩ := ih rfl
      exact ⟨x, .note hnoted hx, hrest⟩

/-- The worlds before and after something is noted first. -/
theorem exists_noted {m : Mark} (h : Annals C g w (m :: l) u) :
    ∃ v v', Annals C g w [] v ∧ Noted g v m v' ∧ Annals C g v' l u := by
  generalize hl : m :: l = k at h
  induction h with
  | refl => cases hl
  | between hcalm _ ih =>
    obtain ⟨v, v', hv, hnoted, hrest⟩ := ih hl
    exact ⟨v, v', .between hcalm hv, hnoted, hrest⟩
  | note hnoted htail _ =>
    cases hl
    exact ⟨_, _, .refl _, hnoted, htail⟩

end Annals

/-- What is listed is noted on the way to whatever something comes to, or up to some world if it comes
to nothing. -/
structure Records {α : Type} (C : World → World → Prop) (g : Game) (p : α → World) (w : World)
    (l : List Mark) (m : Option α) : Prop where
  started : ∃ v, Annals C g w l v
  ended (a : α) : m = some a → Annals C g w l (p a)

/-- The list for code is what is noted while it runs. -/
def Exec.Records (C : World → World → Prop) (g : Game) (exec : Exec) (noted : Marking) : Prop :=
  ∀ w code self other,
    GameRunner.Records C g id w (noted w code self other) (exec w code self other)

namespace Records

variable {α β : Type} {C : World → World → Prop} {g : Game} {p : α → World} {q : β → World}
  {w v : World} {l : List Mark} {m : Option α}

theorem of_annals {a : α} (h : Annals C g w l (p a)) : Records C g p w l (some a) :=
  ⟨⟨_, h⟩, fun b hb => by cases hb; exact h⟩

theorem done (a : α) : Records C g p (p a) [] (some a) := of_annals (.refl _)

theorem finish {a : α} (h : C w (p a)) : Records C g p w [] (some a) := of_annals (.of_between h)

theorem stuck (w : World) : Records C g p w [] none := ⟨⟨w, .refl w⟩, fun _ ha => by cases ha⟩

theorem before (hr : Records C g p v l m) (h : C w v) : Records C g p w l m where
  started := hr.started.imp fun _ hu => .between h hu
  ended a ha := .between h (hr.ended a ha)

theorem note {k : Mark} (h : Noted g w k v) (hr : Records C g p v l m) :
    Records C g p w (k :: l) m where
  started := hr.started.imp fun _ hu => .note h hu
  ended a ha := .note h (hr.ended a ha)

theorem append {l' : List Mark} (h : Annals C g w l v) (hr : Records C g p v l' m) :
    Records C g p w (l ++ l') m where
  started := hr.started.imp fun _ hu => h.trans hu
  ended a ha := h.trans (hr.ended a ha)

theorem bind {k : α → Option β} {l' : α → List Mark} (h : Records C g p w l m)
    (hk : ∀ a, m = some a → Records C g q (p a) (l' a) (k a)) :
    Records C g q w (l ++ m.elim [] l') (m.bind k) := by
  cases hm : m with
  | none =>
    obtain ⟨u, hu⟩ := h.started
    exact .append hu (.stuck u)
  | some a => exact .append (h.ended a hm) (hk a hm)

theorem mono {C' : World → World → Prop} (hC : ∀ w v, C w v → C' w v) (h : Records C g p w l m) :
    Records C' g p w l m where
  started := h.started.imp fun _ hv => hv.mono hC
  ended a ha := (h.ended a ha).mono hC

theorem map {f : α → β} (h : Records C g p w l m) (hf : ∀ a, C (p a) (q (f a))) :
    Records C g q w l (m.map f) where
  started := h.started
  ended b hb := by
    obtain ⟨a, ha, rfl⟩ := Option.map_eq_some_iff.mp hb
    simpa using (h.ended a ha).trans (.of_between (hf a))

theorem world (h : Records C g p w l m) : Records C g id w l (m.map p) where
  started := h.started
  ended v hv := by
    obtain ⟨a, ha, rfl⟩ := Option.map_eq_some_iff.mp hv
    exact h.ended a ha

end Records

/-! ### The list is what is noted -/

namespace World

variable {w : World} {g : Game} {l : List Mark}

theorem records_during (c : EventContext) {run : World → Option World}
    (h : Records Calm g id { w with event := some c } l (run { w with event := some c })) :
    Records Calm g id w l (w.during c run) := by
  have hafter := h.map (q := id) (f := fun after => { after with event := w.event })
    fun after => .of_instances rfl
  rw [Option.map_eq_bind] at hafter
  exact hafter.before (.of_instances rfl)

theorem records_asCaller {self other : Int32} {run : World → CallResult}
    (h : Records Calm g Prod.snd { w with self := some self, other := some other } l
      (run { w with self := some self, other := some other })) :
    Records Calm g Prod.snd w l (w.asCaller self other run) := by
  have hafter := h.map (q := Prod.snd)
    (f := fun r => (r.1, { r.2 with self := w.self, other := w.other })) fun _ => .of_instances rfl
  exact hafter.before (.of_instances rfl)

theorem calm_reportEvent (s : Setup) (w : World) (self object : Int32) (type : Nat)
    (subtype : Int32) (other : Option Int32) :
    w.Calm (reportEvent s w self object type subtype other) :=
  .of_instances (mild_reportEvent s w self object type subtype other).instances

/-- Giving back the arguments is all that happens once a script is over, if anything. -/
theorem annals_scriptOutcome (self : Int32) (old : List (String × Option Value)) (w : World) :
    Annals Calm g w [.answered self] (scriptOutcome self old w.ascend).2 := by
  refine .between (.of_instances (v := w.ascend) rfl) ?_
  unfold scriptOutcome
  cases hi : w.ascend.instance? self with
  | none =>
    have hmissing : (w.ascend.modify self (givenBack old)).Calm w.ascend := by
      refine ⟨fun k => ?_, (Roster.ids_modify ..).symm⟩
      unfold standing?
      rw [instance?_modify]
      split_ifs with hk
      · rw [hk, hi]
        rfl
      · rfl
    exact .note (.answered self old) (.of_between hmissing)
  | some i => exact .single (.answered self old)

end World

section Recording

variable {exec : Exec} {noted : Marking} {s : Setup} (hexec : exec.Records World.Calm s.game noted)

include hexec

namespace World

theorem records_runAll (self : Int32) (other : Option Int32) (codes : List Int32) (w : World) :
    Records Calm s.game id w (marksOfAll exec noted self other codes w)
      (runAll exec self other codes w) := by
  induction codes generalizing w with
  | nil => exact .done w
  | cons code rest ih => exact (hexec w code self other).bind fun v _ => ih v

theorem records_runHandler (w : World) (self object : Int32) (type : Nat) (subtype : Int32)
    (other : Option Int32) :
    Records Calm s.game id w (marksOfHandler exec noted s w self object type subtype other)
      (runHandler exec s.game w self object type subtype other) := by
  unfold runHandler marksOfHandler
  cases s.game.handler? object type subtype with
  | none => exact .done w
  | some r =>
    obtain ⟨handling, handler⟩ := r
    exact records_during _ (records_runAll hexec self other _ _)

theorem records_fire (w : World) (self : Int32) (type : Nat) (subtype : Int32)
    (other : Option Int32) :
    Records Calm s.game id w (marksOfEvent exec noted s w self type subtype other)
      (w.fire exec s self type subtype other) := by
  unfold fire marksOfEvent
  cases w.instance? self with
  | none => exact .done w
  | some i => exact (records_runHandler hexec _ self _ type subtype other).before (calm_reportEvent ..)

theorem records_fireInherited (w : World) (self : Int32) (other : Option Int32) :
    Records Calm s.game id w (marksOfInherited exec noted s w self other)
      (w.fireInherited exec s self other) := by
  unfold fireInherited marksOfInherited
  cases w.event with
  | none => exact .done w
  | some context =>
    dsimp only
    cases s.game.object? context.object with
    | none => exact .done w
    | some o => exact records_runHandler hexec ..

theorem records_spawn (w : World) (object : Int32) (x y : Float) :
    Records Calm s.game Prod.snd w (marksOfSpawn exec noted s w object x y)
      (w.spawn exec s object x y) := by
  have hfire := (records_fire hexec (w.create s.game object x y none).2
    (w.create s.game object x y none).1 EventType.create 0 none).map (q := Prod.snd)
      (f := fun v => ((w.create s.game object x y none).1, v)) fun v => .refl v
  rw [Option.map_eq_bind] at hfire
  exact hfire.note (.created object x y none)

theorem records_destroy (w : World) (self : Int32) :
    Records Calm s.game id w (marksOfDestroy exec noted s w self) (w.destroy exec s self) := by
  unfold destroy marksOfDestroy
  by_cases hlive : w.isLive self = true
  · rw [if_pos hlive, if_pos hlive]
    refine .note (.ending hlive) ((records_fire hexec w self _ 0 none).bind fun v _ => ?_)
    exact .of_annals (.single (.destroyed self))
  · rw [if_neg hlive, if_neg hlive]
    exact .done w

theorem records_perform (w : World) (a : Action) :
    Records Calm s.game Prod.snd w (marksOfAction exec noted s w a) (a.perform exec s w) := by
  cases a with
  | create object x y =>
    have hspawn := (records_spawn hexec w object x y).map (q := Prod.snd)
      (f := fun r : Int32 × World => (Value.ofInt r.1, r.2.log .debug fun _ =>
        s!"instance_create({s.game.objectName object}) -> {r.1}")) fun r => .log r.2 _ _
    rw [Option.map_eq_bind] at hspawn
    exact hspawn
  | destroy =>
    simp only [Action.perform, marksOfAction]
    cases w.self with
    | none => exact .done (p := Prod.snd) (Value.zero, w)
    | some self => exact (records_destroy hexec w self).map fun v => .refl v
  | inherit =>
    simp only [Action.perform, marksOfAction]
    cases w.self with
    | none => exact .done (p := Prod.snd) (Value.zero, w)
    | some self => exact (records_fireInherited hexec w self w.other).map fun v => .refl v
  | attempt v =>
    cases v with
    | none => exact .stuck w
    | some v => exact .done (p := Prod.snd) (v, w)
  | sample f =>
    simp only [Action.perform, marksOfAction]
    cases f w.generator with
    | none => exact .stuck w
    | some r => exact .finish (.of_instances rfl)
  | paint f =>
    simp only [Action.perform, marksOfAction]
    cases f s w with
    | none => exact .done (p := Prod.snd) (Value.zero, w)
    | some c => exact .finish (.of_instances rfl)
  | say line => exact .finish (.log w _ _)
  | quit => exact .finish ((Calm.log w _ _).trans (.of_instances rfl))
  | gotoRoom f => exact .finish ((Calm.log w _ _).trans (.of_instances rfl))
  | moveTo x y => exact .finish (.modifySelf w fun _ => rfl)
  | startPath path speed endAction absolute => exact .finish (calm_startPath ..)
  | leavePath => exact .finish (.modifySelf w fun _ => rfl)
  | _ => exact .finish (.of_instances rfl)

theorem records_callAction (w : World) (plan : List Value → Except Fault Action)
    (args : List Value) :
    Records Calm s.game Prod.snd w (marksOfPlan exec noted s w plan args)
      (w.callAction exec s plan args) := by
  unfold callAction marksOfPlan
  cases plan args with
  | error fault => exact .done (p := Prod.snd) (Except.error fault, w)
  | ok action => exact (records_perform hexec w action).map fun r => .refl r.2

theorem records_callScript (w : World) (code : Int32) (args : List Value) (self other : Int32) :
    Records Calm s.game Prod.snd w (marksOfScript exec noted w code args self other)
      (w.callScript exec code args self other) := by
  by_cases hdepth : w.callDepth < maxCallDepth
  · cases hi : w.instance? self with
    | none =>
      simp only [callScript, marksOfScript, if_neg (Nat.not_le.mpr hdepth), hi]
      exact .done (p := Prod.snd) (_, w)
    | some i =>
      simp only [callScript_eq hdepth hi, marksOfScript, if_neg (Nat.not_le.mpr hdepth), hi]
      refine .note (.called self args) (.before ?_
        (.of_instances (v := (w.modify self (givenArguments args)).descend) rfl))
      rw [Option.map_eq_bind]
      exact (hexec _ code self (some other)).bind fun after _ =>
        .of_annals (annals_scriptOutcome self _ after)
  · simp only [callScript, marksOfScript, if_pos (Nat.not_lt.mp hdepth)]
    exact .done (p := Prod.snd) (_, w)

theorem records_call (w : World) (name : String) (args : List Value) (self other : Int32) :
    Records Calm s.game Prod.snd w (marksOfCall exec noted s w name args self other)
      (w.call exec s name args self other) := by
  have hreport : w.Calm (w.reportCall s name args self) := .of_onlyReports (.reportCall ..)
  refine .before ?_ hreport
  unfold call marksOfCall
  apply records_asCaller
  generalize hu : w.calling s name args self other = u
  unfold calling at hu
  rw [hu]
  cases Builtin.named? name with
  | none =>
    dsimp only
    cases s.program.scriptCode? name with
    | none => exact .finish (.of_instances (mild_reportUnknown u name args.length).instances)
    | some code => exact records_callScript hexec u code args self other
  | some b =>
    cases b with
    | action plan => exact records_callAction hexec u plan args
    | runScript =>
      cases args with
      | nil => exact .done (p := Prod.snd) (_, u)
      | cons index rest =>
        dsimp only
        cases u.scriptTarget? s index.toInt with
        | none => exact .finish (.log u _ _)
        | some target => exact records_call u target.1 rest target.2 target.2
termination_by args.length

theorem records_callBuiltin (w : World) (b : Builtin) (args : List Value) :
    Records Calm s.game Prod.snd w (marksOfBuiltin exec noted s w b args)
      (w.callBuiltin exec s b args) := by
  cases b with
  | action plan => exact records_callAction hexec w plan args
  | runScript =>
    unfold callBuiltin marksOfBuiltin
    cases args with
    | nil => exact .done (p := Prod.snd) (_, w)
    | cons index rest =>
      dsimp only
      cases w.scriptTarget? s index.toInt with
      | none => exact .finish (.log w _ _)
      | some target => exact records_call hexec w target.1 rest target.2 target.2

end World

namespace Machine

theorem records_call (i : Instruction) (f : Frame) (w : World) :
    Records World.Calm s.game resultWorld w (marksOfFunction exec noted s i f w)
      (call exec s i f w) := by
  unfold call marksOfFunction
  dsimp only
  cases tableAt? s.game.functionTable i.functionIndex with
  | none => exact .finish (.log w _ _)
  | some function =>
    have hcall := World.records_call hexec w function.name (f.popMany i.argCount).1
      (f.popMany i.argCount).2.self (f.popMany i.argCount).2.other
    dsimp only
    cases hr : w.call exec s function.name (f.popMany i.argCount).1
        (f.popMany i.argCount).2.self (f.popMany i.argCount).2.other with
    | none => exact ⟨hcall.started, fun _ ha => by cases ha⟩
    | some r =>
      have hannals := hcall.ended r hr
      rcases r with ⟨_ | v, u⟩
      · exact .of_annals (p := resultWorld) hannals
      · exact .of_annals (p := resultWorld) hannals

omit hexec in
theorem records_ret (f : Frame) (w : World) :
    Records World.Calm s.game resultWorld w (marksOfRet f) (ret f w) := by
  unfold ret marksOfRet
  cases f.stack with
  | nil => exact .done (p := resultWorld) (_, f, w)
  | cons v rest => exact .of_annals (p := resultWorld) (.single (.returned f.entrySelf v))

theorem records_step (i : Instruction) (f : Frame) (w : World) :
    Records World.Calm s.game resultWorld w (marksOfStep exec noted s i f w)
      (step exec s i f w) := by
  unfold marksOfStep
  by_cases hcall : i.op? = some .call
  · rw [if_pos hcall]
    simp only [step, hcall]
    exact records_call hexec i f w
  · rw [if_neg hcall]
    by_cases hret : i.op? = some .ret
    · rw [if_pos hret, step_ret hret]
      exact records_ret f w
    · rw [if_neg hret]
      refine ⟨⟨w, .refl w⟩, ?_⟩
      rintro ⟨outcome, f', v⟩ hstep
      rcases reports_or_strokes_of_step hcall hret hstep with hreports | hstrokes
      · exact .of_between (.of_onlyReports hreports)
      · exact .of_between hstrokes.calm

theorem records_runFrame (code : Code) (name : String) (traced : Bool) (n : Nat) (f : Frame)
    (w : World) :
    Records World.Calm s.game resultWorld w (marksOfFrame exec noted s code name traced n f w)
      (runFrame exec s code name traced n f w) := by
  induction n generalizing f w with
  | zero =>
    unfold runFrame marksOfFrame
    split_ifs
    · exact .finish ((World.Calm.log w _ _).trans (.of_instances rfl))
    · exact .done (p := resultWorld) (_, f, w)
  | succ n ih =>
    unfold marksOfFrame
    cases hi : code.instructions[f.pc]? with
    | none =>
      simp only [runFrame, hi]
      exact .done (p := resultWorld) (_, f, w)
    | some i =>
      have hreport : w.Calm (reportStep traced name i f w) :=
        .of_onlyReports (.reportStep traced name i f w)
      have htarget (target : Option Nat) (u : World) :
          u.Calm (reportTarget code name target u) := .of_onlyReports (.reportTarget ..)
      have hstep := records_step hexec i f (reportStep traced name i f w)
      rw [runFrame_succ hi]
      refine .before ?_ hreport
      cases hr : step exec s i f (reportStep traced name i f w) with
      | none =>
        obtain ⟨u, hu⟩ := hstep.started
        simp only [advance, hi, Option.bind_some, hr]
        exact .append hu (.stuck u)
      | some r =>
        refine .append (hstep.ended r hr) ?_
        rcases r with ⟨fault | signal, f', u⟩
        · simp only [advance, hi, Option.bind_some, hr]
          exact .done (p := resultWorld) (_, f', u)
        · cases signal with
          | returned value =>
            simp only [advance, hi, Option.bind_some, hr]
            exact .done (p := resultWorld) (_, f', u)
          | next =>
            simp only [advance, hi, Option.bind_some, hr]
            exact ih _ u
          | branch target =>
            simp only [advance, hi, Option.bind_some, hr]
            exact (ih _ _).before (htarget target u)
          | skip target =>
            simp only [advance, hi, Option.bind_some, hr]
            exact (ih _ _).before (htarget target u)

theorem records_runEntry : (runEntry exec s).Records World.Calm s.game (marksOfEntry exec noted s) := by
  intro w code self other
  unfold marksOfEntry
  cases hc : s.program.code? code with
  | none =>
    simp only [runEntry, hc]
    exact .finish (.log w _ _)
  | some c =>
    dsimp only
    cases hne : c.isEmpty with
    | true =>
      simp only [runEntry, hc, hne, if_true]
      exact .done w
    | false =>
      rw [runEntry_eq hc hne]
      refine (records_runFrame hexec c _ _ _ _ w).map fun r => ?_
      obtain ⟨ending, f, u⟩ := r
      cases ending with
      | failed fault => exact .log u _ _
      | _ => exact .refl u

end Machine

end Recording

/-- What is listed for a run of code is what is noted while it runs, however deep other code is nested
in it. -/
theorem Machine.records_execute (s : Setup) (depth : Nat) :
    (execute s depth).Records World.Calm s.game (marks s depth) := by
  induction depth with
  | zero => exact fun w _ _ _ => .stuck w
  | succ depth ih => exact records_runEntry ih

end GameRunner

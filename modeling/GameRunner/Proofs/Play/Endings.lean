import GameRunner.Proofs.Machine.Marks
import GameRunner.Proofs.Play.Liveness
import GameRunner.Proofs.Play.Staying

/-!
# How often an instance handles its end

An instance should handle its end once. Whoever destroys it looks whether it is live, but it stays
live until it has handled its end. So code that runs meanwhile can destroy it again, and then it
handles its end once more in the middle of that. When the first time is over this cannot happen any
more, unless the id is given to another instance.
-/

namespace GameRunner

/-! ### What is noted while a game is played -/

section Listing

variable (exec : Exec) (noted : Marking) (s : Setup)

def Start.marks (w : World) : Start → List Mark
  | event self type subtype other => World.marksOfEvent exec noted s w self type subtype other
  | placementCode self code => noted w code self none
  | roomCode self code => noted w code self none
  | drawing self object codes =>
    World.marksOfAll exec noted self none codes { w with event := some ⟨EventType.draw, 0, object⟩ }

/-- What is noted about all that a plan starts. -/
def Plan.marks {α : Type} (plan : Plan α) : List Mark :=
  (plan.trace exec s).flatMap fun x => x.2.marks exec noted s x.1

namespace World

def marksOfPlacement (carried : List Int32) (w : World) (p : Placement) : List Mark :=
  if carried.contains p.instanceId then []
  else
    let (id, v) := w.place s.game p
    .created id :: if 0 ≤ p.creationCode then noted v p.creationCode id none else []

/-- The placements are taken one at a time, each in the world to which the ones before it lead. -/
def marksOfPlacing (carried : List Int32) : List Placement → World → List Mark
  | [], _ => []
  | p :: rest, w =>
    marksOfPlacement noted s carried w p ++
      (placeAll exec s.game carried [p] w).elim [] fun r => marksOfPlacing carried rest r.2

/-- The creation code of a room may get an instance of its own, which is destroyed without an event. -/
def marksOfCreationCode (room : Room) (w : World) : List Mark :=
  if 0 ≤ room.creationCode then
    match w.instances.ids.head? with
    | some id => noted w room.creationCode id none
    | none =>
      let (id, v) := w.create s.game (-1) 0 0 none
      .created id :: (noted v room.creationCode id none ++
        (exec v room.creationCode id none).elim [] fun _ => [.destroyed id])
  else []

def reportEntering (room : Room) (w : World) : World :=
  w.log .info fun _ =>
    s!"Entering room {room.name} ({room.width}x{room.height}), {room.placements.length} " ++
      s!"placements, {w.instances.ids.length} carried over"

def marksOfFilling (room : Room) (w : World) : List Mark :=
  let carried := w.instances.ids
  let w := w.reportEntering room
  marksOfPlacing exec noted s carried room.placements w ++
    (placeAll exec s.game carried room.placements w).elim [] fun r =>
      marksOfCreationCode exec noted s room r.2 ++
        (r.2.runCreationCode exec s.game room).elim [] fun v =>
          (Plan.startRoom r.1 v).marks exec noted s

def marksOfEntering (w : World) (index : Int32) : List Mark :=
  match s.game.room? index with
  | none => []
  | some room =>
    (Plan.dispatch w EventType.misc MiscEvent.roomEnd).marks exec noted s ++
      (w.dispatch exec s EventType.misc MiscEvent.roomEnd).elim [] fun v =>
        marksOfFilling exec noted s room (v.leaveRoom index room)

/-- Nothing is noted unless a room has been asked for. -/
def marksOfPending (w : World) : List Mark :=
  match w.pendingRoom with
  | some index => marksOfEntering exec noted s { w with pendingRoom := none } index
  | none => []

def marksOfStep (w : World) : List Mark :=
  marksOfPending exec noted s w.beginFrame ++
    (w.beginFrame.enterPending exec s).elim [] fun v =>
      (Plan.playOn s.game v).marks exec noted s

end World

/-- What is noted while something is done with a game. -/
def Operation.marks (w : World) : Operation → List Mark
  | .instruction i f => Machine.marksOfStep exec noted s i f w
  | .execute code self other => noted w code self other
  | .call name args self other => World.marksOfCall exec noted s w name args self other
  | .callScript code args self other => World.marksOfScript exec noted w code args self other
  | .callBuiltin b args => World.marksOfBuiltin exec noted s w b args
  | .fire self type subtype other => World.marksOfEvent exec noted s w self type subtype other
  | .fireInherited self other => World.marksOfInherited exec noted s w self other
  | .dispatch type subtype => (Plan.dispatch w type subtype).marks exec noted s
  | .spawn object x y => World.marksOfSpawn exec noted s w object x y
  | .destroy self => World.marksOfDestroy exec noted s w self
  | .step => World.marksOfStep exec noted s w
  | .draw => (Plan.draw s.game w).marks exec noted s

end Listing

/-! ### The list is what is noted -/

theorem World.Calm.wanes {w v : World} (h : w.Calm v) : w.Wanes v := by
  refine ⟨fun id hlive => ?_, h.ids ▸ .refl _⟩
  rw [World.isLive_eq_standing?] at hlive ⊢
  rwa [h.standing?_eq] at hlive

theorem World.Calm.fades {w v : World} (h : w.Calm v) : w.Fades v := h.wanes.fades

theorem Records.wanes {α : Type} {g : Game} {p : α → World} {w : World} {l : List Mark}
    {m : Option α} (h : Records World.Calm g p w l m) : Records World.Wanes g p w l m :=
  h.mono fun _ _ => World.Calm.wanes

/-- The instance of a placement is made, and then it is only given a shape. -/
theorem World.annals_place (g : Game) (w : World) (p : Placement) :
    Annals World.Wanes g w [.created (w.place g p).1] (w.place g p).2 := by
  have hshaped : (w.create g p.object (Number.ofInt32 p.x) (Number.ofInt32 p.y)
      (if 0 ≤ p.instanceId then some p.instanceId else none)).2.Calm (w.place g p).2 :=
    .modify _ _ fun _ => rfl
  exact .note (.created p.object _ _ _) (.of_between hshaped.wanes)

section Recording

variable {exec : Exec} {noted : Marking} {s : Setup} (hexec : exec.Records World.Calm s.game noted)

include hexec

theorem World.records_start (w : World) (t : Start) :
    Records World.Calm s.game id w (t.marks exec noted s w) (t.run exec s w) := by
  cases t with
  | event self type subtype other => exact World.records_fire hexec w self type subtype other
  | placementCode self code => exact hexec w code self none
  | roomCode self code => exact hexec w code self none
  | drawing self object codes =>
    exact World.records_during _ (World.records_runAll hexec self none codes _)

/-- If the engine itself brings no instance to life and makes none, all that is noted while a plan is
run is noted about what it starts. -/
theorem Plan.records {α : Type} {p : α → World} {w : World} {plan : Plan α}
    (h : plan.OwnChanges exec s World.Wanes p w) :
    Records World.Wanes s.game p w (plan.marks exec noted s) (plan.run exec s) := by
  induction plan generalizing w with
  | done a => exact .finish h
  | start u t next ih =>
    have hmarks : (start u t next).marks exec noted s =
        t.marks exec noted s u ++
          (t.run exec s u).elim [] fun v => (next v).marks exec noted s := by
      simp only [marks, trace, List.flatMap_cons]
      cases t.run exec s u <;> rfl
    rw [hmarks]
    -- Own changes come before the start and are the first thing in what remains after it.
    refine Records.before ?_ h.1
    exact (World.records_start hexec u t).wanes.bind fun v hv => ih v (h.2 v hv)
  | broken => exact .stuck w

theorem Plan.Drifts.records {w : World} {plan : Plan World} (h : plan.Drifts exec s w) :
    Records World.Wanes s.game id w (plan.marks exec noted s) (plan.run exec s) :=
  Plan.records hexec (h.mono fun _ _ => World.Drifts.toWanes)

namespace World

theorem records_dispatch (w : World) (type : Nat) (subtype : Int32) :
    Records Wanes s.game id w ((Plan.dispatch w type subtype).marks exec noted s)
      (w.dispatch exec s type subtype) := by
  rw [← Plan.run_dispatch]
  exact (Plan.drifts_dispatch w type subtype).records hexec

theorem records_placement (carried : List Int32) (w : World) (p : Placement) :
    Records Wanes s.game Prod.snd w (marksOfPlacement noted s carried w p)
      (placeAll exec s.game carried [p] w) := by
  unfold marksOfPlacement placeAll
  split_ifs with hcarried hcode
  · exact .finish (Calm.log w _ _).wanes
  · have hrun := (hexec (w.place s.game p).2 p.creationCode (w.place s.game p).1 none).wanes.map
      (q := Prod.snd) (f := fun v => ([(w.place s.game p).1], v)) fun v => .refl v
    rw [Option.map_eq_bind] at hrun
    exact .append (w.annals_place s.game p) hrun
  · exact .of_annals (w.annals_place s.game p)

omit hexec in
theorem placeAll_cons_eq (g : Game) (carried : List Int32) (p : Placement) (rest : List Placement)
    (w : World) :
    placeAll exec g carried (p :: rest) w =
      (placeAll exec g carried [p] w).bind fun r =>
        (placeAll exec g carried rest r.2).map fun r' => (r.1 ++ r'.1, r'.2) := by
  by_cases hcarried : p.instanceId ∈ carried
  · simp [placeAll, hcarried]
  · by_cases hcode : 0 ≤ p.creationCode
    · simp [placeAll, hcarried, hcode, Option.bind_assoc, Option.map_eq_bind]
    · simp [placeAll, hcarried, hcode, Option.map_eq_bind]

theorem records_placing (carried : List Int32) (placements : List Placement) (w : World) :
    Records Wanes s.game Prod.snd w (marksOfPlacing exec noted s carried placements w)
      (placeAll exec s.game carried placements w) := by
  induction placements generalizing w with
  | nil => exact .done (p := Prod.snd) (_, w)
  | cons p rest ih =>
    rw [placeAll_cons_eq]
    exact (records_placement hexec carried w p).bind fun r _ => (ih r.2).map fun r' => .refl r'.2

theorem records_creationCode (room : Room) (w : World) :
    Records Wanes s.game id w (marksOfCreationCode exec noted s room w)
      (w.runCreationCode exec s.game room) := by
  unfold marksOfCreationCode runCreationCode
  split_ifs
  · cases w.instances.ids.head? with
    | some first => exact (hexec w _ first none).wanes
    | none =>
      refine .note (.created (-1) 0 0 none) ?_
      exact (hexec _ _ _ none).wanes.bind fun v _ =>
        .of_annals (p := fun v => v) (.single (.destroyed _))
  · exact .done (p := id) w

theorem records_filling (room : Room) (w : World) :
    Records Wanes s.game id w (marksOfFilling exec noted s room w)
      ((Plan.fillRoom s.game room w).run exec s) := by
  have hfill : (Plan.fillRoom s.game room w).run exec s =
      (placeAll exec s.game w.instances.ids room.placements (w.reportEntering room)).bind fun r =>
        (r.2.runCreationCode exec s.game room).bind fun v => (Plan.startRoom r.1 v).run exec s := by
    simp only [Plan.fillRoom, Plan.run_bind, Plan.run_placeAll, Plan.run_runCreationCode]
    rfl
  rw [hfill]
  refine Records.before (v := w.reportEntering room) ?_ (Calm.log w _ _).wanes
  refine (records_placing hexec _ _ _).bind fun r _ => ?_
  refine (records_creationCode hexec room r.2).bind fun v _ => ?_
  exact (Plan.drifts_startRoom r.1 v).records hexec

theorem records_entering (w : World) (index : Int32) :
    Records Wanes s.game id w (marksOfEntering exec noted s w index)
      ((Plan.enterRoom s.game w index).run exec s) := by
  unfold marksOfEntering Plan.enterRoom
  cases s.game.room? index with
  | none => exact .finish (p := id) (Calm.log w _ _).wanes
  | some room =>
    dsimp only
    rw [Plan.run_bind, Plan.run_dispatch]
    refine (records_dispatch hexec w _ _).bind fun v _ => ?_
    have hleft : v.Wanes (v.leaveRoom index room) := .filter rfl
    exact (records_filling hexec room _).before hleft

theorem records_pending (w : World) :
    Records Wanes s.game id w (marksOfPending exec noted s w) (w.enterPending exec s) := by
  rw [← Plan.run_enterPending]
  unfold marksOfPending Plan.enterPending
  cases w.pendingRoom with
  | some index => exact (records_entering hexec _ index).before (.of_instances rfl)
  | none => exact .done (p := id) w

theorem records_step (w : World) :
    Records Wanes s.game id w (marksOfStep exec noted s w) (w.step exec s) := by
  have hstep : w.step exec s =
      (w.beginFrame.enterPending exec s).bind fun v => (Plan.playOn s.game v).run exec s := by
    rw [← Plan.run_step, ← Plan.run_enterPending]
    exact Plan.run_bind ..
  rw [hstep]
  refine Records.before ?_ w.drifts_beginFrame.toWanes
  exact (records_pending hexec _).bind fun v _ => (Plan.drifts_playOn s.game v).records hexec

end World

theorem Operation.records (op : Operation) (w : World) :
    Records World.Wanes s.game (fun v => v) w (op.marks exec noted s w) (op.run exec s w) := by
  cases op with
  | instruction i f => exact (Machine.records_step hexec i f w).world.wanes
  | execute code self other => exact (hexec w code self other).wanes
  | call name args self other =>
    exact (World.records_call hexec w name args self other).world.wanes
  | callScript code args self other =>
    exact (World.records_callScript hexec w code args self other).world.wanes
  | callBuiltin b args =>
    exact (World.records_callBuiltin hexec w b args).world.wanes
  | fire self type subtype other =>
    exact (World.records_fire hexec w self type subtype other).wanes
  | fireInherited self other => exact (World.records_fireInherited hexec w self other).wanes
  | dispatch type subtype => exact World.records_dispatch hexec w type subtype
  | spawn object x y => exact (World.records_spawn hexec w object x y).world.wanes
  | destroy self => exact (World.records_destroy hexec w self).wanes
  | step => exact World.records_step hexec w
  | draw =>
    rw [Operation.run, ← Plan.run_draw]
    exact (Plan.drifts_draw s.game w).records hexec

end Recording

/-! ### One end after another -/

section Following

variable {g : Game} {w v : World} {m : Mark} {l : List Mark} {id : Int32}

theorem Noted.not_isLive (h : Noted g w m v) (hw : ¬ w.isLive id) (hm : m ≠ .created id) :
    ¬ v.isLive id := by
  rw [World.isLive_eq_standing?] at hw ⊢
  rw [h.standing?_eq id]
  split_ifs with hid
  · subst hid
    -- Nothing but a creation makes an instance of nothing or takes back that it is destroyed.
    cases m with
    | created id' => exact absurd rfl hm
    | _ => cases hs : w.standing? _ <;> simp_all [Mark.follow, Mark.id]
  · exact hw

theorem Annals.not_isLive (h : Annals World.Fades g w l v) (hw : ¬ w.isLive id)
    (hl : .created id ∉ l) : ¬ v.isLive id := by
  induction h with
  | refl => exact hw
  | between hfades _ ih => exact ih (fun hlive => hw (hfades id hlive)) hl
  | note hnoted _ ih =>
    obtain ⟨hm, hl⟩ := not_or.mp (List.mem_cons.not.mp hl)
    exact ih (hnoted.not_isLive hw (Ne.symm hm)) hl

theorem Noted.not_isLive_of_destroyed (h : Noted g w (.destroyed id) v) : ¬ v.isLive id := by
  rw [World.isLive_eq_standing?, h.standing?_eq id]
  cases w.standing? id <;> simp [Mark.follow, Mark.id]

theorem Noted.isLive_of_ending (h : Noted g w (.ending id) v) : w.isLive id := by
  cases h with
  | ending hlive => exact hlive

end Following

/-- What can come of a game, with all that has been noted: the host makes instances, operates the game
and may do anything else that brings no instance to life. -/
inductive Chronicle (s : Setup) (depth : Nat) : World → List Mark → Prop
  | start (entropy : UInt64) (journal : Journal) : Chronicle s depth (.ofSetup s entropy journal) []
  | create {w : World} {l : List Mark} (object : Int32) (x y : Float) (id? : Option Int32) :
    Chronicle s depth w l →
      Chronicle s depth (w.create s.game object x y id?).2
        (l ++ [.created (w.create s.game object x y id?).1])
  | operate {w v : World} {l : List Mark} (op : Operation) :
    Chronicle s depth w l → op.run (Machine.execute s depth) s w = some v →
      Chronicle s depth v (l ++ op.marks (Machine.execute s depth) (Machine.marks s depth) s w)
  | other {w v : World} {l : List Mark} : Chronicle s depth w l → w.Fades v → Chronicle s depth v l

theorem Operation.records_execute (s : Setup) (depth : Nat) (op : Operation) (w : World) :
    Records World.Fades s.game (fun v => v) w
      (op.marks (Machine.execute s depth) (Machine.marks s depth) s w)
      (op.run (Machine.execute s depth) s w) :=
  (op.records (Machine.records_execute s depth) w).mono fun _ _ => World.Wanes.fades

theorem Chronicle.exists_annals {s : Setup} {depth : Nat} {w : World} {l : List Mark}
    (h : Chronicle s depth w l) : ∃ first, Annals World.Fades s.game first l w := by
  induction h with
  | start entropy journal => exact ⟨_, .refl _⟩
  | create object x y id? _ ih =>
    obtain ⟨first, hl⟩ := ih
    exact ⟨first, hl.trans (.single (.created object x y id?))⟩
  | @operate w v l op _ hrun ih =>
    obtain ⟨first, hl⟩ := ih
    exact ⟨first, hl.trans ((op.records_execute s depth w).ended v hrun)⟩
  | other _ hfades ih =>
    obtain ⟨first, hl⟩ := ih
    exact ⟨first, by simpa using hl.trans (.of_between hfades)⟩

/-- Whatever has come of a game and is done with it next, whether that comes to an end or not: after an
instance has been destroyed, its end is handled only if its id has been given to another one meanwhile.
So if an instance handles its end more than once, it does so while it handles it for the first time. -/
theorem handles_end_before_destroyed {s : Setup} {depth : Nat} {w : World} {l : List Mark}
    (h : Chronicle s depth w l) (op : Operation) (id : Int32) (before between after : List Mark)
    (hl : l ++ op.marks (Machine.execute s depth) (Machine.marks s depth) s w =
      before ++ .destroyed id :: (between ++ .ending id :: after)) :
    .created id ∈ between := by
  obtain ⟨first, hpast⟩ := h.exists_annals
  obtain ⟨last, hnow⟩ := (op.records_execute s depth w).started
  have hall := hpast.trans hnow
  rw [hl] at hall
  obtain ⟨u, -, hrest⟩ := hall.split
  obtain ⟨u', v, -, hdestroyed, hrest⟩ := hrest.exists_noted
  obtain ⟨v', hbetween, hrest⟩ := hrest.split
  obtain ⟨v'', _, hcalm, hending, -⟩ := hrest.exists_noted
  by_contra hcreated
  have hgone := hbetween.not_isLive hdestroyed.not_isLive_of_destroyed hcreated
  exact hcalm.not_isLive hgone List.not_mem_nil hending.isLive_of_ending

/-- An instance that has no handler for its end is just destroyed. -/
theorem World.marksOfDestroy_of_handler?_eq_none (exec : Exec) (noted : Marking) {s : Setup} {w : World}
    {id : Int32} {i : Instance} (hi : w.instance? id = some i) (hlive : i.live = true)
    (hnone : s.game.handler? i.objectIndex EventType.destroy 0 = none) :
    w.marksOfDestroy exec noted s id = [.ending id, .destroyed id] ∧
      ∃ v, w.destroy exec s id = some v := by
  simp [marksOfDestroy, destroy, isLive_eq hi, hlive, marksOfEvent, marksOfHandler, fire, runHandler,
    hi, hnone]

/-- When an instance of the first object handles its end, it destroys itself again unless it has done
so before. The second object handles nothing. -/
def lingeringSetup : Setup where
  game :=
    { strings := #[""]
      variableTable := #[⟨"fresh", -1, 0, 0, 0⟩]
      functionTable := #[⟨"instance_destroy", 1, 0⟩]
      objects := #[{ events := [[], [⟨0, [0]⟩]] }, {}] }
  program :=
    { code := #[⟨#[{ (Statement.pushVar Selector.self 0).instruction 0 with variableIndex := 0 },
        (Statement.branch .bf 8).instruction 8, (Statement.pushString 0).instruction 12,
        { (Statement.popVar Selector.self 0).instruction 20 with variableIndex := 0 },
        { (Statement.call 0 0).instruction 28 with functionIndex := 0 },
        Statement.popz.instruction 36, Statement.exit.instruction 40]⟩]
      references := ⟨[], []⟩
      scripts := .empty }
  settings := {}

/-- An instance of the second object is destroyed, made again under its id and destroyed again. -/
theorem handles_end_before_destroyed_remade :
    let s := lingeringSetup
    let exec := Machine.execute s 2
    let noted := Machine.marks s 2
    ∃ w l, Chronicle s 2 w l ∧
      l ++ (Operation.destroy 5).marks exec noted s w =
        [.created 5, .ending 5, .destroyed 5, .created 5, .ending 5, .destroyed 5] ∧
      Mark.created 5 ∈ [Mark.created 5] := by
  intro s exec noted
  let remake (w : World) : World := (w.create s.game 1 0 0 (some 5)).2
  have hdestroy (w : World) : (remake w).marksOfDestroy exec noted s 5 = [.ending 5, .destroyed 5] ∧
      ∃ v, (remake w).destroy exec s 5 = some v := by
    have hmade := World.instance?_create s.game w 1 0 0 (some 5)
    have hhandler : s.game.handler? 1 EventType.destroy 0 = none := by decide +kernel
    apply World.marksOfDestroy_of_handler?_eq_none exec noted hmade
    · exact congrArg (!·) (World.destroyed_dress s.game _)
    · rw [World.objectIndex_dress]
      exact hhandler
  obtain ⟨hmarks, v, hv⟩ := hdestroy (.ofSetup s 0 default)
  have hpast : Chronicle s 2 v [.created 5, .ending 5, .destroyed 5] :=
    hmarks ▸ .operate (.destroy 5) (.create 1 0 0 (some 5) (.start 0 default)) hv
  have hnow : Chronicle s 2 (remake v) [.created 5, .ending 5, .destroyed 5, .created 5] :=
    .create 1 0 0 (some 5) hpast
  let l : List Mark := [.created 5, .ending 5, .destroyed 5, .created 5]
  have hlist : l ++ (Operation.destroy 5).marks exec noted s (remake v) =
      l ++ [.ending 5, .destroyed 5] := congrArg (l ++ ·) (hdestroy v).1
  have hcreated := handles_end_before_destroyed hnow (.destroy 5) 5 [.created 5, .ending 5]
    [.created 5] [.destroyed 5] hlist
  exact ⟨remake v, l, hnow, hlist, hcreated⟩

/-- An instance of the first object that has not destroyed itself yet. -/
def lingerer : World :=
  let w := (World.ofSetup lingeringSetup 0 default).create lingeringSetup.game 0 0 0 (some 100001)
  w.2.modify 100001 fun i => { i with vars := .ofList [("fresh", .str "fresh")] }

def Mark.ending? : Mark → Option Int32
  | ending id => some id
  | _ => none

def Mark.created? : Mark → Option Int32
  | created id => some id
  | _ => none

/-- An instance that is destroyed once handles its end twice. -/
theorem handles_end_twice :
    let s := lingeringSetup
    let exec := Machine.execute s 2
    let marks := (Operation.destroy 100001).marks exec (Machine.marks s 2) s lingerer
    Chronicle s 2 lingerer [.created 100001] ∧
      ((Operation.destroy 100001).run exec s lingerer).isSome ∧
      marks.filterMap Mark.ending? = [100001, 100001] ∧ marks.filterMap Mark.created? = [] := by
  intro s exec marks
  have hset : (World.create s.game (World.ofSetup s 0 default) 0 0 0 (some 100001)).2.Calm lingerer :=
    .modify _ 100001 fun _ => rfl
  have hlingerer : Chronicle s 2 lingerer [.created 100001] :=
    .other (.create 0 0 0 (some 100001) (.start 0 default)) hset.fades
  exact ⟨hlingerer, by decide +kernel⟩

end GameRunner

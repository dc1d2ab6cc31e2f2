import GameRunner.Proofs.Machine.Requests
import GameRunner.Proofs.Play.Staying

/-!
# Requests for rooms

A room can be asked for at any time, by the host and by all code. Only the last request counts, and
only when the next frame starts: then the frame takes it, and enters the room if there is one. What is
asked for from then on, be it while the room is entered, stays for the frame after it. The current
room changes nowhere else.
-/

namespace GameRunner

/-! ### What is asked for while a plan is run -/

section Plans

variable (exec : Exec) (asked : Requests) (s : Setup)

def Start.requests (w : World) : Start → List Int32
  | event self type subtype other => World.requestsOfEvent exec asked s w self type subtype other
  | placementCode self code => asked w code self none
  | roomCode self code => asked w code self none
  | drawing self object codes =>
    World.requestsOfAll exec asked self none codes
      { w with event := some ⟨EventType.draw, 0, object⟩ }

/-- The rooms that are asked for while a plan is run, in order. -/
def Plan.requests {α : Type} (plan : Plan α) : List Int32 :=
  (plan.trace exec s).flatMap fun x => x.2.requests exec asked s x.1

/-- The rooms that are asked for by an operation, in order. -/
def Operation.requests (w : World) : Operation → List Int32
  | .instruction i f => Machine.requestsOfStep exec asked s i f w
  | .execute code self other => asked w code self other
  | .call name args self other => World.requestsOfCall exec asked s w name args self other
  | .callScript code args self other => World.requestsOfScript asked w code args self other
  | .callBuiltin b args => World.requestsOfBuiltin exec asked s w b args
  | .fire self type subtype other => World.requestsOfEvent exec asked s w self type subtype other
  | .fireInherited self other => World.requestsOfInherited exec asked s w self other
  | .dispatch type subtype => (Plan.dispatch w type subtype).requests exec asked s
  | .spawn object x y => World.requestsOfSpawn exec asked s w object x y
  | .destroy self => World.requestsOfDestroy exec asked s w self
  | .step => (Plan.step s.game w).requests exec asked s
  | .draw => (Plan.draw s.game w).requests exec asked s

end Plans

section Follows

variable {exec : Exec} {asked : Requests} (hexec : exec.Follows asked) {s : Setup} {w v : World}

include hexec

theorem Start.asks (t : Start) (h : t.run exec s w = some v) :
    w.Asks (t.requests exec asked s w) v := by
  cases t with
  | event self type subtype other => exact World.asks_fire hexec h
  | placementCode self code => exact hexec _ _ _ _ _ h
  | roomCode self code => exact hexec _ _ _ _ _ h
  | drawing self object codes =>
    obtain ⟨u, hu, h⟩ := Option.bind_eq_some_iff.mp h
    cases h
    exact (World.asks_runAll hexec hu).before rfl

/-- If the engine asks for no room by itself, the room to be entered after a plan is the last one that
is asked for while it is run. -/
theorem Plan.asks {α : Type} {p : α → World} {plan : Plan α}
    (h : plan.OwnChanges exec s (fun w v => v.pendingRoom = w.pendingRoom) p w) {a : α}
    (ha : plan.run exec s = some a) : w.Asks (plan.requests exec asked s) (p a) := by
  induction plan generalizing w with
  | done b =>
    cases ha
    exact .of_eq h
  | start u t next ih =>
    obtain ⟨v, hv, ha⟩ := Option.bind_eq_some_iff.mp ha
    have hfirst := (t.asks hexec hv).before h.1
    have hrest := ih v (h.2 v hv) ha
    have hrequests : (start u t next).requests exec asked s =
        t.requests exec asked s u ++ (next v).requests exec asked s := by
      simp only [requests, trace, hv, Option.elim_some, List.flatMap_cons]
    rw [hrequests]
    exact hfirst.trans hrest
  | broken => cases ha

theorem Plan.Remains.asks {plan : Plan World} (h : plan.Remains exec s w)
    (hv : plan.run exec s = some v) : w.Asks (plan.requests exec asked s) v :=
  Plan.asks hexec (h.mono fun _ _ => World.Stays.pendingRoom) hv

theorem Operation.asks (op : Operation) (hop : op ≠ .step) (h : op.run exec s w = some v) :
    w.Asks (op.requests exec asked s w) v := by
  cases op with
  | instruction i f =>
    obtain ⟨⟨outcome, f', u⟩, hstep, rfl⟩ := Option.map_eq_some_iff.mp h
    exact Machine.asks_step hexec hstep
  | execute code self other => exact hexec _ _ _ _ _ h
  | call name args self other =>
    obtain ⟨r, hr, rfl⟩ := Option.map_eq_some_iff.mp h
    exact World.asks_call hexec hr
  | callScript code args self other =>
    obtain ⟨r, hr, rfl⟩ := Option.map_eq_some_iff.mp h
    exact World.asks_callScript hexec hr
  | callBuiltin b args =>
    obtain ⟨r, hr, rfl⟩ := Option.map_eq_some_iff.mp h
    exact World.asks_callBuiltin hexec hr
  | fire self type subtype other => exact World.asks_fire hexec h
  | fireInherited self other => exact World.asks_fireInherited hexec h
  | dispatch type subtype =>
    exact (Plan.drifts_dispatch w type subtype).remains.asks hexec ((Plan.run_dispatch ..).trans h)
  | spawn object x y =>
    obtain ⟨r, hr, rfl⟩ := Option.map_eq_some_iff.mp h
    exact World.asks_spawn hexec hr
  | destroy self => exact World.asks_destroy hexec h
  | step => exact absurd rfl hop
  | draw => exact (Plan.drifts_draw s.game w).remains.asks hexec ((Plan.run_draw exec s w).trans h)

end Follows

/-- An operation other than a frame leaves the current room as it is. -/
theorem Operation.room_eq {exec : Exec} (hexec : exec.Keeps World.Progresses) {s : Setup}
    {w v : World} (op : Operation) (hop : op ≠ .step) (h : op.run exec s w = some v) :
    v.room = w.room := by
  cases op with
  | instruction i f =>
    obtain ⟨r, hr, rfl⟩ := Option.map_eq_some_iff.mp h
    exact ((Machine.activity_step s i f w).progresses hexec hr).course.room
  | execute code self other => exact (hexec _ _ _ _ _ h).course.room
  | call name args self other =>
    obtain ⟨r, hr, rfl⟩ := Option.map_eq_some_iff.mp h
    exact ((World.activity_call s w name args self other).progresses hexec hr).course.room
  | callScript code args self other =>
    obtain ⟨r, hr, rfl⟩ := Option.map_eq_some_iff.mp h
    have hactivity := World.activity_callScript (g := s.game) w code args self other
    exact (hactivity.progresses hexec hr).course.room
  | callBuiltin b args =>
    obtain ⟨r, hr, rfl⟩ := Option.map_eq_some_iff.mp h
    have hprogresses := (World.activity_callBuiltin s w b args).rel (fun _ _ he => he.progresses)
      (fun _ _ _ hwv hvu => hwv.trans hvu) World.progresses_withContext hexec hr
    exact hprogresses.course.room
  | fire self type subtype other =>
    have hactivity := World.activity_fire (g := s.game) s w self type subtype other
    exact (hactivity.progresses hexec h).course.room
  | fireInherited self other =>
    have hactivity := World.activity_fireInherited (g := s.game) s w self other
    exact (hactivity.progresses hexec h).course.room
  | dispatch type subtype => exact ((World.progresses_dispatch hexec s w _ _).2 v h).course.room
  | spawn object x y =>
    obtain ⟨r, hr, rfl⟩ := Option.map_eq_some_iff.mp h
    exact ((World.activity_spawn s w object x y).progresses hexec hr).course.room
  | destroy self =>
    have hactivity := World.activity_destroy (g := s.game) s w self
    exact (hactivity.progresses hexec h).course.room
  | step => exact absurd rfl hop
  | draw => exact ((Plan.drifts_draw s.game w).remains.staysIn hexec).2 v ((Plan.run_draw ..).trans h)

/-! ### Frame after frame -/

/-- What can come of a game, with the rooms that have been asked for since the last frame started: the
host asks for rooms, operates the game, lets frames pass, and may do anything else that concerns
neither the current room nor the one to be entered. -/
inductive Session (s : Setup) (depth : Nat) : World → List Int32 → Prop
  | start (entropy : UInt64) (journal : Journal) : Session s depth (.ofSetup s entropy journal) []
  | ask {w : World} {asked : List Int32} (index : Int32) :
    Session s depth w asked → Session s depth (w.gotoRoom s.game index) (asked ++ [index])
  | operate {w v : World} {asked : List Int32} (op : Operation) :
    Session s depth w asked → op ≠ .step → op.run (Machine.execute s depth) s w = some v →
      Session s depth v
        (asked ++ op.requests (Machine.execute s depth) (Machine.requests s depth) s w)
  | frame {w v : World} {asked : List Int32} :
    Session s depth w asked → w.step (Machine.execute s depth) s = some v →
      Session s depth v
        ((Plan.step s.game w).requests (Machine.execute s depth) (Machine.requests s depth) s)
  | other {w v : World} {asked : List Int32} :
    Session s depth w asked → w.Stays v → Session s depth v asked

/-- The world in which a frame has taken the request for a room. -/
def World.taken (w : World) : World := { w.beginFrame with pendingRoom := none }

namespace Plan

variable {exec : Exec} {s : Setup} {w : World}

theorem trans_pendingRoom (w v u : World) (hwv : v.pendingRoom = w.pendingRoom)
    (hvu : u.pendingRoom = v.pendingRoom) : u.pendingRoom = w.pendingRoom := hvu.trans hwv

theorem Remains.pendingRoom {plan : Plan World} (h : plan.Remains exec s w) :
    plan.OwnChanges exec s (fun w v => v.pendingRoom = w.pendingRoom) id w :=
  h.mono fun _ _ => World.Stays.pendingRoom

theorem pendingRoom_enterRoom (exec : Exec) (s : Setup) (g : Game) (index : Int32) (w : World) :
    (enterRoom g w index).OwnChanges exec s (fun w v => v.pendingRoom = w.pendingRoom) id w := by
  unfold enterRoom
  split
  · exact w.pendingRoom_log _ _
  · next room _ =>
    refine .bind trans_pendingRoom (drifts_dispatch w _ _).remains.pendingRoom fun u _ => ?_
    -- To leave a room for another one is no request.
    have hleave : (u.leaveRoom index room).pendingRoom = u.pendingRoom := rfl
    exact .before trans_pendingRoom hleave (remains_fillRoom g room _).pendingRoom

/-- Once the request has been taken, the frame asks for no room by itself. -/
theorem pendingRoom_step (exec : Exec) (s : Setup) (g : Game) (w : World) :
    (step g w).OwnChanges exec s (fun w v => v.pendingRoom = w.pendingRoom) id w.taken := by
  refine .bind (p := id) trans_pendingRoom ?_ fun v _ => (drifts_playOn g v).remains.pendingRoom
  unfold enterPending
  split
  · exact pendingRoom_enterRoom exec s g _ w.taken
  · next hnone => exact hnone

theorem step_of_none (g : Game) (h : w.pendingRoom = none) :
    step g w = playOn g w.beginFrame := by
  unfold step enterPending
  rw [w.drifts_beginFrame.pendingRoom, h]
  rfl

theorem step_of_missing {g : Game} {index : Int32} (h : w.pendingRoom = some index)
    (hroom : g.room? index = none) :
    ∃ u, step g w = playOn g u ∧ u.pendingRoom = none ∧ u.room = w.room ∧
      u.instances = w.instances ∧ u.views = w.views := by
  let u := w.taken.log .warn fun _ => s!"room transition to {index} ignored: no such room"
  have hstep : step g w = playOn g u := by
    unfold step enterPending
    rw [w.drifts_beginFrame.pendingRoom, h]
    unfold enterRoom
    dsimp only
    rw [hroom]
    rfl
  have hkept : w.taken.instances = w.instances ∧ w.taken.views = w.views := by
    unfold World.taken World.beginFrame
    dsimp only
    split <;> exact ⟨rfl, rfl⟩
  obtain ⟨lines, hlog⟩ : w.taken.OnlyReports u := .log w.taken _ _
  refine ⟨u, hstep, ?_⟩
  rw [hlog]
  exact ⟨rfl, w.drifts_beginFrame.room, hkept⟩

theorem step_of_room {g : Game} {index : Int32} {room : Room} (h : w.pendingRoom = some index)
    (hroom : g.room? index = some room) :
    step g w = dispatch w.taken EventType.misc MiscEvent.roomEnd >>= fun u =>
      fillRoom g room (u.leaveRoom index room) >>= playOn g := by
  unfold step enterPending
  rw [w.drifts_beginFrame.pendingRoom, h]
  unfold enterRoom
  dsimp only
  rw [hroom]
  exact bind_assoc ..

end Plan

theorem World.pendingRoom_of_step {exec : Exec} {asked : Requests} (hexec : exec.Follows asked)
    {s : Setup} {w v : World} (h : w.step exec s = some v) :
    v.pendingRoom = ((Plan.step s.game w).requests exec asked s).getLast? := by
  have hasks := Plan.asks hexec (Plan.pendingRoom_step exec s s.game w) ((Plan.run_step ..).trans h)
  exact Eq.trans hasks Option.or_none

theorem Session.pendingRoom_eq {s : Setup} {depth : Nat} {w : World} {asked : List Int32}
    (h : Session s depth w asked) : w.pendingRoom = asked.getLast? := by
  have hfollows := Machine.follows_execute s depth
  induction h with
  | start entropy journal => rfl
  | ask index _ _ => exact (List.getLast?_concat ..).symm
  | operate op _ hop hrun ih =>
    have hasks := op.asks hfollows hop hrun
    rw [List.getLast?_append, ← ih]
    exact hasks
  | frame _ hrun _ => exact World.pendingRoom_of_step hfollows hrun
  | other _ hstays ih => exact hstays.pendingRoom.trans ih

/-- Only the last request counts. After all that can come of a game, the room to be entered is the
last one asked for since the last frame started. The next frame takes this request at its start and
enters the room if there is one: it leaves the old room, fills the new one and goes on in it. If there
is no such room it goes on where it is. The current room changes at no other time, and when the frame
is over, the last request made since it took the old one is still there. -/
theorem room_requests_collapse {s : Setup} {depth : Nat} {w : World} {asked : List Int32}
    (h : Session s depth w asked) :
    let exec := Machine.execute s depth
    let step := Plan.step s.game w
    w.pendingRoom = asked.getLast? ∧
    (∀ (op : Operation) v, op ≠ .step → op.run exec s w = some v → v.room = w.room) ∧
    (∀ exec, step.run exec s = w.step exec s) ∧
    (∀ v, w.step exec s = some v →
      v.pendingRoom = (step.requests exec (Machine.requests s depth) s).getLast?) ∧
    match asked.getLast? with
    | none => step = Plan.playOn s.game w.beginFrame ∧ step.StaysIn exec s w.room
    | some index =>
      match s.game.room? index with
      | none =>
        (∃ u, step = Plan.playOn s.game u ∧ u.pendingRoom = none ∧ u.room = w.room ∧
          u.instances = w.instances ∧ u.views = w.views) ∧ step.StaysIn exec s w.room
      | some room =>
        let leaving := Plan.dispatch w.taken EventType.misc MiscEvent.roomEnd
        let entering (u : World) : Plan World := do
          let v ← Plan.fillRoom s.game room (u.leaveRoom index room)
          Plan.playOn s.game v
        step = leaving >>= entering ∧ leaving.StaysIn exec s w.room ∧
          ∀ u, (entering u).StaysIn exec s index := by
  intro exec step
  have hexec : exec.Keeps World.Progresses := Machine.progresses_execute s depth
  have hpending := h.pendingRoom_eq
  have hstays (u : World) (hu : u.room = w.room) : (Plan.playOn s.game u).StaysIn exec s w.room :=
    hu ▸ (Plan.drifts_playOn s.game u).remains.staysIn hexec
  refine ⟨hpending, fun op v hop hv => op.room_eq hexec hop hv, fun exec => Plan.run_step ..,
    fun v hv => World.pendingRoom_of_step (Machine.follows_execute s depth) hv, ?_⟩
  split
  · next hnone =>
    have hstep : step = _ := Plan.step_of_none s.game (hpending.trans hnone)
    exact ⟨hstep, hstep ▸ hstays _ w.drifts_beginFrame.room⟩
  · next index hlast =>
    split
    · next hmissing =>
      obtain ⟨u, hstep, htaken, hroom, hkept⟩ :=
        Plan.step_of_missing (hpending.trans hlast) hmissing
      have hstep : step = _ := hstep
      exact ⟨⟨u, hstep, htaken, hroom, hkept⟩, hstep ▸ hstays u hroom⟩
    · next room hroom =>
      intro leaving entering
      refine ⟨Plan.step_of_room (hpending.trans hlast) hroom, ?_, fun u => ?_⟩
      · have hleaving : leaving.StaysIn exec s w.taken.room :=
          (Plan.drifts_dispatch w.taken _ _).remains.staysIn hexec
        have htaken : w.taken.room = w.room := w.drifts_beginFrame.room
        exact htaken ▸ hleaving
      · have hleft : (u.leaveRoom index room).room = index := rfl
        have hentering : (entering u).Remains exec s (u.leaveRoom index room) :=
          (Plan.remains_fillRoom s.game room _).bind fun v =>
            (Plan.drifts_playOn s.game v).remains
        exact hleft ▸ hentering.staysIn hexec

/-- In the first of three rooms an instance asks for the other two in each frame. -/
def wanderingSetup : Setup where
  game :=
    { functionTable := #[⟨"room_goto", 1, 0⟩]
      objects := #[{ events := [[], [], [], [⟨0, [0]⟩]] }]
      rooms := #[{ placements := [placementOf 0 5 (-1)] }, {}, {}] }
  program :=
    { code := #[⟨#[(Statement.pushImmediate 1).instruction 0,
        { (Statement.call 0 1).instruction 4 with functionIndex := 0 },
        Statement.popz.instruction 12, (Statement.pushImmediate 2).instruction 16,
        { (Statement.call 0 1).instruction 20 with functionIndex := 0 },
        Statement.popz.instruction 28]⟩]
      references := ⟨[], []⟩
      scripts := .empty }
  settings := {}

/-- The host asks for a room that does not exist and then for the first one. -/
def wanderer : World :=
  ((World.ofSetup wanderingSetup 0 default).gotoRoom wanderingSetup.game 7).gotoRoom
    wanderingSetup.game 0

theorem session_wanderer (depth : Nat) : Session wanderingSetup depth wanderer [7, 0] :=
  .ask 0 (.ask 7 (.start 0 default))

/-- The frame enters the first room, where the second and the third one are asked for. If the host then
asks for a room that does not exist, the next frame stays. -/
theorem room_requests_collapse_wandering :
    let s := wanderingSetup
    let exec := Machine.execute s 2
    ∃ v, wanderer.step exec s = some v ∧ v.room = 0 ∧ Session s 2 v [1, 2] ∧
      v.pendingRoom = some 2 ∧ (Plan.step s.game (v.gotoRoom s.game 9)).StaysIn exec s 0 := by
  intro s exec
  have hsome : (wanderer.step exec s).isSome := by decide +kernel
  obtain ⟨v, hv⟩ := Option.isSome_iff_exists.mp hsome
  have hend : ∀ v ∈ wanderer.step exec s, v.room = 0 := by decide +kernel
  have hrequests : (Plan.step s.game wanderer).requests exec (Machine.requests s 2) s = [1, 2] := by
    decide +kernel
  have hnext : Session s 2 v [1, 2] := hrequests ▸ .frame (session_wanderer 2) hv
  obtain ⟨-, -, -, hpending, -⟩ := room_requests_collapse (session_wanderer 2)
  obtain ⟨-, -, -, -, -, hstays⟩ := room_requests_collapse (.ask 9 hnext)
  rw [(World.quiet_gotoRoom v 9).room, hend v hv] at hstays
  exact ⟨v, hv, hend v hv, hnext, (hpending v hv).trans (congrArg List.getLast? hrequests), hstays⟩

end GameRunner

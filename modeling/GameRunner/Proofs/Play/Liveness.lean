import GameRunner.Proofs.Play.Moments
import GameRunner.Proofs.World.Selection

/-!
# Who is live when something is started

Each pass of a frame looks again whether an instance is live before it starts anything on it, because
code that has run since may have destroyed it. There is one place where nobody looks: the creation
code of a room is started on the first instance of the roster, which the creation code of a placement
may have destroyed just before.
-/

namespace GameRunner

namespace World

variable {w : World} {id : Int32}

theorem destroyed_dress (g : Game) (i : Instance) : (dress g i).destroyed = i.destroyed := by
  unfold dress
  split <;> rfl

theorem isLive_log (w : World) (severity : Severity) (line : Unit → String) (id : Int32) :
    (w.log severity line).isLive id = w.isLive id :=
  congrArg (Roster.isLive · id) (Quiet.log w severity line).instances

theorem isLive_modify {i : Instance} {f : Instance → Instance} (hi : w.instance? id = some i)
    (hf : (f i).destroyed = i.destroyed) : (w.modify id f).isLive id = w.isLive id := by
  have hmodify : (w.modify id f).instance? id = some { f i with id := id } := by
    rw [instance?_modify, if_pos rfl, hi]
    rfl
  rw [isLive_eq hmodify, isLive_eq hi]
  exact congrArg (!·) hf

theorem instance?_create (g : Game) (w : World) (object : Int32) (x y : Float) (id? : Option Int32) :
    (w.create g object x y id?).2.instance? (w.create g object x y id?).1 =
      some (dress g (.create (w.create g object x y id?).1 object x y)) := by
  have hid : (dress g (.create (w.create g object x y id?).1 object x y)).id =
      (w.create g object x y id?).1 := id_dress g _
  exact (Roster.get?_insert w.instances _ _).trans (if_pos hid)

theorem isLive_create (g : Game) (w : World) (object : Int32) (x y : Float) (id? : Option Int32) :
    (w.create g object x y id?).2.isLive (w.create g object x y id?).1 = true := by
  rw [isLive_eq (instance?_create ..)]
  exact congrArg (!·) (destroyed_dress g _)

theorem isLive_place (g : Game) (w : World) (p : Placement) :
    (w.place g p).2.isLive (w.place g p).1 = true := by
  refine (isLive_modify (instance?_create g w p.object _ _ _) rfl).trans ?_
  exact isLive_create g w p.object _ _ _

end World

namespace Plan

/-- Something is started on a live instance, or it is the creation code of a room and the first
instance of the roster, on which it is started, is destroyed. -/
def OnLive (w : World) (t : Start) : Prop :=
  w.isLive t.id = true ∨
    ∃ i rest code, w.instances.toList = i :: rest ∧ i.destroyed = true ∧ t = .roomCode i.id code

theorem starts_fire {w : World} {id : Int32} (h : w.isLive id = true) (type : Nat) (subtype : Int32)
    (other : Option Int32) : (fire w id type subtype other).Starts OnLive :=
  .single (.inl h)

theorem starts_visitLive {visit : World → Int32 → Plan World}
    (h : ∀ w id, w.isLive id = true → (visit w id).Starts OnLive) (w : World) (ids : List Int32) :
    (visitLive visit w ids).Starts OnLive := by
  refine .foldlM (fun w id => ?_) ids w
  split_ifs with hlive
  · exact h w id hlive
  · exact .pure w

theorem starts_dispatch (w : World) (type : Nat) (subtype : Int32) :
    (dispatch w type subtype).Starts OnLive :=
  starts_visitLive (fun _ _ hlive => starts_fire hlive type subtype none) w _

theorem starts_tickAlarm (id : Int32) (w : World) (slot : Fin alarmCount) :
    (tickAlarm id w slot).Starts OnLive := by
  unfold tickAlarm
  split
  · exact .pure w
  · next i hi =>
    split_ifs with hdestroyed
    · exact .pure w
    · split
      · exact .pure w
      · next ticked expired htick =>
        dsimp only
        split_ifs
        · apply starts_fire
          rw [World.isLive_log, World.isLive_modify hi (Instance.retains_tickAlarm? htick).2,
            World.isLive_eq hi]
          simpa [Instance.live] using hdestroyed
        · exact .pure _

theorem starts_runAlarms (w : World) : (runAlarms w).Starts OnLive := by
  refine .foldlM (fun w id => ?_) _ w
  unfold tickAlarms
  split_ifs
  · exact .foldlM (starts_tickAlarm id) _ w
  · exact .pure w

theorem starts_runKeys (w : World) : (runKeys w).Starts OnLive :=
  .foldlM (fun w key => starts_dispatch w _ key) _ w

theorem starts_runCollisions (g : Game) (w : World) : (runCollisions g w).Starts OnLive := by
  refine starts_visitLive (fun w id _ => ?_) w _
  unfold collide
  split
  · exact .pure w
  · split
    · exact .pure w
    · refine .foldlM (fun w kind => ?_) _ w
      -- An earlier collision may have destroyed the instance, so each one looks again.
      unfold collideWith
      split_ifs with hlive
      · split
        · exact starts_fire hlive _ kind _
        · exact .pure w
      · exact .pure w

theorem starts_runOutside (g : Game) (w : World) : (runOutside g w).Starts OnLive := by
  refine starts_visitLive (fun w id hlive => ?_) w _
  unfold checkOutside
  split
  · exact .pure w
  · next i hi =>
    dsimp only
    split_ifs
    · exact .pure w
    · apply starts_fire
      exact (World.isLive_modify hi rfl).trans hlive
    · exact .pure _

theorem starts_runAnimation (g : Game) (w : World) : (runAnimation g w).Starts OnLive := by
  refine starts_visitLive (fun w id hlive => ?_) w _
  unfold animate
  split
  · exact .pure w
  · next i hi =>
    dsimp only
    split_ifs
    · exact .pure w
    · apply starts_fire
      exact (World.isLive_modify hi (i.moved_animate _).destroyed).trans hlive
    · exact .pure _

theorem starts_placeAll (g : Game) (carried : List Int32) (placements : List Placement) (w : World) :
    (placeAll g carried placements w).Starts OnLive := by
  induction placements generalizing w with
  | nil => exact .pure _
  | cons p rest ih =>
    unfold placeAll
    split_ifs
    · exact ih _
    · refine .bind (.single (.inl (World.isLive_place g w p))) fun v => ?_
      exact .bind (ih v) fun r => .pure _
    · refine .bind (.pure _) fun v => ?_
      exact .bind (ih v) fun r => .pure _

/-- Nobody looks whether the first instance is live. -/
theorem starts_runCreationCode (g : Game) (room : Room) (w : World) :
    (runCreationCode g room w).Starts OnLive := by
  unfold runCreationCode
  split_ifs
  · split
    · next id hid =>
      apply Starts.single
      obtain ⟨i, rest, hlist⟩ : ∃ i rest, w.instances.toList = i :: rest := by
        apply List.exists_cons_of_ne_nil
        rintro hnil
        simp [Roster.ids, hnil] at hid
      have hi : w.instance? i.id = some i := by simp [World.instance?, Roster.get?, hlist]
      obtain rfl : i.id = id := by simpa [Roster.ids, hlist] using hid
      cases hdestroyed : i.destroyed with
      | true => exact .inr ⟨i, rest, _, hlist, hdestroyed, rfl⟩
      | false => exact .inl ((World.isLive_eq hi).trans (by simp [Instance.live, hdestroyed]))
    · refine .bind (.single (.inl (World.isLive_create g w (-1) 0 0 none))) fun v => ?_
      exact .pure _
  · exact .pure w

theorem starts_startRoom (placed : List Int32) (w : World) : (startRoom placed w).Starts OnLive := by
  refine .bind (starts_visitLive (fun _ _ hlive => starts_fire hlive _ 0 none) w placed) fun v => ?_
  refine .bind ?_ fun u => starts_dispatch u _ _
  unfold startGame
  split_ifs
  · exact .pure v
  · exact starts_dispatch _ _ _

theorem starts_enterPending (g : Game) (w : World) : (enterPending g w).Starts OnLive := by
  unfold enterPending
  split
  · unfold enterRoom
    split
    · exact .pure _
    · next room _ =>
      refine .bind (starts_dispatch _ _ _) fun v => ?_
      refine .bind (starts_placeAll g _ room.placements _) fun r => ?_
      exact .bind (starts_runCreationCode g room r.2) fun v => starts_startRoom r.1 v
  · exact .pure w

theorem starts_untilAlarms (g : Game) (w : World) : (untilAlarms g w).Starts OnLive :=
  .bind (starts_enterPending g _) fun _ => starts_dispatch _ _ _

theorem starts_afterAlarms (g : Game) (w : World) : (afterAlarms g w).Starts OnLive := by
  refine .bind (starts_runKeys w) fun w => ?_
  refine .bind (starts_dispatch w _ _) fun w => ?_
  refine .bind (starts_runCollisions g w) fun w => ?_
  refine .bind (starts_dispatch w _ _) fun w => ?_
  refine .bind (starts_runOutside g _) fun w => ?_
  exact .bind (starts_runAnimation g w) fun w => .pure _

/-- What is drawn for an instance by code is drawn for a live one. -/
theorem starts_drawLayers (g : Game) (room : Room) (w : World) :
    (drawLayers g room w).Starts OnLive := by
  have hinstance (w : World) (id : Int32) (hlive : w.isLive id = true) :
      (drawInstance g w id).Starts OnLive := by
    unfold drawInstance
    split
    · exact .pure w
    · split_ifs
      · exact .pure w
      · split
        · exact .single (.inl hlive)
        · exact .pure _
  have hdepth (w : World) (depth : Int32) : (drawDepth g room w depth).Starts OnLive :=
    starts_visitLive hinstance _ _
  exact .bind (.foldlM hdepth _ _) fun w => .pure _

/-- Playing a frame is running its plan, whatever code does. Everything that the plan starts it starts
on an instance that is live at that moment, but for the creation code of a room, which is started on
the first instance of the roster even if that one is destroyed. -/
theorem starts_on_live (s : Setup) (w : World) :
    (∀ exec, (step s.game w).run exec s = w.step exec s) ∧
      ∀ exec, ∀ x ∈ (step s.game w).trace exec s, x.1.isLive x.2.id = true ∨
        ∃ i rest code, x.1.instances.toList = i :: rest ∧ i.destroyed = true ∧
          x.2 = .roomCode i.id code := by
  have hstarts : (step s.game w).Starts OnLive := by
    rw [step_eq_alarms]
    refine .bind (starts_untilAlarms s.game w) fun w => ?_
    exact .bind (starts_runAlarms w) (starts_afterAlarms s.game)
  exact ⟨fun exec => run_step exec s w, fun exec x hx => hstarts.of_mem_trace hx⟩

/-- A room with creation code and two placements, the first of which has code that destroys its
instance. -/
def abandonedSetup : Setup :=
  { Machine.farewellSetup with
    game :=
      { Machine.farewellSetup.game with
        objects := #[{}]
        rooms := #[{ creationCode := 1,
                     placements := [placementOf 0 100000 0, placementOf 0 100001 (-1)] }] }
    program :=
      { Machine.farewellSetup.program with
        code := Machine.farewellSetup.program.code.push ⟨#[Statement.exit.instruction 0]⟩ } }

/-- When the room is entered in the first frame, its code is started on the instance that has been
destroyed, though there is a live one beside it. -/
theorem starts_on_destroyed :
    let w := (World.ofSetup abandonedSetup 0 default).gotoRoom abandonedSetup.game 0
    let starts := (step abandonedSetup.game w).trace (Machine.execute abandonedSetup 2) abandonedSetup
    ((starts.filter fun x => !x.1.isLive x.2.id).map fun x => (x.2, x.1.liveIds)) =
      [(.roomCode 100000 1, [100001])] := by
  decide +kernel

end Plan

end GameRunner

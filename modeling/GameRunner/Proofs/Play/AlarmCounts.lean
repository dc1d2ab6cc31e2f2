import GameRunner.Proofs.Play.Carried
import GameRunner.Proofs.Play.Staying

/-!
# The count of an alarm

Apart from the pass in which alarms count down, the engine does nothing to the alarm of an instance by
itself, in whatever room and whatever becomes of other instances. Only when another room is entered
the instance has to be carried over. So if no code touches the alarm either, it has the same count
from one pass to the next.
-/

namespace GameRunner

namespace Roster

theorem get?_map (r : Roster) (f : Instance → Instance) (id : Int32) :
    (r.map f).get? id = (r.get? id).map fun i => { f i with id := i.id } := by
  unfold get? map
  rw [List.find?_map]
  rfl

end Roster

namespace Instance

/-- The count of an alarm. It is negative if the alarm is off. -/
def count (i : Instance) (slot : Fin alarmCount) : Int := (i.alarms.get slot).toInt

/-- The count of an alarm, if the instance is live. -/
def alarm? (i : Instance) (slot : Fin alarmCount) : Option Int :=
  if i.live then some (i.count slot) else none

theorem Moved.alarm?_eq {i j : Instance} (h : i.Moved j) (slot : Fin alarmCount) :
    j.alarm? slot = i.alarm? slot := by
  have hlive : j.live = i.live := congrArg (!·) h.destroyed
  rw [alarm?, alarm?, count, count, hlive, h.alarms]

end Instance

namespace World

/-- The count of an alarm of an instance that is there and live. -/
def alarm? (w : World) (id : Int32) (slot : Fin alarmCount) : Option Int :=
  (w.instance? id).bind (·.alarm? slot)

section Counts

variable {w v : World} {id : Int32} {slot : Fin alarmCount} {i : Instance}

theorem alarm?_of_some (hi : w.instance? id = some i) : w.alarm? id slot = i.alarm? slot := by
  rw [alarm?, hi, Option.bind_some]

theorem exists_of_alarm? {n : Int} (h : w.alarm? id slot = some n) :
    ∃ i, w.instance? id = some i ∧ i.live = true ∧ i.count slot = n := by
  obtain ⟨i, hi, h⟩ := Option.bind_eq_some_iff.mp h
  simp only [Instance.alarm?, Option.ite_none_right_eq_some, Option.some.injEq] at h
  exact ⟨i, hi, h⟩

theorem mem_liveIds (hi : w.instance? id = some i) (hlive : i.live = true) : id ∈ w.liveIds := by
  have hid : i.id = id := Roster.id_of_get? hi
  have hmem : i ∈ w.instances.live := List.mem_filter.mpr ⟨List.mem_of_find?_eq_some hi, hlive⟩
  exact hid ▸ List.mem_map_of_mem hmem

theorem alarm?_congr (h : v.instances = w.instances) (id : Int32) (slot : Fin alarmCount) :
    v.alarm? id slot = w.alarm? id slot := by
  unfold alarm? instance?
  rw [h]

theorem alarm?_modify_of_ne {k : Int32} (hk : id ≠ k) (f : Instance → Instance) :
    (w.modify k f).alarm? id slot = w.alarm? id slot := by
  unfold alarm?
  rw [instance?_modify, if_neg hk]

theorem alarm?_modify_self {f : Instance → Instance} (hi : w.instance? id = some i) :
    (w.modify id f).alarm? id slot = (f i).alarm? slot := by
  rw [alarm?, instance?_modify, if_pos rfl, hi]
  rfl

/-- A change of some instance that has nothing to do with the alarm. -/
theorem alarm?_modify {k : Int32} {f : Instance → Instance} (hi : w.instance? k = some i)
    (h : (f i).alarm? slot = i.alarm? slot) :
    (w.modify k f).alarm? id slot = w.alarm? id slot := by
  by_cases hk : id = k
  · subst hk
    rw [alarm?_modify_self hi, alarm?_of_some hi, h]
  · exact alarm?_modify_of_ne hk f

theorem alarm?_mapLive {f : Instance → Instance} (hf : ∀ i : Instance, i.Moved (f i)) :
    (w.mapLive f).alarm? id slot = w.alarm? id slot := by
  have hget : (w.mapLive f).instance? id =
      (w.instance? id).map fun i => { (if i.live then f i else i) with id := i.id } :=
    Roster.get?_map ..
  rw [alarm?, hget, alarm?, Option.bind_map]
  refine Option.bind_congr fun i _ => ?_
  change (if i.live then f i else i).alarm? slot = i.alarm? slot
  split_ifs
  · exact (hf i).alarm?_eq slot
  · rfl

/-- Dropping instances does not touch the alarms of one that stays. -/
theorem alarm?_filter {keep : Instance → Bool} (hv : v.instances = w.instances.filter keep)
    (h : ∀ i, w.instance? id = some i → i.live = true → keep i = true) :
    v.alarm? id slot = w.alarm? id slot := by
  have hback : ∀ j, v.instance? id = some j → w.instance? id = some j := by
    intro j hj
    have hmem : j ∈ v.instances.toList := List.mem_of_find?_eq_some hj
    rw [hv] at hmem
    have hid : j.id = id := Roster.id_of_get? hj
    exact hid ▸ instance?_of_mem (List.mem_of_mem_filter hmem)
  cases hi : w.instance? id with
  | none =>
    have hnone : v.instance? id = none :=
      Option.eq_none_iff_forall_ne_some.mpr fun j hj => by simp [hback j hj] at hi
    rw [alarm?, alarm?, hi, hnone]
  | some i =>
    cases hlive : i.live with
    | false =>
      have hdead : i.alarm? slot = none := by simp [Instance.alarm?, hlive]
      rw [alarm?_of_some hi, hdead]
      cases hj : v.instance? id with
      | none => rw [alarm?, hj, Option.bind_none]
      | some j =>
        cases hi.symm.trans (hback j hj)
        rw [alarm?_of_some hj, hdead]
    | true =>
      have hmem : i ∈ v.instances.toList := by
        rw [hv]
        exact List.mem_filter.mpr ⟨List.mem_of_find?_eq_some hi, h i hi hlive⟩
      have hid : i.id = id := Roster.id_of_get? hi
      rw [alarm?_of_some hi, alarm?_of_some (hid ▸ instance?_of_mem hmem)]

theorem alarm?_place {g : Game} {p : Placement} (h : id ≠ (w.place g p).1) :
    (w.place g p).2.alarm? id slot = w.alarm? id slot := by
  unfold alarm?
  rw [instance?_place_of_ne h]

end Counts

/-- A change that leaves an alarm of an instance alone: the instance is live afterwards if and only if
it was before, and then the alarm has the same count. -/
def KeepsAlarm (self : Int32) (slot : Fin alarmCount) (w v : World) : Prop :=
  v.alarm? self slot = w.alarm? self slot

namespace KeepsAlarm

variable {self : Int32} {slot : Fin alarmCount} {w v u : World}

theorem refl (w : World) : KeepsAlarm self slot w w := rfl

theorem trans (h : KeepsAlarm self slot w v) (h' : KeepsAlarm self slot v u) :
    KeepsAlarm self slot w u :=
  Eq.trans h' h

theorem of_instances (h : v.instances = w.instances) : KeepsAlarm self slot w v :=
  alarm?_congr h self slot

theorem log (w : World) (severity : Severity) (line : Unit → String) :
    KeepsAlarm self slot w (w.log severity line) :=
  of_instances (Quiet.log w severity line).instances

theorem leaveRoom {index : Int32} {room : Room} (h : (w.leaveRoom index room).isLive self = true) :
    KeepsAlarm self slot w (w.leaveRoom index room) := by
  refine alarm?_filter rfl fun i hi _ => ?_
  obtain ⟨j, hj, -⟩ := exists_of_isLive h
  have hmem : j ∈ (w.leaveRoom index room).instances.toList := List.mem_of_find?_eq_some hj
  obtain ⟨hmem, hkeep⟩ := List.mem_filter.mp hmem
  have hid : j.id = self := Roster.id_of_get? hj
  cases (hid ▸ instance?_of_mem hmem).symm.trans hi
  exact hkeep

theorem ids_ne_nil (h : KeepsAlarm self slot w v) (hlive : w.isLive self = true) :
    v.instances.ids ≠ [] := by
  obtain ⟨i, hi, hilive⟩ := exists_of_isLive hlive
  have hcount : w.alarm? self slot = some (i.count slot) := by
    rw [alarm?_of_some hi, Instance.alarm?, if_pos hilive]
  obtain ⟨j, hj, -⟩ := exists_of_alarm? (Eq.trans h hcount)
  exact List.ne_nil_of_mem (List.mem_map_of_mem (List.mem_of_find?_eq_some hj))

end KeepsAlarm

end World

/-! ### Where neither code nor the engine touches an alarm -/

namespace Plan

section Sparing

variable {α β : Type} {exec : Exec} {s : Setup} {self : Int32} {slot : Fin alarmCount} {w v : World}

/-- Everything that a plan starts leaves an alarm of an instance alone if it comes to an end. -/
def LeavesAlarm (exec : Exec) (s : Setup) (self : Int32) (slot : Fin alarmCount) (plan : Plan α) :
    Prop :=
  ∀ x ∈ plan.trace exec s, ∀ v, x.2.run exec s x.1 = some v → World.KeepsAlarm self slot x.1 v

theorem LeavesAlarm.left {plan : Plan α} {k : α → Plan β}
    (h : (plan >>= k).LeavesAlarm exec s self slot) : plan.LeavesAlarm exec s self slot :=
  fun x hx => h x (mem_trace_bind.mpr (.inl hx))

theorem LeavesAlarm.right {plan : Plan α} {k : α → Plan β} {a : α}
    (h : (plan >>= k).LeavesAlarm exec s self slot) (ha : plan.run exec s = some a) :
    (k a).LeavesAlarm exec s self slot :=
  fun x hx => h x (mem_trace_bind.mpr (.inr ⟨a, ha, hx⟩))

/-- By itself the engine leaves an alarm of an instance alone. -/
abbrev KeepsAlarm (exec : Exec) (s : Setup) (self : Int32) (slot : Fin alarmCount) (w : World)
    (plan : Plan World) : Prop :=
  plan.OwnChanges exec s (World.KeepsAlarm self slot) id w

theorem KeepsAlarm.bind {plan : Plan World} {k : World → Plan World}
    (h : plan.KeepsAlarm exec s self slot w) (hk : ∀ v, (k v).KeepsAlarm exec s self slot v) :
    (plan >>= k).KeepsAlarm exec s self slot w :=
  OwnChanges.bind (fun _ _ _ => .trans) h fun v _ => hk v

theorem KeepsAlarm.after {plan : Plan World} (h : plan.KeepsAlarm exec s self slot v)
    (hwv : World.KeepsAlarm self slot w v) : plan.KeepsAlarm exec s self slot w :=
  .before (fun _ _ _ => .trans) hwv h

/-- An alarm that neither code nor the engine touches has the same count in the end. -/
theorem KeepsAlarm.result {plan : Plan World} (h : plan.KeepsAlarm exec s self slot w)
    (hcode : plan.LeavesAlarm exec s self slot) (hv : plan.run exec s = some v) :
    World.KeepsAlarm self slot w v :=
  (h.moments_of_trace (fun _ _ _ => .trans) hcode).2 v hv

theorem keepsAlarm_dispatch (w : World) (type : Nat) (subtype : Int32) :
    (dispatch w type subtype).KeepsAlarm exec s self slot w :=
  ownChanges_dispatch .refl (fun _ _ _ => .trans) w type subtype

theorem keepsAlarm_afterAlarms (g : Game) (w : World) :
    (afterAlarms g w).KeepsAlarm exec s self slot w := by
  have hmoved (w : World) : World.KeepsAlarm self slot w
      ((w.mapLive (Instance.followPath g)).mapLive Instance.applyMotion) :=
    (World.alarm?_mapLive Instance.moved_applyMotion).trans
      (World.alarm?_mapLive (Instance.moved_followPath g))
  have houtside (w : World) : (runOutside g w).KeepsAlarm exec s self slot w := by
    refine ownChanges_runOutside g .refl (fun _ _ _ => .trans) ?_ w
    intro w k i outside hi
    exact World.alarm?_modify hi rfl
  have hanimation (w : World) : (runAnimation g w).KeepsAlarm exec s self slot w := by
    refine ownChanges_runAnimation g .refl (fun _ _ _ => .trans) ?_ w
    intro w k i pictures hi
    exact World.alarm?_modify hi ((i.moved_animate pictures).alarm?_eq slot)
  refine .bind (ownChanges_runKeys .refl (fun _ _ _ => .trans) w) fun w => ?_
  refine .bind (keepsAlarm_dispatch w _ _) fun w => ?_
  refine .bind (ownChanges_runCollisions g .refl (fun _ _ _ => .trans) w) fun w => ?_
  refine .bind (keepsAlarm_dispatch w _ _) fun w => ?_
  refine .bind ((houtside _).after (hmoved w)) fun w => ?_
  exact .bind (hanimation w) fun w => World.alarm?_filter rfl fun i _ hlive => hlive

theorem keepsAlarm_draw (g : Game) (w : World) : (draw g w).KeepsAlarm exec s self slot w := by
  refine ownChanges_draw g (fun _ _ _ => .trans) ?_ w
  intro w v hinstances _ _
  exact .of_instances hinstances

/-! ### Entering a room -/

/-- The placements of a room that is entered get their instances. -/
def placing (g : Game) (room : Room) (w : World) : Plan (List Int32 × World) :=
  placeAll g w.instances.ids room.placements (w.log .info fun _ =>
    s!"Entering room {room.name} ({room.width}x{room.height}), {room.placements.length} " ++
      s!"placements, {w.instances.ids.length} carried over")

/-- An instance stays in play while the room that has been asked for is entered, if there is one: it is
carried over, and none of the placements gets its id. -/
def StaysInPlay (exec : Exec) (s : Setup) (self : Int32) (w : World) : Prop :=
  ∀ index room v, w.pendingRoom = some index → s.game.room? index = some room →
    ({ w with pendingRoom := none } : World).dispatch exec s EventType.misc MiscEvent.roomEnd =
      some v →
    (v.leaveRoom index room).isLive self = true ∧
      ∀ r, (placing s.game room (v.leaveRoom index room)).run exec s = some r → self ∉ r.1

theorem keepsAlarm_placeAll {g : Game} {carried : List Int32} {placements : List Placement}
    {r : List Int32 × World} (hcode : (placeAll g carried placements w).LeavesAlarm exec s self slot)
    (hr : (placeAll g carried placements w).run exec s = some r) (hself : self ∉ r.1) :
    World.KeepsAlarm self slot w r.2 := by
  induction placements generalizing w r with
  | nil =>
    cases hr
    exact .refl w
  | cons p rest ih =>
    have hrest (u : World) (hu : World.KeepsAlarm self slot (w.place g p).2 u)
        (hcode : (placeAll g carried rest u >>= fun r =>
          pure ((w.place g p).1 :: r.1, r.2)).LeavesAlarm exec s self slot)
        (hr : (placeAll g carried rest u >>= fun r =>
          pure ((w.place g p).1 :: r.1, r.2)).run exec s = some r) :
        World.KeepsAlarm self slot w r.2 := by
      obtain ⟨r', hr', hr⟩ := Option.bind_eq_some_iff.mp ((run_bind ..).symm.trans hr)
      cases hr
      obtain ⟨hne, hself⟩ := not_or.mp (mt List.mem_cons.mpr hself)
      have hplaced : World.KeepsAlarm self slot w (w.place g p).2 := World.alarm?_place hne
      have hlater := ih hcode.left hr' hself
      exact (hplaced.trans hu).trans hlater
    unfold placeAll at hcode hr
    split_ifs at hcode hr with hcarried hcreation
    · exact (World.KeepsAlarm.log w _ _).trans (ih hcode hr hself)
    · obtain ⟨u, hu, hr⟩ := Option.bind_eq_some_iff.mp ((run_bind ..).symm.trans hr)
      have hplacement : World.KeepsAlarm self slot (w.place g p).2 u :=
        hcode.left (_, .placementCode (w.place g p).1 p.creationCode) List.mem_cons_self u
          ((run_start ..).symm.trans hu)
      exact hrest u hplacement (hcode.right hu) hr
    · exact hrest _ (.refl _) hcode hr

theorem keepsAlarm_runCreationCode {g : Game} (room : Room) (h : w.instances.ids ≠ []) :
    (runCreationCode g room w).KeepsAlarm exec s self slot w := by
  unfold runCreationCode
  split_ifs
  · split
    · exact ⟨.refl w, fun v _ => .refl v⟩
    · next hnone => exact absurd (List.head?_eq_none_iff.mp hnone) h
  · exact World.KeepsAlarm.refl w

theorem keepsAlarm_startRoom (placed : List Int32) (w : World) :
    (startRoom placed w).KeepsAlarm exec s self slot w :=
  ownChanges_startRoom .refl (fun _ _ _ => .trans) (fun _ => .of_instances rfl) placed w

theorem keepsAlarm_fillRoom {room : Room}
    (hcode : (fillRoom s.game room w).LeavesAlarm exec s self slot)
    (hlive : w.isLive self = true)
    (hplaced : ∀ r, (placing s.game room w).run exec s = some r → self ∉ r.1)
    (hv : (fillRoom s.game room w).run exec s = some v) : World.KeepsAlarm self slot w v := by
  change ((placing s.game room w >>= fun r => runCreationCode s.game room r.2 >>=
    startRoom r.1).LeavesAlarm exec s self slot) at hcode
  change (placing s.game room w >>= fun r => runCreationCode s.game room r.2 >>=
    startRoom r.1).run exec s = some v at hv
  obtain ⟨r, hr, hv⟩ := Option.bind_eq_some_iff.mp ((run_bind ..).symm.trans hv)
  have hplacing : World.KeepsAlarm self slot w r.2 :=
    (World.KeepsAlarm.log w _ _).trans (keepsAlarm_placeAll hcode.left hr (hplaced r hr))
  have hids : r.2.instances.ids ≠ [] := hplacing.ids_ne_nil hlive
  have hrest : (runCreationCode s.game room r.2 >>= startRoom r.1).KeepsAlarm exec s self slot r.2 :=
    (keepsAlarm_runCreationCode room hids).bind fun u => keepsAlarm_startRoom r.1 u
  exact hplacing.trans (hrest.result (hcode.right hr) hv)

theorem keepsAlarm_enterPending (hcode : (enterPending s.game w).LeavesAlarm exec s self slot)
    (hstays : StaysInPlay exec s self w) (hv : (enterPending s.game w).run exec s = some v) :
    World.KeepsAlarm self slot w v := by
  unfold enterPending at hcode hv
  cases hpending : w.pendingRoom with
  | none =>
    simp only [hpending] at hv
    cases hv
    exact .refl w
  | some index =>
    simp only [hpending, enterRoom] at hcode hv
    cases hroom : s.game.room? index with
    | none =>
      simp only [hroom] at hv
      cases hv
      exact .log _ _ _
    | some room =>
      simp only [hroom] at hcode hv
      obtain ⟨u, hu, hv⟩ := Option.bind_eq_some_iff.mp ((run_bind ..).symm.trans hv)
      have hend := (keepsAlarm_dispatch _ _ _).result hcode.left hu
      obtain ⟨hcarried, hplaced⟩ :=
        hstays index room u hpending hroom ((run_dispatch ..).symm.trans hu)
      have hfill := keepsAlarm_fillRoom (hcode.right hu) hcarried hplaced hv
      exact (World.KeepsAlarm.trans hend (.leaveRoom hcarried)).trans hfill

theorem keepsAlarm_untilAlarms (hcode : (untilAlarms s.game w).LeavesAlarm exec s self slot)
    (hstays : StaysInPlay exec s self w.beginFrame)
    (hv : (untilAlarms s.game w).run exec s = some v) : World.KeepsAlarm self slot w v := by
  obtain ⟨u, hu, hv⟩ := Option.bind_eq_some_iff.mp ((run_bind ..).symm.trans hv)
  have hbegin : World.KeepsAlarm self slot w w.beginFrame := by
    unfold World.beginFrame
    dsimp only
    split <;> exact .of_instances rfl
  have henter := keepsAlarm_enterPending hcode.left hstays hu
  have hremember : World.KeepsAlarm self slot u (u.mapLive Instance.rememberPlace) :=
    World.alarm?_mapLive Instance.moved_rememberPlace
  have hfirst := (keepsAlarm_dispatch _ _ _).result (hcode.right hu) hv
  exact ((hbegin.trans henter).trans hremember).trans hfirst

end Sparing

end Plan

/-- Where no code ever touches an alarm, nothing that is started does. -/
theorem Plan.leavesAlarm_of_keeps {α : Type} {exec : Exec} {s : Setup} {self : Int32}
    {slot : Fin alarmCount} (hexec : exec.Keeps (World.KeepsAlarm self slot)) (plan : Plan α) :
    plan.LeavesAlarm exec s self slot :=
  fun x _ _ hv => rel_of_start (fun _ _ => .of_instances) (fun _ _ _ => .trans) hexec x.2 hv

end GameRunner

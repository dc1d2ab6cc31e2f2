import GameRunner.Proofs.Event.Dispatch
import GameRunner.Proofs.World.Selection

/-!
# Instances that are carried over

When a room is left, the live persistent instances stay and all others go. Then the new room is
filled. A placement that asks for the id of an instance that was carried over is passed over, and one
that asks for no id gets one that is free. So nothing that the engine does by itself while it fills
the room touches an instance that was carried over, and none of these is told to be created again.
-/

namespace GameRunner

namespace World

variable {g : Game} {carried : List Int32} {w v u : World} {p : Placement}

/-- A change that leaves instances carried over as they are, provided that they are there and that the
counter is above all ids. No instance is removed. -/
structure Spares (carried : List Int32) (w v : World) : Prop where
  ids : w.instances.ids <+: v.instances.ids
  idsBelow : w.IdsBelow → Int32.maxValue ∉ v.instances.ids → v.IdsBelow
  same : w.IdsBelow → carried ⊆ w.instances.ids → Int32.maxValue ∉ v.instances.ids →
    ∀ id ∈ carried, v.instance? id = w.instance? id

/-- A stretch of play that keeps instances carried over as the same ones, on the same conditions. -/
structure Carries (carried : List Int32) (w v : World) : Prop where
  ids : w.instances.ids <+: v.instances.ids
  idsBelow : w.IdsBelow → Int32.maxValue ∉ v.instances.ids → v.IdsBelow
  continues : w.IdsBelow → carried ⊆ w.instances.ids → Int32.maxValue ∉ v.instances.ids →
    ∀ id ∈ carried, ∀ i, w.instance? id = some i → ∃ j, v.instance? id = some j ∧ i.Continues j

theorem IdsBelow.congr (hw : w.IdsBelow) (hi : v.instances = w.instances)
    (hn : v.nextId = w.nextId) : v.IdsBelow := by
  unfold IdsBelow
  rw [hi, hn]
  exact hw

namespace Spares

theorem of_eq (hi : v.instances = w.instances) (hn : v.nextId = w.nextId) : Spares carried w v where
  ids := by rw [hi]
  idsBelow hw _ := hw.congr hi hn
  same _ _ _ id _ := congrArg (Roster.get? · id) hi

theorem refl (w : World) : Spares carried w w := of_eq rfl rfl

theorem log (w : World) (severity : Severity) (line : Unit → String) :
    Spares carried w (w.log severity line) :=
  of_eq (Quiet.log w severity line).instances (Quiet.log w severity line).nextId

theorem trans (h : Spares carried w v) (h' : Spares carried v u) : Spares carried w u where
  ids := h.ids.trans h'.ids
  idsBelow hw hu := h'.idsBelow (h.idsBelow hw fun hv => hu (h'.ids.subset hv)) hu
  same hw hcarried hu id hid := by
    have hv : Int32.maxValue ∉ v.instances.ids := fun hv => hu (h'.ids.subset hv)
    have hcarried' : carried ⊆ v.instances.ids := fun id hid => h.ids.subset (hcarried hid)
    exact (h'.same (h.idsBelow hw hv) hcarried' hu id hid).trans (h.same hw hcarried hv id hid)

theorem carries (h : Spares carried w v) : Carries carried w v where
  ids := h.ids
  idsBelow := h.idsBelow
  continues hw hcarried hv id hid i hi := ⟨i, (h.same hw hcarried hv id hid).trans hi, .refl i⟩

end Spares

/-- No instance is removed, and those that are carried over are the same ones and just as they were,
unless the last id of all has been given away. -/
def Untouched (carried : List Int32) (w v : World) : Prop :=
  w.instances.ids <+: v.instances.ids ∧
    (Int32.maxValue ∉ v.instances.ids → ∀ id ∈ carried, v.instance? id = w.instance? id)

theorem Carries.trans (h : Carries carried w v) (h' : Carries carried v u) : Carries carried w u where
  ids := h.ids.trans h'.ids
  idsBelow hw hu := h'.idsBelow (h.idsBelow hw fun hv => hu (h'.ids.subset hv)) hu
  continues hw hcarried hu id hid i hi := by
    have hv : Int32.maxValue ∉ v.instances.ids := fun hv => hu (h'.ids.subset hv)
    have hcarried' : carried ⊆ v.instances.ids := fun id hid => h.ids.subset (hcarried hid)
    obtain ⟨j, hj, hij⟩ := h.continues hw hcarried hv id hid i hi
    obtain ⟨k, hk, hjk⟩ := h'.continues (h.idsBelow hw hv) hcarried' hu id hid j hj
    exact ⟨k, hk, hij.trans hjk⟩

/-- The instances carried over are there, and the counter is above all ids, unless the last id of all
has been given away. -/
structure Provides (w : World) (carried : List Int32) : Prop where
  idsBelow : Int32.maxValue ∉ w.instances.ids → w.IdsBelow
  carried : carried ⊆ w.instances.ids

theorem Carries.provides (h : Carries carried w v) (hw : w.Provides carried) :
    v.Provides carried where
  idsBelow hmax := h.idsBelow (hw.idsBelow fun hmem => hmax (h.ids.subset hmem)) hmax
  carried _ hid := h.ids.subset (hw.carried hid)

theorem Progresses.carries (h : w.Progresses v) : Carries carried w v where
  ids := h.ids
  idsBelow hw hv := (h.grows hw hv).idsBelow
  continues hw _ hv _ _ _ hi := (h.grows hw hv).exists_instance? hi

/-! ### The placements and what is carried over -/

/-- A placement that is not passed over does not get the id of an instance that is carried over. -/
theorem place_fst_not_mem (hw : w.IdsBelow) (hcarried : carried ⊆ w.instances.ids)
    (hfree : p.instanceId ∉ carried) : (w.place g p).1 ∉ carried := by
  rw [place_fst]
  split_ifs
  · exact hfree
  · exact fun hmem => Int32.lt_irrefl (hw _ (hcarried hmem))

theorem instance?_place_of_ne {id : Int32} (h : id ≠ (w.place g p).1) :
    (w.place g p).2.instance? id = w.instance? id := by
  obtain ⟨i, hlist, hi, -⟩ := exists_toList_place g w p
  have hget : (w.place g p).2.instance? id = (w.instances.insert i).get? id := by
    unfold instance? Roster.get?
    rw [hlist]
    rfl
  have hne : i.id ≠ id := hi ▸ h.symm
  rw [hget, Roster.get?_insert, if_neg hne]
  rfl

theorem Spares.place (hfree : p.instanceId ∉ carried) : Spares carried w (w.place g p).2 := by
  obtain ⟨i, hlist, -, -⟩ := exists_toList_place g w p
  refine ⟨?_, fun hw hmax => (idsBelow_place hw hmax).1, fun hw hcarried _ id hid => ?_⟩
  · have hids := Roster.ids_isPrefix_insert w.instances i
    unfold Roster.ids at hids ⊢
    rw [hlist]
    exact hids
  · refine instance?_place_of_ne ?_
    rintro rfl
    exact place_fst_not_mem hw hcarried hfree hid

/-- None of the instances that placements get is one that is carried over. -/
theorem not_mem_of_mem_placed {exec : Exec} (hexec : exec.Keeps Progresses)
    {placements : List Placement} {placed : List Int32} (hw : w.IdsBelow)
    (hcarried : carried ⊆ w.instances.ids)
    (h : placeAll exec g carried placements w = some (placed, v))
    (hmax : Int32.maxValue ∉ v.instances.ids) : ∀ id ∈ placed, id ∉ carried := by
  induction placements generalizing w placed with
  | nil =>
    cases h
    simp
  | cons p rest ih =>
    rcases placeAll_cons hexec h with ⟨-, u, hi, hn, hrest⟩ | ⟨hfree, u, ids, rfl, hcode, hrest⟩
    · exact ih (hw.congr hi hn) (hi ▸ hcarried) hrest
    · have hcarries : Carries carried w u := (Spares.place hfree).carries.trans hcode.carries
      have hu : u.IdsBelow := hcarries.idsBelow hw
        fun hmem => hmax (ids_subset_placeAll hexec hrest hmem)
      have hrest' := ih hu (fun id hid => hcarries.ids.subset (hcarried hid)) hrest
      exact List.forall_mem_cons.mpr ⟨place_fst_not_mem hw hcarried hfree, hrest'⟩

end World

/-! ### Filling a room -/

namespace Plan

variable {exec : Exec} {s : Setup} {g : Game} {carried : List Int32} {room : Room} {w v : World}

/-- Where the engine spares what is carried over and code runs as it does, it is carried on. -/
theorem OwnChanges.carries {α : Type} {p : α → World} {plan : Plan α}
    (hexec : exec.Keeps World.Progresses)
    (h : plan.OwnChanges exec s (World.Spares carried) p w) :
    (∀ x ∈ plan.trace exec s, World.Carries carried w x.1) ∧
      ∀ a, plan.run exec s = some a → World.Carries carried w (p a) :=
  (h.mono fun _ _ => World.Spares.carries).moments (fun _ _ _ => .trans)
    fun t _ _ ht => (progresses_of_start hexec t ht).carries

/-- If the counter is above all ids at first, none of the changes touches what is carried over. -/
theorem OwnChanges.untouched {α : Type} {p : α → World} {plan : Plan α}
    (hexec : exec.Keeps World.Progresses) (hw : w.IdsBelow) (hcarried : carried ⊆ w.instances.ids)
    (h : plan.OwnChanges exec s (World.Spares carried) p w) :
    plan.OwnChanges exec s (World.Untouched carried) p w := by
  have hready : w.Provides carried := ⟨fun _ => hw, hcarried⟩
  have hinvariant := h.invariant (fun v u hvu => hvu.carries.provides)
    (fun t v u ht => (progresses_of_start hexec t ht).carries.provides) hready
  refine hinvariant.mono fun v u ⟨hv, hvu⟩ => ⟨hvu.ids, fun hmax => ?_⟩
  exact hvu.same (hv.idsBelow fun hmem => hmax (hvu.ids.subset hmem)) hv.carried hmax

/-- An instance is made for the creation code of a room only if no instance is carried over. -/
theorem ownChanges_runCreationCode (exec : Exec) (s : Setup) (g : Game) (room : Room)
    (hcarried : carried ⊆ w.instances.ids) :
    (runCreationCode g room w).OwnChanges exec s (World.Spares carried) id w := by
  unfold runCreationCode
  split_ifs
  · split
    · exact ⟨.refl w, fun v _ => .refl v⟩
    · next hnone =>
      obtain rfl : carried = [] := by
        rw [List.head?_eq_none_iff] at hnone
        exact List.subset_nil.mp (hnone ▸ hcarried)
      have hcreate := World.progresses_create g w (-1) 0 0
      refine ⟨⟨hcreate.ids, fun hw hmax => (hcreate.grows hw hmax).idsBelow, by simp⟩, fun v _ => ?_⟩
      refine ⟨(Roster.ids_modify ..).symm ▸ List.prefix_refl _, fun hv _ => ?_, by simp⟩
      exact fun id hid => hv id (Roster.ids_modify .. ▸ hid)
  · exact .refl w

/-- What comes after the placements. -/
theorem ownChanges_afterPlacing (exec : Exec) (s : Setup) (g : Game) (room : Room)
    (placed : List Int32) (hcarried : carried ⊆ w.instances.ids) :
    (runCreationCode g room w >>= startRoom placed).OwnChanges exec s (World.Spares carried) id w :=
  .bind (fun _ _ _ => .trans) (ownChanges_runCreationCode exec s g room hcarried)
    fun v _ => ownChanges_startRoom .refl (fun _ _ _ => .trans) (fun _ => .of_eq rfl rfl) placed v

theorem subset_ids_of_placeAll (hexec : exec.Keeps World.Progresses) {r : List Int32 × World}
    {placements : List Placement} {severity : Severity} {line : Unit → String}
    (hr : (placeAll g carried placements (w.log severity line)).run exec s = some r) :
    w.instances.ids ⊆ r.2.instances.ids := by
  rw [run_placeAll] at hr
  have hsub := World.ids_subset_placeAll hexec hr
  rwa [(Quiet.log w severity line).instances] at hsub

/-- All that the engine does by itself while it fills a room spares the instances that are there at
first. -/
theorem ownChanges_fillRoom (hexec : exec.Keeps World.Progresses) (s : Setup) (g : Game)
    (room : Room) (w : World) :
    (fillRoom g room w).OwnChanges exec s (World.Spares w.instances.ids) id w := by
  have htrans : ∀ v u t : World, World.Spares w.instances.ids v u → World.Spares w.instances.ids u t →
      World.Spares w.instances.ids v t := fun _ _ _ => .trans
  have hplacing (v : World) : (placeAll g w.instances.ids room.placements v).OwnChanges exec s
      (World.Spares w.instances.ids) Prod.snd v :=
    ownChanges_placeAll .refl htrans .log (fun _ _ => .place) room.placements v
  refine .before htrans (.log w .info _) (.bind htrans (hplacing _) fun r hr => ?_)
  exact ownChanges_afterPlacing exec s g room r.1 (subset_ids_of_placeAll hexec hr)

/-! ### Who is told that it is created -/

end Plan

/-- The event that tells an instance that it is created. -/
def Start.IsCreationOf (id : Int32) : Start → Prop
  | event self type _ _ => self = id ∧ type = EventType.create
  | _ => False

namespace Plan

variable {exec : Exec} {s : Setup} {g : Game} {carried : List Int32} {room : Room} {w v : World}

def NoCreation (_ : World) (t : Start) : Prop := ∀ id, ¬ t.IsCreationOf id

theorem noCreation_dispatch (w : World) (subtype : Int32) :
    (dispatch w EventType.misc subtype).Starts NoCreation := by
  refine .foldlM (fun w id => ?_) _ w
  split_ifs
  · exact .single fun _ h => absurd h.2 (by decide)
  · exact .pure w

theorem noCreation_placeAll (g : Game) (carried : List Int32) (placements : List Placement)
    (w : World) : (placeAll g carried placements w).Starts NoCreation := by
  induction placements generalizing w with
  | nil => exact .pure _
  | cons p rest ih =>
    unfold placeAll
    split_ifs
    · exact ih _
    · exact .bind (.single fun _ h => h) fun v => .bind (ih v) fun r => .pure _
    · exact .bind (.pure _) fun v => .bind (ih v) fun r => .pure _

theorem noCreation_runCreationCode (g : Game) (room : Room) (w : World) :
    (runCreationCode g room w).Starts NoCreation := by
  unfold runCreationCode
  split_ifs
  · split
    · exact .single fun _ h => h
    · exact .bind (.single fun _ h => h) fun v => .pure _
  · exact .pure w

/-- When a room starts, the instances of its placements are told that they are created, and no
others. -/
theorem mem_of_creation_startRoom {placed : List Int32} {x : World × Start} {id : Int32}
    (hx : x ∈ (startRoom placed w).trace exec s) (hcreation : x.2.IsCreationOf id) : id ∈ placed := by
  rcases mem_trace_bind.mp hx with hx | ⟨v, -, hx⟩
  · rw [World.trace_visitLive_fire] at hx
    obtain ⟨t, ht, rfl⟩ := List.mem_map.mp hx
    obtain ⟨rfl, -⟩ := hcreation
    have hturn := List.mem_map_of_mem (f := Prod.snd) (List.mem_of_mem_filter ht)
    exact (World.turns_isPrefix ..).subset hturn
  · have hrest : (startGame v >>= fun w => dispatch w EventType.misc MiscEvent.roomStart).Starts
        NoCreation := by
      refine .bind ?_ fun u => noCreation_dispatch u _
      unfold startGame
      split_ifs
      · exact .pure v
      · exact noCreation_dispatch _ _
    exact absurd hcreation (hrest.of_mem_trace hx id)

/-- None of the instances that are there at first is told that it is created. -/
theorem not_isCreationOf_of_mem_fillRoom (hexec : exec.Keeps World.Progresses) (hw : w.IdsBelow)
    {x : World × Start} (hx : x ∈ (fillRoom g room w).trace exec s)
    (hmax : Int32.maxValue ∉ x.1.instances.ids) {id : Int32} (hid : id ∈ w.instances.ids) :
    ¬ x.2.IsCreationOf id := by
  intro hcreation
  rcases mem_trace_bind.mp hx with hx | ⟨r, hr, hx⟩
  · exact (noCreation_placeAll ..).of_mem_trace hx id hcreation
  · have hcarried := subset_ids_of_placeAll hexec hr
    have hlater := (ownChanges_afterPlacing exec s g room r.1 hcarried).carries hexec
    have hmaxr : Int32.maxValue ∉ r.2.instances.ids :=
      fun hmem => hmax ((hlater.1 x hx).ids.subset hmem)
    rcases mem_trace_bind.mp hx with hx | ⟨v, -, hx⟩
    · exact (noCreation_runCreationCode ..).of_mem_trace hx id hcreation
    · rw [run_placeAll] at hr
      have hplaced := mem_of_creation_startRoom hx hcreation
      refine World.not_mem_of_mem_placed hexec
        (hw.congr (Quiet.log w .info _).instances (Quiet.log w .info _).nextId) ?_ hr hmaxr id hplaced
        hid
      rw [(Quiet.log w .info _).instances]
      exact List.Subset.refl _

end Plan

namespace World

variable {s : Setup} {w u : World}

theorem idsBelow_leaveRoom (hu : u.IdsBelow) (index : Int32) (room : Room) :
    (u.leaveRoom index room).IdsBelow :=
  fun id hid => hu id ((List.filter_sublist.map _).subset hid)

/-- When a room is entered, the event of leaving comes first, then the live persistent instances stay
in their order and all others go, and then the room is filled. From there to the end none of those
that have stayed is removed. Nothing but code changes any of them, each is the same instance all the
time, and none is told that it is created. -/
theorem enterRoom_keeps_carried (hw : Played s w) {index : Int32} {room : Room}
    (hroom : s.game.room? index = some room) (depth : Nat) :
    let exec := Machine.execute s depth
    (∀ exec, w.enterRoom exec s index =
      (w.dispatch exec s EventType.misc MiscEvent.roomEnd).bind fun u =>
        (Plan.fillRoom s.game room (u.leaveRoom index room)).run exec s) ∧
    ∀ u, w.dispatch exec s EventType.misc MiscEvent.roomEnd = some u →
      let left := u.leaveRoom index room
      let filling := Plan.fillRoom s.game room left
      left.instances.toList = u.instances.toList.filter (fun i => i.persistent && i.live) ∧
      (∀ x ∈ filling.trace exec s, left.instances.ids <+: x.1.instances.ids) ∧
      (∀ v, filling.run exec s = some v → left.instances.ids <+: v.instances.ids) ∧
      (Int32.maxValue ∉ u.instances.ids →
        filling.OwnChanges exec s (Untouched left.instances.ids) id left ∧
        (∀ x ∈ filling.trace exec s, Int32.maxValue ∉ x.1.instances.ids →
          ∀ i ∈ left.instances.toList, ¬ x.2.IsCreationOf i.id ∧
            ∃ j, x.1.instance? i.id = some j ∧ i.Continues j) ∧
        ∀ v, filling.run exec s = some v → Int32.maxValue ∉ v.instances.ids →
          ∀ i ∈ left.instances.toList, ∃ j, v.instance? i.id = some j ∧ i.Continues j) := by
  intro exec
  have hexec : exec.Keeps Progresses := Machine.progresses_execute s depth
  refine ⟨fun exec => ?_, fun u hu => ?_⟩
  · rw [← Plan.run_enterRoom, Plan.enterRoom, hroom]
    simp only [Plan.run_bind, Plan.run_dispatch]
  · intro left filling
    have hown := Plan.ownChanges_fillRoom hexec s s.game room left
    obtain ⟨hmoments, hend⟩ := hown.carries hexec
    refine ⟨rfl, fun x hx => (hmoments x hx).ids, fun v hv => (hend v hv).ids, fun hmax => ?_⟩
    have hbelow : left.IdsBelow := by
      have hgrows := ((progresses_dispatch hexec s w _ _).2 u hu).grows hw.idsBelow hmax
      exact idsBelow_leaveRoom hgrows.idsBelow index room
    have hall := List.Subset.refl left.instances.ids
    refine ⟨hown.untouched hexec hbelow hall, fun x hx hmaxx i hi => ⟨?_, ?_⟩,
      fun v hv hmaxv i hi => ?_⟩
    · exact Plan.not_isCreationOf_of_mem_fillRoom hexec hbelow hx hmaxx (List.mem_map_of_mem hi)
    · exact (hmoments x hx).continues hbelow hall hmaxx i.id (List.mem_map_of_mem hi) i
        (instance?_of_mem hi)
    · exact (hend v hv).continues hbelow hall hmaxv i.id (List.mem_map_of_mem hi) i
        (instance?_of_mem hi)

/-- One placement of the room has the id of the persistent instance, one runs code that creates an
instance, and one has no id. The code of the room creates an instance too. -/
def lodging : Room where
  placements := [placementOf 2 100001 (-1), placementOf 0 7 0, placementOf 2 (-1) (-1)]
  creationCode := 0

def lodger : World :=
  let start : World := .ofSetup (spawningSetup #[lodging]) 0 default
  let guest := (start.create (spawningSetup #[lodging]).game 0 0 0 none).2
  (guest.create (spawningSetup #[lodging]).game 1 0 0 none).2

theorem played_lodger : Played (spawningSetup #[lodging]) lodger :=
  ((Played.start 0 default).create 0 (by decide)).create 1 (by decide)

/-- The persistent instance has its id, and the placement with this id is passed over; the other two
placements, the code that one of them runs and the code of the room make an instance each. -/
theorem enterRoom_keeps_carried_lodger :
    let s := spawningSetup #[lodging]
    let exec := Machine.execute s 2
    let filling (u : World) := Plan.fillRoom s.game lodging (u.leaveRoom 0 lodging)
    ∃ u v, lodger.dispatch exec s EventType.misc MiscEvent.roomEnd = some u ∧
      (filling u).run exec s = some v ∧ lodger.instances.ids = [100000, 100001] ∧
      (u.leaveRoom 0 lodging).instances.ids = [100001] ∧
      v.instances.ids = [100001, 7, 100002, 100003, 100004] ∧
      (∀ i ∈ (u.leaveRoom 0 lodging).instances.toList,
        ∃ j, v.instance? i.id = some j ∧ i.Continues j) ∧
      ∀ x ∈ (filling u).trace exec s,
        ∀ i ∈ (u.leaveRoom 0 lodging).instances.toList, ¬ x.2.IsCreationOf i.id := by
  intro s exec filling
  have hsome : ((lodger.dispatch exec s EventType.misc MiscEvent.roomEnd).bind fun u =>
      (filling u).run exec s).isSome := by
    decide +kernel
  obtain ⟨v, hv⟩ := Option.isSome_iff_exists.mp hsome
  obtain ⟨u, hu, hv⟩ := Option.bind_eq_some_iff.mp hv
  have hids : ∀ u ∈ lodger.dispatch exec s EventType.misc MiscEvent.roomEnd,
      Int32.maxValue ∉ u.instances.ids ∧ (u.leaveRoom 0 lodging).instances.ids = [100001] ∧
        (∀ x ∈ (filling u).trace exec s, Int32.maxValue ∉ x.1.instances.ids) ∧
        ∀ v ∈ (filling u).run exec s, v.instances.ids = [100001, 7, 100002, 100003, 100004] := by
    decide +kernel
  obtain ⟨hmax, hleft, hmoments, hend⟩ := hids u hu
  have hroom : s.game.room? 0 = some lodging := rfl
  obtain ⟨-, hkeeps⟩ := enterRoom_keeps_carried played_lodger hroom 2
  obtain ⟨-, -, -, hkeeps⟩ := hkeeps u hu
  obtain ⟨-, htold, hstays⟩ := hkeeps hmax
  refine ⟨u, v, hu, hv, by decide, hleft, hend v hv, hstays v hv ?_, fun x hx i hi => ?_⟩
  · rw [hend v hv]
    decide
  · exact (htold x hx (hmoments x hx) i hi).1

end World

end GameRunner

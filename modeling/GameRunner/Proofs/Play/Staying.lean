import GameRunner.Proofs.Event.Dispatch
import GameRunner.Proofs.Machine.Faults

/-!
# Staying in a room

By itself the engine asks for no room, and apart from the moment at which a room is left for another
one it does not change the current room either. Code never does. So during each pass of a frame, while
a room is filled and while it is drawn, the current room is the same all the time. Except where it
fills a room the engine does not bring any instance to life either.
-/

namespace GameRunner

namespace World

variable {w v u : World}

/-- A change that leaves the current room and the one that is to be entered alone. -/
structure Stays (w v : World) : Prop where
  room : v.room = w.room
  pendingRoom : v.pendingRoom = w.pendingRoom

/-- A change that brings no instance to life. -/
def Fades (w v : World) : Prop := ∀ id, v.isLive id = true → w.isLive id = true

/-- A change that brings no instance to life and makes none, and by which none changes places. -/
structure Wanes (w v : World) : Prop where
  fades : w.Fades v
  ids : v.instances.ids.Sublist w.instances.ids

/-- A change that stays in the room, asks for none, and brings no instance to life and makes none. -/
structure Drifts (w v : World) : Prop extends w.Stays v, w.Wanes v

namespace Stays

theorem refl (w : World) : w.Stays w := ⟨rfl, rfl⟩

theorem trans (h : w.Stays v) (h' : v.Stays u) : w.Stays u :=
  ⟨h'.room.trans h.room, h'.pendingRoom.trans h.pendingRoom⟩

theorem log (w : World) (severity : Severity) (line : Unit → String) :
    w.Stays (w.log severity line) := by
  obtain ⟨lines, hlog⟩ := OnlyReports.log w severity line
  rw [hlog]
  exact ⟨rfl, rfl⟩

end Stays

namespace Fades

theorem refl (w : World) : w.Fades w := fun _ h => h

theorem trans (h : w.Fades v) (h' : v.Fades u) : w.Fades u := fun id hu => h id (h' id hu)

theorem of_instances (h : v.instances = w.instances) : w.Fades v := by
  intro id hlive
  unfold isLive at hlive ⊢
  rwa [h] at hlive

theorem of_continues (h : List.Forall₂ Instance.Continues w.instances.toList v.instances.toList) :
    w.Fades v := by
  intro id hlive
  obtain ⟨j, hj, hjlive⟩ := exists_of_isLive hlive
  obtain ⟨i, hi, hij⟩ := exists_find?_of_forall₂ (fun _ _ hij => hij.id.symm) h.flip hj
  rw [isLive_eq hi]
  cases hdestroyed : i.destroyed with
  | true => simp [Instance.live, hij.destroyed hdestroyed] at hjlive
  | false => simp [Instance.live, hdestroyed]

theorem filter {keep : Instance → Bool} (h : v.instances = w.instances.filter keep) : w.Fades v := by
  intro id hlive
  obtain ⟨i, hi, hilive⟩ := exists_of_isLive hlive
  have hid : i.id = id := Roster.id_of_get? hi
  have hmem : i ∈ v.instances.toList := List.mem_of_find?_eq_some hi
  rw [h] at hmem
  rw [← hid, isLive_eq (instance?_of_mem (List.mem_of_mem_filter hmem))]
  exact hilive

end Fades

namespace Wanes

theorem refl (w : World) : w.Wanes w := ⟨.refl w, .refl _⟩

theorem trans (h : w.Wanes v) (h' : v.Wanes u) : w.Wanes u :=
  ⟨h.fades.trans h'.fades, h'.ids.trans h.ids⟩

theorem of_instances (h : v.instances = w.instances) : w.Wanes v :=
  ⟨.of_instances h, h ▸ .refl _⟩

theorem of_continues (h : List.Forall₂ Instance.Continues w.instances.toList v.instances.toList) :
    w.Wanes v := by
  refine ⟨.of_continues h, ?_⟩
  rw [Roster.ids, Instance.ids_eq_of_forall₂_continues h]
  exact .refl _

theorem filter {keep : Instance → Bool} (h : v.instances = w.instances.filter keep) : w.Wanes v :=
  ⟨.filter h, h ▸ List.filter_sublist.map _⟩

end Wanes

namespace Drifts

theorem refl (w : World) : w.Drifts w := ⟨.refl w, .refl w⟩

theorem trans (h : w.Drifts v) (h' : v.Drifts u) : w.Drifts u :=
  ⟨h.toStays.trans h'.toStays, h.toWanes.trans h'.toWanes⟩

theorem still (hroom : v.room = w.room) (hpending : v.pendingRoom = w.pendingRoom)
    (hi : v.instances = w.instances) : w.Drifts v :=
  ⟨⟨hroom, hpending⟩, .of_instances hi⟩

theorem log (w : World) (severity : Severity) (line : Unit → String) :
    w.Drifts (w.log severity line) := by
  obtain ⟨lines, hlog⟩ := OnlyReports.log w severity line
  rw [hlog]
  exact .still rfl rfl rfl

theorem modify {id : Int32} {i : Instance} {f : Instance → Instance} (hi : w.instance? id = some i)
    (hobject : (f i).objectIndex = i.objectIndex)
    (hdestroyed : i.destroyed = true → (f i).destroyed = true) : w.Drifts (w.modify id f) :=
  ⟨⟨rfl, rfl⟩, .of_continues (continues_modify hi hobject hdestroyed)⟩

theorem mapLive (w : World) {f : Instance → Instance} (hf : ∀ i : Instance, i.Moved (f i)) :
    w.Drifts (w.mapLive f) :=
  ⟨⟨rfl, rfl⟩, .of_continues (continues_mapLive w hf)⟩

end Drifts

theorem drifts_beginFrame (w : World) : w.Drifts w.beginFrame := by
  unfold beginFrame
  dsimp only
  split <;> exact .still rfl rfl rfl

end World

/-! ### What the engine does by itself -/

namespace Plan

variable {exec : Exec} {s : Setup}

/-- By itself the engine stays in the room and asks for none. -/
abbrev Remains (exec : Exec) (s : Setup) (w : World) (plan : Plan World) : Prop :=
  plan.OwnChanges exec s World.Stays id w

/-- By itself the engine stays in the room, asks for none and brings no instance to life. -/
abbrev Drifts (exec : Exec) (s : Setup) (w : World) (plan : Plan World) : Prop :=
  plan.OwnChanges exec s World.Drifts id w

theorem Remains.bind {w : World} {plan : Plan World} {k : World → Plan World}
    (h : plan.Remains exec s w) (hk : ∀ v, (k v).Remains exec s v) :
    (plan >>= k).Remains exec s w :=
  OwnChanges.bind (fun _ _ _ => .trans) h fun v _ => hk v

theorem Drifts.remains {w : World} {plan : Plan World} (h : plan.Drifts exec s w) :
    plan.Remains exec s w :=
  h.mono fun _ _ => World.Drifts.toStays

theorem Drifts.bind {w : World} {plan : Plan World} {k : World → Plan World}
    (h : plan.Drifts exec s w) (hk : ∀ v, (k v).Drifts exec s v) :
    (plan >>= k).Drifts exec s w :=
  OwnChanges.bind (fun _ _ _ => .trans) h fun v _ => hk v

theorem Drifts.pure {w v : World} (h : w.Drifts v) : (pure v : Plan World).Drifts exec s w := h

theorem Drifts.after {w v : World} {plan : Plan World} (h : plan.Drifts exec s v)
    (hwv : w.Drifts v) : plan.Drifts exec s w :=
  .before (fun _ _ _ => .trans) hwv h

theorem drifts_fire (w : World) (id : Int32) (type : Nat) (subtype : Int32)
    (other : Option Int32) : (fire w id type subtype other).Drifts exec s w :=
  ownChanges_fire .refl w id type subtype other

theorem drifts_foldlM {γ : Type} {visit : World → γ → Plan World}
    (h : ∀ w c, (visit w c).Drifts exec s w) (l : List γ) (w : World) :
    (l.foldlM visit w).Drifts exec s w :=
  .foldlM .refl (fun _ _ _ => .trans) h l w

theorem drifts_dispatch (w : World) (type : Nat) (subtype : Int32) :
    (dispatch w type subtype).Drifts exec s w :=
  ownChanges_dispatch .refl (fun _ _ _ => .trans) w type subtype

theorem drifts_runAlarms (w : World) : (runAlarms w).Drifts exec s w := by
  refine drifts_foldlM (fun w id => ?_) _ w
  unfold tickAlarms
  split_ifs
  · refine drifts_foldlM (fun w slot => ?_) _ w
    unfold tickAlarm
    split
    · exact .pure (.refl w)
    · next i hi =>
      split_ifs
      · exact .pure (.refl w)
      · split
        · exact .pure (.refl w)
        · next ticked expired htick =>
          obtain ⟨hobject, hdestroyed⟩ := Instance.retains_tickAlarm? htick
          have hticked : w.Drifts (w.modify id fun _ => ticked) :=
            .modify hi hobject hdestroyed.trans
          dsimp only
          split_ifs
          · exact ((drifts_fire _ id _ _ none).after (.log _ _ _)).after hticked
          · exact .pure hticked
  · exact .pure (.refl w)

theorem drifts_runKeys (w : World) : (runKeys w).Drifts exec s w :=
  ownChanges_runKeys .refl (fun _ _ _ => .trans) w

theorem drifts_runCollisions (g : Game) (w : World) : (runCollisions g w).Drifts exec s w :=
  ownChanges_runCollisions g .refl (fun _ _ _ => .trans) w

theorem drifts_runOutside (g : Game) (w : World) : (runOutside g w).Drifts exec s w := by
  refine ownChanges_runOutside g .refl (fun _ _ _ => .trans) ?_ w
  intro w id i outside hi
  exact .modify hi rfl fun h => h

theorem drifts_runAnimation (g : Game) (w : World) : (runAnimation g w).Drifts exec s w := by
  refine ownChanges_runAnimation g .refl (fun _ _ _ => .trans) ?_ w
  intro w id i pictures hi
  exact .modify hi (i.moved_animate pictures).objectIndex (i.moved_animate pictures).destroyed.trans

theorem drifts_playOn (g : Game) (w : World) : (playOn g w).Drifts exec s w := by
  have hmoved (w : World) :
      w.Drifts ((w.mapLive (Instance.followPath g)).mapLive Instance.applyMotion) :=
    (World.Drifts.mapLive w (Instance.moved_followPath g)).trans
      (.mapLive _ Instance.moved_applyMotion)
  refine .bind ((drifts_dispatch _ _ _).after (.mapLive w Instance.moved_rememberPlace))
    fun w => ?_
  refine .bind (drifts_runAlarms w) fun w => ?_
  refine .bind (drifts_runKeys w) fun w => ?_
  refine .bind (drifts_dispatch w _ _) fun w => ?_
  refine .bind (drifts_runCollisions g w) fun w => ?_
  refine .bind (drifts_dispatch w _ _) fun w => ?_
  refine .bind ((drifts_runOutside g _).after (hmoved w)) fun w => ?_
  exact .bind (drifts_runAnimation g w) fun w => .pure ⟨⟨rfl, rfl⟩, .filter rfl⟩

theorem drifts_startRoom (placed : List Int32) (w : World) :
    (startRoom placed w).Drifts exec s w :=
  ownChanges_startRoom .refl (fun _ _ _ => .trans) (fun _ => .still rfl rfl rfl) placed w

theorem remains_runCreationCode (g : Game) (room : Room) (w : World) :
    (runCreationCode g room w).Remains exec s w := by
  unfold runCreationCode
  split_ifs
  · split
    · exact ⟨.refl w, fun v _ => .refl v⟩
    · exact ⟨⟨rfl, rfl⟩, fun v _ => ⟨rfl, rfl⟩⟩
  · exact World.Stays.refl w

theorem remains_fillRoom (g : Game) (room : Room) (w : World) :
    (fillRoom g room w).Remains exec s w := by
  have htrans : ∀ w v u : World, w.Stays v → v.Stays u → w.Stays u := fun _ _ _ => .trans
  have hplacing (carried : List Int32) (v : World) : (placeAll g carried room.placements
      v).OwnChanges exec s World.Stays Prod.snd v :=
    ownChanges_placeAll .refl htrans .log (fun _ _ _ => ⟨rfl, rfl⟩) room.placements v
  refine .before htrans (.log w .info _) (.bind htrans (hplacing _ _) fun r _ => ?_)
  exact (remains_runCreationCode g room r.2).bind fun w => (drifts_startRoom r.1 w).remains

theorem drifts_draw (g : Game) (w : World) : (draw g w).Drifts exec s w := by
  refine ownChanges_draw g (fun _ _ _ => .trans) ?_ w
  intro w v hinstances hroom hpending
  exact .still hroom hpending hinstances

/-- In all moments of a plan, before and after each start and at the end, a room is the current one. -/
def StaysIn (exec : Exec) (s : Setup) (index : Int32) (plan : Plan World) : Prop :=
  (∀ x ∈ plan.trace exec s,
    x.1.room = index ∧ ∀ v, x.2.run exec s x.1 = some v → v.room = index) ∧
  ∀ v, plan.run exec s = some v → v.room = index

theorem Remains.staysIn (hexec : exec.Keeps World.Progresses) {w : World} {plan : Plan World}
    (h : plan.Remains exec s w) : plan.StaysIn exec s w.room := by
  have hcode : ∀ (t : Start) (u v : World), t.run exec s u = some v → v.room = u.room :=
    fun t u v ht => (progresses_of_start hexec t ht).course.room
  obtain ⟨hmoments, hend⟩ := (h.mono fun _ _ => World.Stays.room).moments
    (fun _ _ _ hwv hvu => hvu.trans hwv) hcode
  exact ⟨fun x hx => ⟨hmoments x hx, fun v hv => (hcode _ _ _ hv).trans (hmoments x hx)⟩, hend⟩

end Plan

end GameRunner

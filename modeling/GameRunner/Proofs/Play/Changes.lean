import GameRunner.Play.Engine
import GameRunner.Proofs.World.Growth

/-!
# What happens while a game is played

Between two pieces of code the engine moves instances, drops those that are destroyed or left behind
in a room, and fills the placements of a room. Together with the effects of code these are all the
changes that there are. None of them touches the context.
-/

namespace GameRunner

namespace Game

/-- The placements of all rooms. -/
def placements (g : Game) : List Placement := g.rooms.toList.flatMap (·.placements)

theorem sublist_placements {g : Game} {index : Int32} {room : Room}
    (h : g.room? index = some room) : room.placements.Sublist g.placements := by
  unfold room? tableAt? at h
  split_ifs at h
  have hroom : room ∈ g.rooms.toList := by
    rw [← Array.getElem?_toList] at h
    exact List.mem_of_getElem? h
  obtain ⟨before, after, hrooms⟩ := List.append_of_mem hroom
  unfold placements
  rw [hrooms, List.flatMap_append, List.flatMap_cons]
  exact (List.sublist_append_left _ _).trans (List.sublist_append_right _ _)

end Game

namespace Instance

/-- A move of an instance. It has nothing to do with its object, its alarms and its end. -/
structure Moved (i j : Instance) : Prop where
  objectIndex : j.objectIndex = i.objectIndex
  destroyed : j.destroyed = i.destroyed
  alarms : j.alarms = i.alarms

theorem Moved.refl (i : Instance) : i.Moved i := ⟨rfl, rfl, rfl⟩

theorem Moved.trans {i j k : Instance} (h : i.Moved j) (h' : j.Moved k) : i.Moved k :=
  ⟨h'.objectIndex.trans h.objectIndex, h'.destroyed.trans h.destroyed, h'.alarms.trans h.alarms⟩

theorem moved_rememberPlace (i : Instance) : i.Moved i.rememberPlace := ⟨rfl, rfl, rfl⟩

theorem moved_placeOnPath (i : Instance) (p : Path) (position : Float) :
    i.Moved (i.placeOnPath p position) := by
  unfold placeOnPath
  split <;> exact ⟨rfl, rfl, rfl⟩

theorem moved_followPath (g : Game) (i : Instance) : i.Moved (i.followPath g) := by
  unfold followPath
  split
  · next p _ =>
    unfold advancePath
    dsimp only
    split_ifs
    · exact .refl i
    · split
      · next position speed _ =>
        have hmoving : i.Moved { i with pathPosition := position, pathSpeed := speed } :=
          ⟨rfl, rfl, rfl⟩
        exact hmoving.trans (moved_placeOnPath _ p position)
      · exact (moved_placeOnPath i p _).trans ⟨rfl, rfl, rfl⟩
  · exact .refl i

theorem moved_applyMotion (i : Instance) : i.Moved i.applyMotion := by
  have hgravity : i.Moved i.applyGravity := by
    unfold applyGravity
    split_ifs <;> exact ⟨rfl, rfl, rfl⟩
  have hfriction : i.applyGravity.Moved i.applyGravity.applyFriction := by
    unfold applyFriction
    dsimp only
    split_ifs <;> exact ⟨rfl, rfl, rfl⟩
  exact (hgravity.trans hfriction).trans ⟨rfl, rfl, rfl⟩

theorem moved_animate (pictures : Nat) (i : Instance) : i.Moved (i.animate pictures).1 := by
  unfold animate
  dsimp only
  split_ifs <;> exact ⟨rfl, rfl, rfl⟩

end Instance

namespace World

/-- An instance that is changed has to stay the same one only as it is. -/
theorem continues_modify {w : World} {id : Int32} {i : Instance} {f : Instance → Instance}
    (hi : w.instance? id = some i) (hobject : (f i).objectIndex = i.objectIndex)
    (hdestroyed : i.destroyed = true → (f i).destroyed = true) :
    List.Forall₂ Instance.Continues w.instances.toList (w.modify id f).instances.toList := by
  have hi : w.instances.toList.find? (fun i => i.id = id) = some i := hi
  change List.Forall₂ _ _ (Roster.modifyList id f w.instances.toList)
  generalize w.instances.toList = l at hi
  induction l with
  | nil => exact .nil
  | cons j rest ih =>
    unfold Roster.modifyList
    split_ifs with hj
    · obtain rfl : j = i := by simpa [hj] using hi
      exact .cons ⟨hj.symm, hobject, hdestroyed⟩ (Instance.forall₂_continues_refl rest)
    · exact .cons (.refl j) (ih (by simpa [hj] using hi))

theorem continues_mapLive (w : World) {f : Instance → Instance} (hf : ∀ i : Instance, i.Moved (f i)) :
    List.Forall₂ Instance.Continues w.instances.toList (w.mapLive f).instances.toList := by
  change List.Forall₂ _ _ (w.instances.toList.map _)
  rw [List.forall₂_map_right_iff, List.forall₂_same]
  intro i _
  dsimp only
  split_ifs
  · exact ⟨rfl, (hf i).objectIndex, (hf i).destroyed.trans⟩
  · exact .refl i

end World

/-- What can happen to the world at a time while a game is played. -/
inductive Change (g : Game) : World → World → Prop
  | code {w v : World} : Effect g w v → Change g w v
  /-- Instances change but stay the same ones. -/
  | alter {w v : World} : List.Forall₂ Instance.Continues w.instances.toList v.instances.toList →
    v.nextId = w.nextId → v.context = w.context → Change g w v
  | drop {w v : World} (keep : Instance → Bool) : v.instances = w.instances.filter keep →
    v.nextId = w.nextId → v.context = w.context → Change g w v
  | place {w : World} {p : Placement} : p ∈ g.placements → Change g w (w.place g p).2

/-- What can happen within a frame. -/
abbrev Happening (g : Game) : World → World → Prop := Abiding (Change g)

namespace Change

variable {g : Game} {w v : World}

theorem context_eq (h : Change g w v) : v.context = w.context := by
  cases h with
  | code h => exact h.context_eq
  | alter _ _ h => exact h
  | drop _ _ _ h => exact h
  | place _ => rfl

/-- A change that concerns no instance. -/
theorem still (hi : v.instances = w.instances) (hn : v.nextId = w.nextId)
    (hc : v.context = w.context) : Change g w v := by
  refine .alter ?_ hn hc
  rw [hi]
  exact Instance.forall₂_continues_refl _

theorem quiet (h : Quiet w v) : Change g w v := .code (.quiet h)

/-- A change of one instance, which has to stay the same one only as it is. -/
theorem modify {id : Int32} {i : Instance} {f : Instance → Instance} (hi : w.instance? id = some i)
    (hobject : (f i).objectIndex = i.objectIndex)
    (hdestroyed : i.destroyed = true → (f i).destroyed = true) : Change g w (w.modify id f) :=
  .alter (World.continues_modify hi hobject hdestroyed) rfl rfl

theorem mapLive {f : Instance → Instance} (hf : ∀ i : Instance, i.Moved (f i)) :
    Change g w (w.mapLive f) :=
  .alter (World.continues_mapLive w hf) rfl rfl

end Change

namespace Instance

theorem retains_tickAlarm? {i j : Instance} {slot : Fin alarmCount} {expired : Bool}
    (h : i.tickAlarm? slot = some (j, expired)) :
    j.objectIndex = i.objectIndex ∧ j.destroyed = i.destroyed := by
  unfold tickAlarm? at h
  dsimp only at h
  split_ifs at h <;> cases h <;> exact ⟨rfl, rfl⟩

end Instance

end GameRunner

import GameRunner.Proofs.World.Effects

/-!
# How the roster grows

While code runs, instances stay where they are: none is removed, moved or brought back, and new ones
are put behind the old ones under ids that have not been used. The course of the game, the room and
what is recorded or played back is not touched. All of this holds of every effect of code and
carries over from one effect to the next.
-/

namespace GameRunner

/-- An instance at a later time: it is the same one, and once destroyed it stays so. -/
structure Instance.Continues (i j : Instance) : Prop where
  id : j.id = i.id
  objectIndex : j.objectIndex = i.objectIndex
  destroyed : i.destroyed = true → j.destroyed = true

namespace Instance

theorem Continues.refl (i : Instance) : i.Continues i := ⟨rfl, rfl, fun h => h⟩

theorem Continues.trans {i j k : Instance} (h : i.Continues j) (h' : j.Continues k) :
    i.Continues k :=
  ⟨h'.id.trans h.id, h'.objectIndex.trans h.objectIndex, fun hi => h'.destroyed (h.destroyed hi)⟩

theorem forall₂_continues_refl (l : List Instance) : List.Forall₂ Continues l l :=
  List.forall₂_same.mpr fun i _ => .refl i

theorem forall₂_continues_trans {l l' l'' : List Instance} (h : List.Forall₂ Continues l l')
    (h' : List.Forall₂ Continues l' l'') : List.Forall₂ Continues l l'' := by
  induction h generalizing l'' with
  | nil => exact h'
  | cons hij _ ih =>
    cases h' with
    | cons hjk hrest => exact .cons (hij.trans hjk) (ih hrest)

theorem ids_eq_of_forall₂_continues {l l' : List Instance} (h : List.Forall₂ Continues l l') :
    l'.map (·.id) = l.map (·.id) := by
  induction h with
  | nil => rfl
  | cons hij _ ih => rw [List.map_cons, List.map_cons, hij.id, ih]

end Instance

namespace Roster

theorem insertList_of_not_mem {i : Instance} {l : List Instance} (h : i.id ∉ l.map (·.id)) :
    insertList i l = l ++ [i] := by
  induction l with
  | nil => rfl
  | cons j rest ih =>
    simp only [List.map_cons, List.mem_cons, not_or] at h
    rw [insertList, if_neg (Ne.symm h.1), ih h.2, List.cons_append]

/-- Whatever is added, the ids that were there stay where they are. -/
theorem ids_isPrefix_insert (r : Roster) (i : Instance) : r.ids <+: (r.insert i).ids := by
  change r.toList.map (·.id) <+: (insertList i r.toList).map (·.id)
  induction r.toList with
  | nil => exact List.nil_prefix
  | cons j rest ih =>
    unfold insertList
    split_ifs with hj
    · simp [hj]
    · rw [List.map_cons, List.map_cons, List.prefix_cons_inj]
      exact ih

theorem forall₂_modifyList (id : Int32) {f : Instance → Instance} (hf : Instance.Retains f)
    (l : List Instance) : List.Forall₂ Instance.Continues l (modifyList id f l) := by
  induction l with
  | nil => exact .nil
  | cons j rest ih =>
    unfold modifyList
    split_ifs with hj
    · exact .cons ⟨hj.symm, hf.objectIndex j, hf.destroyed j⟩
        (Instance.forall₂_continues_refl rest)
    · exact .cons (.refl j) ih

end Roster

namespace World

/-- The next free id is above all ids in use. -/
def IdsBelow (w : World) : Prop := ∀ id ∈ w.instances.ids, id < w.nextId

instance (w : World) : Decidable w.IdsBelow :=
  List.decidableBAll _ w.instances.ids

/-- A later roster: every instance is still in its place, and those that have come stand behind
them, under ids that were free. -/
structure Grows (w v : World) : Prop where
  roster : ∃ kept added, v.instances.toList = kept ++ added ∧
    List.Forall₂ Instance.Continues w.instances.toList kept ∧ ∀ i ∈ added, w.nextId ≤ i.id
  nextId : w.nextId ≤ v.nextId
  idsBelow : v.IdsBelow

/-- The room, the course of the game and what is recorded or played back are the same. -/
structure SameCourse (w v : World) : Prop where
  room : v.room = w.room
  viewCount : v.views.length = w.views.length
  frame : v.frame = w.frame
  started : v.started = w.started
  recording : v.recording = w.recording
  playback : v.playback = w.playback

theorem SameCourse.trans {w v u : World} (h : w.SameCourse v) (h' : v.SameCourse u) :
    w.SameCourse u where
  room := h'.room.trans h.room
  viewCount := h'.viewCount.trans h.viewCount
  frame := h'.frame.trans h.frame
  started := h'.started.trans h.started
  recording := h'.recording.trans h.recording
  playback := h'.playback.trans h.playback

theorem Grows.of_forall₂ {w v : World} (hw : w.IdsBelow)
    (h : List.Forall₂ Instance.Continues w.instances.toList v.instances.toList)
    (hn : v.nextId = w.nextId) : w.Grows v := by
  refine ⟨⟨v.instances.toList, [], by simp, h, by simp⟩, Int32.le_of_eq hn.symm, ?_⟩
  intro id hid
  rw [Roster.ids, Instance.ids_eq_of_forall₂_continues h] at hid
  rw [hn]
  exact hw id hid

theorem Grows.trans {w v u : World} (h : w.Grows v) (h' : v.Grows u) : w.Grows u := by
  obtain ⟨kept, added, hv, hkept, hadded⟩ := h.roster
  obtain ⟨kept', added', hu, hkept', hadded'⟩ := h'.roster
  rw [hv] at hkept'
  have hold := List.forall₂_take kept.length hkept'
  have hnew := List.forall₂_drop kept.length hkept'
  rw [List.take_left] at hold
  rw [List.drop_left] at hnew
  refine ⟨⟨kept'.take kept.length, kept'.drop kept.length ++ added', ?_,
    Instance.forall₂_continues_trans hkept hold, ?_⟩, Int32.le_trans h.nextId h'.nextId,
    h'.idsBelow⟩
  · rw [hu, ← List.append_assoc, List.take_append_drop]
  · intro j hj
    rcases List.mem_append.mp hj with hj | hj
    · have hid : j.id ∈ (kept'.drop kept.length).map (·.id) := List.mem_map_of_mem hj
      rw [Instance.ids_eq_of_forall₂_continues hnew] at hid
      obtain ⟨i, hi, hij⟩ := List.mem_map.mp hid
      rw [← hij]
      exact hadded i hi
    · exact Int32.le_trans h.nextId (hadded' j hj)

/-- What holds of every stretch of a run of code. The instances grow in number as long as the last
id of all is not given away. -/
structure Progresses (w v : World) : Prop where
  ids : w.instances.ids <+: v.instances.ids
  course : w.SameCourse v
  grows : w.IdsBelow → Int32.maxValue ∉ v.instances.ids → w.Grows v

theorem Progresses.trans {w v u : World} (h : w.Progresses v) (h' : v.Progresses u) :
    w.Progresses u where
  ids := h.ids.trans h'.ids
  course := h.course.trans h'.course
  grows hw hu := by
    have hv : Int32.maxValue ∉ v.instances.ids := fun hv => hu (h'.ids.subset hv)
    have hwv := h.grows hw hv
    exact hwv.trans (h'.grows hwv.idsBelow hu)

theorem Progresses.of_eq {w v : World} (hi : v.instances = w.instances) (hn : v.nextId = w.nextId)
    (hc : w.SameCourse v) : w.Progresses v where
  ids := by rw [hi]
  course := hc
  grows hw _ := by
    apply Grows.of_forall₂ hw _ hn
    rw [hi]
    exact Instance.forall₂_continues_refl _

theorem progresses_withContext (w : World) (c : Context) : w.Progresses (w.withContext c) :=
  .of_eq rfl rfl ⟨rfl, rfl, rfl, rfl, rfl, rfl⟩

theorem progresses_modify (w : World) (id : Int32) {f : Instance → Instance}
    (hf : Instance.Retains f) : w.Progresses (w.modify id f) where
  ids := by
    rw [World.modify, Roster.ids_modify]
  course := ⟨rfl, rfl, rfl, rfl, rfl, rfl⟩
  grows hw _ := .of_forall₂ hw (Roster.forall₂_modifyList id hf _) rfl

theorem id_dress (g : Game) (i : Instance) : (dress g i).id = i.id := by
  unfold dress
  split <;> rfl

theorem lt_add_one_of_ne_maxValue {a : Int32} (h : a ≠ Int32.maxValue) : a < a + 1 := by
  have hmax : a.toInt ≠ 2 ^ 31 - 1 := fun he => h (Int32.toInt_inj.mp he)
  have hlow := a.le_toInt
  have hhigh := a.toInt_lt
  have hone : Int32.toInt 1 = 1 := rfl
  rw [Int32.lt_iff_toInt_lt, Int32.toInt_add, hone, Int.bmod_eq_of_le]
  · omega
  · omega
  · omega

/-- A new instance stands behind all others. -/
theorem progresses_create (g : Game) (w : World) (object : Int32) (x y : Float) :
    w.Progresses (w.create g object x y none).2 := by
  have hid : (dress g (.create w.nextId object x y)).id = w.nextId := id_dress g _
  refine ⟨Roster.ids_isPrefix_insert _ _, ⟨rfl, rfl, rfl, rfl, rfl, rfl⟩, fun hw hmax => ?_⟩
  have hfresh : (dress g (.create w.nextId object x y)).id ∉ w.instances.toList.map (·.id) := by
    rw [hid]
    exact fun hmem => Int32.lt_irrefl (hw _ hmem)
  have hlist : (w.create g object x y none).2.instances.toList =
      w.instances.toList ++ [dress g (.create w.nextId object x y)] :=
    Roster.insertList_of_not_mem hfresh
  have hids : (w.create g object x y none).2.instances.ids = w.instances.ids ++ [w.nextId] := by
    rw [Roster.ids, hlist, List.map_append, List.map_singleton, hid]
    rfl
  have hnext : (w.create g object x y none).2.nextId = w.nextId + 1 :=
    if_pos (Int32.le_refl w.nextId)
  -- The new id is not the last one of all, so the next one is above it.
  have hlt : w.nextId < w.nextId + 1 := by
    apply lt_add_one_of_ne_maxValue
    rintro he
    rw [hids, ← he] at hmax
    exact hmax (by simp)
  refine ⟨⟨w.instances.toList, _, hlist, Instance.forall₂_continues_refl _, ?_⟩, ?_, ?_⟩
  · intro i hi
    rw [List.mem_singleton.mp hi, hid]
    exact Int32.le_refl _
  · rw [hnext]
    exact Int32.le_of_lt hlt
  · intro id hmem
    rw [hids, List.mem_append, List.mem_singleton] at hmem
    rw [hnext]
    rcases hmem with hmem | rfl
    · exact Int32.lt_trans (hw id hmem) hlt
    · exact hlt

end World

/-- Every effect of code makes the roster grow and leaves the course of the game alone. -/
theorem Effect.progresses {g : Game} {w v : World} (h : Effect g w v) : w.Progresses v := by
  cases h with
  | quiet h =>
    exact .of_eq h.instances h.nextId
      ⟨h.room, h.viewCount, h.frame, h.started, h.recording, h.playback⟩
  | modify id hf => exact World.progresses_modify w id hf
  | create object x y => exact World.progresses_create g w object x y

theorem Abiding.progresses {g : Game} {w v : World} (h : Abiding (Effect g) w v) :
    w.Progresses v := h.effect.progresses

end GameRunner

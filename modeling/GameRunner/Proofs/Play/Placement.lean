import GameRunner.Proofs.Play.Context

/-!
# Placements and instances made by code

Ids come from two sources, from the placements of rooms and from a counter. The counter stays above
every id that has been used, but a placement may ask for an id that the counter has given out before.
If it is that of a persistent instance the placement is passed over, else the instance is replaced.
In a game whose placements keep below the counter none of this happens: whatever is created comes in
addition, and a placement is passed over only for an instance of its own.
-/

namespace GameRunner

/-- The ids of placements lie below those that the counter gives out, and no two placements share
one. -/
structure Game.ReservesIds (g : Game) : Prop where
  below : ∀ p ∈ g.placements, p.instanceId < firstInstanceId
  distinct : ((g.placements.filter fun p => 0 ≤ p.instanceId).map (·.instanceId)).Nodup

instance (g : Game) : Decidable g.ReservesIds :=
  decidable_of_iff ((∀ p ∈ g.placements, p.instanceId < firstInstanceId) ∧
      ((g.placements.filter fun p => 0 ≤ p.instanceId).map (·.instanceId)).Nodup)
    ⟨fun ⟨hb, hd⟩ => ⟨hb, hd⟩, fun h => ⟨h.below, h.distinct⟩⟩

/-! ### Filling a placement -/

theorem Instance.exists_continues_of_mem {l l' : List Instance}
    (h : List.Forall₂ Continues l l') {i : Instance} (hi : i ∈ l') : ∃ j ∈ l, j.Continues i := by
  induction h with
  | nil => cases hi
  | cons hij _ ih =>
    rcases List.mem_cons.mp hi with rfl | hi
    · exact ⟨_, List.mem_cons_self, hij⟩
    · obtain ⟨j, hj, hji⟩ := ih hi
      exact ⟨j, List.mem_cons_of_mem _ hj, hji⟩

namespace Roster

theorem mem_insertList {i j : Instance} {l : List Instance} (h : j ∈ insertList i l) :
    j = i ∨ j ∈ l := by
  induction l with
  | nil => exact .inl (List.mem_singleton.mp h)
  | cons k rest ih =>
    unfold insertList at h
    split_ifs at h
    · exact (List.mem_cons.mp h).imp_right (List.mem_cons_of_mem k)
    · rcases List.mem_cons.mp h with rfl | h
      · exact .inr List.mem_cons_self
      · exact (ih h).imp_right (List.mem_cons_of_mem k)

/-- Changing an instance right after it was added adds the changed one. -/
theorem modifyList_insertList (i : Instance) (f : Instance → Instance) (l : List Instance) :
    modifyList i.id f (insertList i l) = insertList { f i with id := i.id } l := by
  induction l with
  | nil => simp [insertList, modifyList]
  | cons j rest ih =>
    unfold insertList
    split_ifs with hj
    · simp [modifyList]
    · simp [modifyList, hj, ih]

end Roster

namespace World

variable {g : Game} {w v : World} {p : Placement}

/-- There is one more instance, of an object and under an id that was free. -/
def Gains (w v : World) (id object : Int32) : Prop :=
  id ∉ w.instances.ids ∧
    ∃ i, v.instances.toList = w.instances.toList ++ [i] ∧ i.id = id ∧ i.objectIndex = object

theorem objectIndex_dress (g : Game) (i : Instance) : (dress g i).objectIndex = i.objectIndex := by
  unfold dress
  split <;> rfl

/-- The id of a placement's instance. -/
theorem place_fst (g : Game) (w : World) (p : Placement) :
    (w.place g p).1 = if 0 ≤ p.instanceId then p.instanceId else w.nextId := by
  unfold place create
  dsimp only
  split_ifs <;> rfl

theorem exists_toList_place (g : Game) (w : World) (p : Placement) :
    ∃ i, (w.place g p).2.instances.toList = Roster.insertList i w.instances.toList ∧
      i.id = (w.place g p).1 ∧ i.objectIndex = p.object := by
  let new := dress g (.create (w.place g p).1 p.object (Number.ofInt32 p.x) (Number.ofInt32 p.y))
  let scaled (i : Instance) : Instance :=
    { i with
      imageXScale := Number.widen p.scaleX
      imageYScale := Number.widen p.scaleY
      imageAngle := Number.widen p.rotation }
  have hid : new.id = (w.place g p).1 := id_dress g _
  refine ⟨{ scaled new with id := new.id }, ?_, hid, objectIndex_dress g _⟩
  rw [← Roster.modifyList_insertList new scaled, hid]
  rfl

theorem nextId_place (g : Game) (w : World) (p : Placement) :
    (w.place g p).2.nextId =
      if w.nextId ≤ (w.place g p).1 then (w.place g p).1 + 1 else w.nextId := rfl

theorem mem_ids_place {id : Int32} :
    id ∈ (w.place g p).2.instances.ids ↔ id = (w.place g p).1 ∨ id ∈ w.instances.ids := by
  obtain ⟨i, hlist, hi, -⟩ := exists_toList_place g w p
  unfold Roster.ids
  rw [hlist, Roster.mem_ids_insertList, hi]

/-- A placement under an id that is free adds an instance. -/
theorem gains_place (h : (w.place g p).1 ∉ w.instances.ids) :
    w.Gains (w.place g p).2 (w.place g p).1 p.object := by
  obtain ⟨i, hlist, hi, hobject⟩ := exists_toList_place g w p
  refine ⟨h, i, ?_, hi, hobject⟩
  rw [hlist, Roster.insertList_of_not_mem (by rw [hi]; exact h)]

theorem gains_create (h : w.nextId ∉ w.instances.ids) (object : Int32) (x y : Float) :
    w.Gains (w.create g object x y none).2 (w.create g object x y none).1 object := by
  have hid : (dress g (.create w.nextId object x y)).id = w.nextId := id_dress g _
  have hfree : (dress g (.create w.nextId object x y)).id ∉ w.instances.toList.map (·.id) := by
    rw [hid]
    exact h
  exact ⟨h, _, Roster.insertList_of_not_mem hfree, hid, objectIndex_dress g _⟩

/-- A placement without an id adds an instance under the next free one. -/
theorem progresses_place (h : ¬ 0 ≤ p.instanceId) : w.Progresses (w.place g p).2 := by
  unfold place
  rw [if_neg h]
  exact (progresses_create g w _ _ _).trans (progresses_modify _ _ ⟨fun _ => rfl, fun _ h => h⟩)

theorem Grows.mem_ids_of_lt (h : w.Grows v) {id : Int32} (hid : id ∈ v.instances.ids)
    (hlt : id < w.nextId) : id ∈ w.instances.ids := by
  obtain ⟨kept, added, hlist, hkept, hadded⟩ := h.roster
  obtain ⟨i, hi, rfl⟩ := List.mem_map.mp hid
  rw [hlist] at hi
  rcases List.mem_append.mp hi with hi | hi
  · obtain ⟨j, hj, hji⟩ := Instance.exists_continues_of_mem hkept hi
    rw [hji.id]
    exact List.mem_map_of_mem hj
  · exact absurd hlt (Int32.not_lt.mpr (hadded i hi))

/-! ### Telling instances apart -/

/-- The counter is above all ids in use, and an id below its first one is that of a placement of the
same object. -/
structure Apart (g : Game) (w : World) : Prop where
  idsBelow : w.IdsBelow
  counter : firstInstanceId ≤ w.nextId
  placed : ∀ i ∈ w.instances.toList, i.id < firstInstanceId →
    ∃ p ∈ g.placements, 0 ≤ p.instanceId ∧ p.instanceId = i.id ∧ p.object = i.objectIndex

theorem apart_ofSetup (s : Setup) (entropy : UInt64) (journal : Journal) :
    Apart s.game (.ofSetup s entropy journal) where
  idsBelow := by
    intro id hid
    cases hid
  counter := Int32.le_refl _
  placed := by
    intro i hi
    cases hi

namespace Apart

theorem nextId_not_mem (h : Apart g w) : w.nextId ∉ w.instances.ids :=
  fun hmem => Int32.lt_irrefl (h.idsBelow _ hmem)

/-- An id below the first one of the counter is the one that the placement asks for. -/
theorem place_fst_of_lt (h : Apart g w) (hlt : (w.place g p).1 < firstInstanceId) :
    (w.place g p).1 = p.instanceId := by
  rw [place_fst] at hlt ⊢
  split_ifs at hlt ⊢
  · rfl
  · exact absurd hlt (Int32.not_lt.mpr h.counter)

theorem grows (h : Apart g w) (hgrows : w.Grows v) : Apart g v := by
  obtain ⟨kept, added, hlist, hkept, hadded⟩ := hgrows.roster
  refine ⟨hgrows.idsBelow, Int32.le_trans h.counter hgrows.nextId, fun i hi hlow => ?_⟩
  rw [hlist] at hi
  rcases List.mem_append.mp hi with hi | hi
  · obtain ⟨j, hj, hji⟩ := Instance.exists_continues_of_mem hkept hi
    rw [hji.id] at hlow ⊢
    rw [hji.objectIndex]
    exact h.placed j hj hlow
  · have hhigh := Int32.le_trans h.counter (hadded i hi)
    exact absurd hlow (Int32.not_lt.mpr hhigh)

theorem congr (h : Apart g w) (hi : v.instances = w.instances) (hn : v.nextId = w.nextId) :
    Apart g v := by
  refine ⟨?_, hn ▸ h.counter, hi ▸ h.placed⟩
  unfold IdsBelow
  rw [hi, hn]
  exact h.idsBelow

theorem filter (h : Apart g w) {keep : Instance → Bool}
    (hi : v.instances = w.instances.filter keep) (hn : v.nextId = w.nextId) : Apart g v := by
  have hsub : ∀ i ∈ v.instances.toList, i ∈ w.instances.toList := by
    intro i hmem
    rw [hi] at hmem
    exact List.mem_of_mem_filter hmem
  refine ⟨?_, hn ▸ h.counter, fun i hmem => h.placed i (hsub i hmem)⟩
  intro id hid
  obtain ⟨i, hmem, rfl⟩ := List.mem_map.mp hid
  rw [hn]
  exact h.idsBelow _ (List.mem_map_of_mem (hsub i hmem))

theorem place (hg : g.ReservesIds) (h : Apart g w) (hp : p ∈ g.placements)
    (hmax : Int32.maxValue ∉ (w.place g p).2.instances.ids) : Apart g (w.place g p).2 := by
  by_cases hforced : 0 ≤ p.instanceId
  · have hid : (w.place g p).1 = p.instanceId := by rw [place_fst, if_pos hforced]
    have hlt : p.instanceId < w.nextId := Int32.lt_of_lt_of_le (hg.below p hp) h.counter
    have hnext : (w.place g p).2.nextId = w.nextId := by
      rw [nextId_place, hid, if_neg (Int32.not_le.mpr hlt)]
    refine ⟨?_, by rw [hnext]; exact h.counter, ?_⟩
    · intro id hmem
      rw [hnext]
      rcases mem_ids_place.mp hmem with rfl | hmem
      · rw [hid]
        exact hlt
      · exact h.idsBelow id hmem
    · obtain ⟨new, hlist, hnew, hobject⟩ := exists_toList_place g w p
      intro i hi hlow
      rw [hlist] at hi
      rcases Roster.mem_insertList hi with rfl | hi
      · exact ⟨p, hp, hforced, hid.symm.trans hnew.symm, hobject.symm⟩
      · exact h.placed i hi hlow
  · exact h.grows ((progresses_place hforced).grows h.idsBelow hmax)

end Apart

end World

/-- Whatever happens, instances can still be told apart, unless the last id of all is given away. -/
theorem Change.apart {g : Game} {w v : World} (hg : g.ReservesIds) (h : Change g w v)
    (hw : w.Apart g) (hmax : Int32.maxValue ∉ v.instances.ids) : v.Apart g := by
  cases h with
  | code h => exact hw.grows (h.progresses.grows hw.idsBelow hmax)
  | alter hlist hn _ => exact hw.grows (.of_forall₂ hw.idsBelow hlist hn)
  | drop keep hi hn _ => exact hw.filter hi hn
  | place hp => exact hw.place hg hp hmax

/-- What happens by and by: changes, between which the context is set. -/
abbrev Changes (g : Game) : World → World → Prop :=
  Relation.ReflTransGen fun w v => Change g w v ∨ ∃ c, v = w.withContext c

/-- Every operation comes down to changes. -/
theorem Operation.changes_run {s : Setup} {w v : World} (op : Operation) (depth : Nat)
    (h : op.run (Machine.execute s depth) s w = some v) : Changes s.game w v := by
  have hchange : ∀ w v, Change s.game w v → Changes s.game w v := fun w v hc => .single (.inl hc)
  have htrans : ∀ w v u, Changes s.game w v → Changes s.game v u → Changes s.game w u :=
    fun w v u => Relation.ReflTransGen.trans
  have hcontext : ∀ w c, Changes s.game w (w.withContext c) := fun w c => .single (.inr ⟨c, rfl⟩)
  have hexec : (Machine.execute s depth).Keeps (Changes s.game) :=
    Machine.keeps_execute (fun w v he => hchange w v (.code he.effect)) htrans hcontext depth
  exact (Operation.activity_run s w op).rel hchange htrans hcontext hexec h

/-- The worlds that a game comes to, change by change, as long as the last id of all is not given
away. -/
inductive Played (s : Setup) : World → Prop
  | start (entropy : UInt64) (journal : Journal) : Played s (.ofSetup s entropy journal)
  | change {w v : World} :
    Played s w → Change s.game w v → Int32.maxValue ∉ v.instances.ids → Played s v
  | context {w : World} (c : Context) : Played s w → Played s (w.withContext c)

theorem Played.apart {s : Setup} {w : World} (hg : s.game.ReservesIds) (h : Played s w) :
    w.Apart s.game := by
  induction h with
  | start entropy journal => exact World.apart_ofSetup s entropy journal
  | change _ hc hmax ih => exact hc.apart hg ih hmax
  | context c _ ih => exact ih.congr rfl rfl

/-! ### The placements of a room -/

namespace World

variable {g : Game} {exec : Exec} {carried : List Int32} {p : Placement} {rest : List Placement}
  {w v : World} {placed : List Int32}

/-- What comes of the first placement: it is passed over, or its instance is made and its code run. -/
theorem placeAll_cons (hexec : exec.Keeps Progresses)
    (h : placeAll exec g carried (p :: rest) w = some (placed, v)) :
    (carried.contains p.instanceId ∧ ∃ u, u.instances = w.instances ∧ u.nextId = w.nextId ∧
      placeAll exec g carried rest u = some (placed, v)) ∨
    (p.instanceId ∉ carried ∧ ∃ u ids, placed = (w.place g p).1 :: ids ∧
      (w.place g p).2.Progresses u ∧ placeAll exec g carried rest u = some (ids, v)) := by
  unfold placeAll at h
  split_ifs at h with hcarried hcode
  · have hlog := Quiet.log w .debug fun _ =>
      s!"placement {p.instanceId} already present as a persistent instance"
    exact .inl ⟨hcarried, _, hlog.instances, hlog.nextId, h⟩
  · obtain ⟨u, hu, h⟩ := Option.bind_eq_some_iff.mp h
    obtain ⟨r, hr, h⟩ := Option.bind_eq_some_iff.mp h
    cases h
    exact .inr ⟨by simpa using hcarried, u, r.1, rfl, hexec _ _ _ _ _ hu, hr⟩
  · have h : (placeAll exec g carried rest (w.place g p).2).map
        (fun r => ((w.place g p).1 :: r.1, r.2)) = some (placed, v) := Option.map_eq_bind.trans h
    obtain ⟨r, hr, h⟩ := Option.map_eq_some_iff.mp h
    cases h
    exact .inr ⟨by simpa using hcarried, _, r.1, rfl, .of_eq rfl rfl ⟨rfl, rfl, rfl, rfl, rfl, rfl⟩,
      hr⟩

theorem ids_subset_placeAll (hexec : exec.Keeps Progresses) {placements : List Placement}
    (h : placeAll exec g carried placements w = some (placed, v)) :
    w.instances.ids ⊆ v.instances.ids := by
  induction placements generalizing w placed with
  | nil =>
    cases h
    exact List.Subset.refl _
  | cons p rest ih =>
    rcases placeAll_cons hexec h with ⟨-, u, hi, -, hrest⟩ | ⟨-, u, ids, -, hcode, hrest⟩
    · rw [← hi]
      exact ih hrest
    · have hplace : w.instances.ids ⊆ (w.place g p).2.instances.ids :=
        fun id hid => mem_ids_place.mpr (.inr hid)
      exact fun id hid => ih hrest (hcode.ids.subset (hplace hid))

/-- After some placements the ids in use are those from before, those of the placements and those
from the counter. -/
theorem Apart.placeAll (hg : g.ReservesIds) (hexec : exec.Keeps Progresses)
    {placements : List Placement} (hp : placements ⊆ g.placements) (hw : w.Apart g)
    (h : World.placeAll exec g carried placements w = some (placed, v))
    (hmax : Int32.maxValue ∉ v.instances.ids) :
    v.Apart g ∧ ∀ id ∈ v.instances.ids, id < firstInstanceId →
      id ∈ w.instances.ids ∨ id ∈ placements.map (·.instanceId) := by
  induction placements generalizing w placed with
  | nil =>
    cases h
    exact ⟨hw, fun id hid _ => .inl hid⟩
  | cons p rest ih =>
    obtain ⟨hp, hrest⟩ := List.cons_subset.mp hp
    rcases placeAll_cons hexec h with ⟨-, u, hi, hn, h⟩ | ⟨-, u, ids, -, hcode, h⟩
    · obtain ⟨hv, hids⟩ := ih hrest (hw.congr hi hn) h
      refine ⟨hv, fun id hid hlow => ?_⟩
      rw [← hi]
      exact (hids id hid hlow).imp_right (List.mem_cons_of_mem _)
    · -- Nothing is dropped on the way, so the last id is free all the time.
      have hmaxu : Int32.maxValue ∉ u.instances.ids := fun hmem =>
        hmax (ids_subset_placeAll hexec h hmem)
      have hmaxp : Int32.maxValue ∉ (w.place g p).2.instances.ids := fun hmem =>
        hmaxu (hcode.ids.subset hmem)
      have hplace := hw.place hg hp hmaxp
      have hgrows := hcode.grows hplace.idsBelow hmaxu
      obtain ⟨hv, hids⟩ := ih hrest (hplace.grows hgrows) h
      refine ⟨hv, fun id hid hlow => ?_⟩
      rcases hids id hid hlow with hid | hid
      · have hid := hgrows.mem_ids_of_lt hid (Int32.lt_of_lt_of_le hlow hplace.counter)
        rcases mem_ids_place.mp hid with rfl | hid
        · rw [hw.place_fst_of_lt hlow]
          exact .inr List.mem_cons_self
        · exact .inl hid
      · exact .inr (List.mem_cons_of_mem _ hid)

/-- When its turn comes, a placement that is not passed over finds its id free. -/
theorem Apart.place_fst_not_mem (hg : g.ReservesIds) (hexec : exec.Keeps Progresses) {index : Int32}
    {room : Room} (hroom : g.room? index = some room) {before after : List Placement}
    (hsplit : room.placements = before ++ p :: after) (hw : w.Apart g)
    (h : World.placeAll exec g carried before w = some (placed, v))
    (hmax : Int32.maxValue ∉ v.instances.ids) (hfree : p.instanceId ∉ w.instances.ids) :
    (v.place g p).1 ∉ v.instances.ids := by
  have hsub : (before ++ p :: after).Sublist g.placements := hsplit ▸ Game.sublist_placements hroom
  have hbefore : before ⊆ g.placements := fun q hq => hsub.subset (List.mem_append_left _ hq)
  have hp : p ∈ g.placements := hsub.subset (by simp)
  obtain ⟨hv, hids⟩ := hw.placeAll hg hexec hbefore h hmax
  rw [place_fst]
  split_ifs with hforced
  · intro hmem
    rcases hids _ hmem (hg.below p hp) with hmem | hmem
    · exact hfree hmem
    · -- Another placement of the room would have the same id.
      obtain ⟨q, hq, hqp⟩ := List.mem_map.mp hmem
      have hdistinct := hg.distinct.sublist ((hsub.filter _).map _)
      rw [List.filter_append, List.filter_cons_of_pos (by simpa using hforced), List.map_append,
        List.map_cons, List.nodup_append] at hdistinct
      have hq' : q ∈ before.filter fun p => 0 ≤ p.instanceId :=
        List.mem_filter.mpr ⟨hq, by simpa [hqp] using hforced⟩
      exact hdistinct.2.2 _ (List.mem_map_of_mem hq') _ List.mem_cons_self hqp
  · exact hv.nextId_not_mem

/-- An instance that is carried over under the id of a placement is of the same object. -/
theorem Apart.exists_carried (hg : g.ReservesIds) (hw : w.Apart g) (hp : p ∈ g.placements)
    (hmem : p.instanceId ∈ w.instances.ids) :
    ∃ i ∈ w.instances.toList, i.id = p.instanceId ∧ i.objectIndex = p.object := by
  obtain ⟨i, hi, hid⟩ := List.mem_map.mp hmem
  obtain ⟨q, hq, hforced, hqi, hobject⟩ := hw.placed i hi (hid ▸ hg.below p hp)
  have hqp : q.instanceId = p.instanceId := hqi.trans hid
  obtain rfl : q = p := by
    apply List.inj_on_of_nodup_map hg.distinct _ _ hqp
    · exact List.mem_filter.mpr ⟨hq, by simpa using hforced⟩
    · exact List.mem_filter.mpr ⟨hp, by simpa [← hqp] using hforced⟩
  exact ⟨i, hi, hid, hobject.symm⟩

end World

/-- In a game that reserves the ids of its placements, every world that it comes to gains an instance
by each creation. What code creates gets an id that is free. When a room is entered, a placement is
passed over only if its own instance is there, and else, whatever code has run before its turn, gets
an instance of its object under an id that is free. And nothing happens to such a world but the
changes by which a game comes to the next one. -/
theorem creations_kept_apart {s : Setup} (hg : s.game.ReservesIds) {w : World} (hw : Played s w) :
    (∀ object x y, w.Gains (w.create s.game object x y none).2
      (w.create s.game object x y none).1 object) ∧
    (∀ index room, s.game.room? index = some room →
      ∀ before p after, room.placements = before ++ p :: after → ∀ depth placed v,
      World.placeAll (Machine.execute s depth) s.game w.instances.ids before w = some (placed, v) →
      Int32.maxValue ∉ v.instances.ids →
        if w.instances.ids.contains p.instanceId then
          ∃ i ∈ w.instances.toList, i.id = p.instanceId ∧ i.objectIndex = p.object
        else v.Gains (v.place s.game p).2 (v.place s.game p).1 p.object) ∧
    ∀ (op : Operation) depth v, op.run (Machine.execute s depth) s w = some v →
      Changes s.game w v := by
  have hapart := hw.apart hg
  refine ⟨World.gains_create hapart.nextId_not_mem, ?_, fun op depth v => op.changes_run depth⟩
  · intro index room hroom before p after hsplit depth placed v hv hmax
    have hexec : (Machine.execute s depth).Keeps World.Progresses :=
      Machine.keeps_execute (fun _ _ he => he.progresses) (fun _ _ _ hwv hvu => hwv.trans hvu)
        World.progresses_withContext depth
    have hp : p ∈ s.game.placements := (Game.sublist_placements hroom).subset (by simp [hsplit])
    split_ifs with hcarried
    · exact hapart.exists_carried hg hp (by simpa using hcarried)
    · apply World.gains_place
      exact hapart.place_fst_not_mem hg hexec hroom hsplit hv hmax (by simpa using hcarried)

/-- Code that creates an instance of the second object, which is persistent. -/
def spawningSetup (rooms : Array Room) : Setup where
  game :=
    { functionTable := #[⟨"instance_create", 1, 0⟩]
      objects := #[{}, { persistent := true }, {}]
      rooms }
  program :=
    { code := #[⟨#[(Statement.pushImmediate 1).instruction 0, (Statement.pushImmediate 0).instruction 4,
        (Statement.pushImmediate 0).instruction 8,
        { (Statement.call 0 3).instruction 12 with functionIndex := 0 },
        Statement.popz.instruction 20]⟩]
      references := ⟨[], []⟩
      scripts := .empty }
  settings := {}

def placementOf (object id code : Int32) : Placement := ⟨0, 0, object, id, code, 1, 1, 0, 0⟩

/-- Two placements that keep below the counter, the first of which runs the code. -/
theorem creations_kept_apart_spawning :
    let s := spawningSetup #[{ placements := [placementOf 0 5 0, placementOf 2 7 (-1)] }]
    ∃ placed v, World.placeAll (Machine.execute s 2) s.game [] [placementOf 0 5 0]
        (.ofSetup s 0 default) = some (placed, v) ∧
      v.instances.toList.map (·.objectIndex) = [0, 1] ∧
      v.Gains (v.place s.game (placementOf 2 7 (-1))).2 (v.place s.game (placementOf 2 7 (-1))).1
        2 := by
  intro s
  have hsome : (World.placeAll (Machine.execute s 2) s.game [] [placementOf 0 5 0]
      (.ofSetup s 0 default)).isSome := by
    decide +kernel
  obtain ⟨⟨placed, v⟩, hv⟩ := Option.isSome_iff_exists.mp hsome
  have hend : ∀ r ∈ World.placeAll (Machine.execute s 2) s.game [] [placementOf 0 5 0]
      (.ofSetup s 0 default), r.2.instances.toList.map (·.objectIndex) = [0, 1] ∧
        Int32.maxValue ∉ r.2.instances.ids := by
    decide +kernel
  obtain ⟨hobjects, hmax⟩ := hend _ hv
  obtain ⟨-, hplacements, -⟩ := creations_kept_apart (s := s) (by decide +kernel) (.start 0 default)
  exact ⟨placed, v, hv, hobjects, hplacements 0 _ rfl [_] _ [] rfl 2 placed v hv hmax⟩

/-- The code of the first placement creates an instance under the id of the second placement, which
replaces it. And an instance created in one room is taken for that of a placement in the next one,
which is passed over. -/
theorem creations_collide :
    let s := spawningSetup #[{ placements := [placementOf 0 100000 0, placementOf 2 100001 (-1)] },
      { placements := [placementOf 0 100000 0] }, { placements := [placementOf 2 100001 (-1)] }]
    let w : World := .ofSetup s 0 default
    let objects (w : World) := w.instances.toList.map fun i => (i.id, i.objectIndex)
    let enter (index : Int32) (w : World) := w.enterRoom (Machine.execute s 2) s index
    ((World.placeAll (Machine.execute s 2) s.game [] [placementOf 0 100000 0] w).map fun r =>
        objects r.2) = some [(100000, 0), (100001, 1)] ∧
      (enter 0 w).map objects = some [(100000, 0), (100001, 2)] ∧
      ((enter 1 w).bind (enter 2)).map objects = some [(100001, 1)] := by
  decide +kernel

end GameRunner

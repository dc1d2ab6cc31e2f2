import GameRunner.Proofs.Play.Moments

/-!
# Ids of instances

A new instance gets its id from a counter, unless a placement or the host asks for a certain one. An
id that is asked for may be in use. The counter, however, is above all ids in use and never goes
back, so an id that it gives out is not in use and has never been given out before, whatever has
been dropped since. All of this holds until the counter overflows, that is until the last id of all
is given away.
-/

namespace GameRunner

/-- What can happen to the ids at a time: the game changes, the host creates an instance under an id
of its choice, or the context is set. -/
inductive Move (g : Game) : World → World → Prop
  | change {w v : World} : Change g w v → Move g w v
  | force {w : World} (id object : Int32) (x y : Float) :
    Move g w (w.create g object x y (some id)).2
  | context {w : World} (c : Context) : Move g w (w.withContext c)

/-- One world leads to another by moves that leave the last id of all free. -/
abbrev Leads (g : Game) : World → World → Prop :=
  Relation.ReflTransGen fun w v => Move g w v ∧ Int32.maxValue ∉ v.instances.ids

namespace World

/-- The counter gives out an id: to an instance that code or the host creates, or to a placement
that asks for none. -/
inductive GivesOut (g : Game) (w : World) : Int32 → World → Prop
  | create (object : Int32) (x y : Float) :
    GivesOut g w (w.create g object x y none).1 (w.create g object x y none).2
  | place (p : Placement) : p.instanceId < 0 → GivesOut g w (w.place g p).1 (w.place g p).2

/-- The counter has not gone back and is above all ids in use. -/
structure CountsOn (w v : World) : Prop where
  idsBelow : v.IdsBelow
  nextId : w.nextId ≤ v.nextId

variable {g : Game} {w v u : World}

theorem CountsOn.refl (hw : w.IdsBelow) : w.CountsOn w := ⟨hw, Int32.le_refl _⟩

theorem CountsOn.trans (h : w.CountsOn v) (h' : v.CountsOn u) : w.CountsOn u :=
  ⟨h'.idsBelow, Int32.le_trans h.nextId h'.nextId⟩

theorem mem_ids_addInstance {id new object : Int32} {x y : Float} :
    id ∈ (w.addInstance g new object x y).instances.ids ↔ id = new ∨ id ∈ w.instances.ids := by
  have hid : (dress g (.create new object x y)).id = new := id_dress g _
  unfold addInstance Roster.ids Roster.insert
  rw [Roster.mem_ids_insertList, hid]

/-- Whatever id an instance is added under, the counter is above it afterwards, as long as it is not
the last one of all. -/
theorem countsOn_addInstance (hw : w.IdsBelow) {new object : Int32} {x y : Float}
    (hmax : Int32.maxValue ∉ (w.addInstance g new object x y).instances.ids) :
    w.CountsOn (w.addInstance g new object x y) := by
  have hlt : new < new + 1 := by
    apply lt_add_one_of_ne_maxValue
    intro he
    exact hmax (mem_ids_addInstance.mpr (.inl he.symm))
  have hnext : (w.addInstance g new object x y).nextId =
      if w.nextId ≤ new then new + 1 else w.nextId := rfl
  refine ⟨fun id hid => ?_, ?_⟩
  · rw [hnext]
    rcases mem_ids_addInstance.mp hid with rfl | hid
    · split_ifs with hle
      · exact hlt
      · exact Int32.not_le.mp hle
    · split_ifs with hle
      · exact Int32.lt_trans (Int32.lt_of_lt_of_le (hw id hid) hle) hlt
      · exact hw id hid
  · rw [hnext]
    split_ifs with hle
    · exact Int32.le_of_lt (Int32.lt_of_le_of_lt hle hlt)
    · exact Int32.le_refl _

namespace GivesOut

variable {id : Int32}

theorem eq_nextId (h : w.GivesOut g id v) : id = w.nextId := by
  cases h with
  | create object x y => rfl
  | place p hp => rw [place_fst, if_neg (Int32.not_le.mpr hp)]

theorem mem_ids (h : w.GivesOut g id v) : id ∈ v.instances.ids := by
  cases h with
  | create object x y => exact mem_ids_addInstance.mpr (.inl rfl)
  | place p _ => exact mem_ids_place.mpr (.inl rfl)

theorem idsBelow (h : w.GivesOut g id v) (hw : w.IdsBelow)
    (hmax : Int32.maxValue ∉ v.instances.ids) : v.IdsBelow := by
  cases h with
  | create object x y => exact (countsOn_addInstance hw hmax).idsBelow
  | place p _ => exact (idsBelow_place hw hmax).1

end GivesOut

end World

theorem Change.countsOn {g : Game} {w v : World} (h : Change g w v) (hw : w.IdsBelow)
    (hmax : Int32.maxValue ∉ v.instances.ids) : w.CountsOn v := by
  refine ⟨h.idsBelow hw hmax, ?_⟩
  cases h with
  | code h => exact (h.progresses.grows hw hmax).nextId
  | alter _ hn _ => exact Int32.le_of_eq hn.symm
  | drop _ _ hn _ => exact Int32.le_of_eq hn.symm
  | place _ => exact (World.idsBelow_place hw hmax).2

theorem Move.countsOn {g : Game} {w v : World} (h : Move g w v) (hw : w.IdsBelow)
    (hmax : Int32.maxValue ∉ v.instances.ids) : w.CountsOn v := by
  cases h with
  | change h => exact h.countsOn hw hmax
  | force id object x y => exact World.countsOn_addInstance hw hmax
  | context c => exact ⟨hw, Int32.le_refl _⟩

namespace Leads

variable {g : Game} {w v : World}

theorem countsOn (h : Leads g w v) (hw : w.IdsBelow) : w.CountsOn v := by
  induction h with
  | refl => exact .refl hw
  | tail _ hmove ih => exact ih.trans (hmove.1.countsOn ih.idsBelow hmove.2)

theorem idsBelow_ofSetup (s : Setup) (entropy : UInt64) (journal : Journal) :
    (World.ofSetup s entropy journal).IdsBelow := by
  intro id hid
  cases hid

/-- Changes lead on, up to the first one that gives the last id of all away. -/
theorem of_changes (h : Changes g w v) :
    Leads g w v ∨ ∃ u u', Leads g w u ∧ Move g u u' ∧ Int32.maxValue ∈ u'.instances.ids ∧
      Changes g u' v := by
  induction h with
  | refl => exact .inl .refl
  | @tail u v _ hstep ih =>
    rcases ih with hlead | ⟨x, x', hx, hmove, hmax, hrest⟩
    · have hmove : Move g u v := by
        rcases hstep with hchange | ⟨c, rfl⟩
        · exact .change hchange
        · exact .context c
      by_cases hmax : Int32.maxValue ∈ v.instances.ids
      · exact .inr ⟨u, v, hlead, hmove, hmax, .refl⟩
      · exact .inl (hlead.tail ⟨hmove, hmax⟩)
    · exact .inr ⟨x, x', hx, hmove, hmax, hrest.tail hstep⟩

end Leads

namespace Instance

/-- Storing a variable or an element leaves the id of an instance alone. -/
theorem id_store (i : Instance) (name : String) (v : Value) : (i.store name v).id = i.id := by
  have hfield {j : Instance} (h : i.withField? name v = some j) : j.id = i.id := by
    unfold withField? at h
    split at h <;> cases h <;> rfl
  unfold store
  split
  · next hj => exact hfield hj
  · rfl

theorem id_storeElement (i : Instance) (name : String) (index : Int32) (v : Value) :
    (i.storeElement name index v).id = i.id := by
  unfold storeElement
  split_ifs <;> rfl

end Instance

/-- In every world that a game comes to before the counter overflows, instances are found under
their own ids, which nothing that is stored can change, and the counter is above all of them. The
counter starts with the first id of all that it gives out and never goes back. An id that it gives
out is not in use, and it has not been given out at any earlier time. Every operation leads to such
worlds, up to the moment in which the last id is given away. -/
theorem ids_given_out_once {s : Setup} {entropy : UInt64} {journal : Journal} {w : World}
    (hw : Leads s.game (.ofSetup s entropy journal) w) :
    (∀ id i, w.instances.get? id = some i → i.id = id ∧ id < w.nextId ∧
      ∀ name index v, (i.store name v).id = id ∧ (i.storeElement name index v).id = id) ∧
    firstInstanceId ≤ w.nextId ∧
    (∀ v, Leads s.game w v → w.nextId ≤ v.nextId) ∧
    (∀ id v, w.GivesOut s.game id v →
      firstInstanceId ≤ id ∧ id ∉ w.instances.ids ∧ id ∈ v.instances.ids ∧
      ∀ u u' earlier, Leads s.game (.ofSetup s entropy journal) u →
        u.GivesOut s.game earlier u' → Int32.maxValue ∉ u'.instances.ids → Leads s.game u' w →
          earlier < id) ∧
    ∀ (op : Operation) depth v, op.run (Machine.execute s depth) s w = some v →
      Leads s.game w v ∨ ∃ u u', Leads s.game w u ∧ Move s.game u u' ∧
        Int32.maxValue ∈ u'.instances.ids ∧ Changes s.game u' v := by
  have hstart := Leads.idsBelow_ofSetup s entropy journal
  obtain ⟨hbelow, hcounter⟩ := hw.countsOn hstart
  refine ⟨fun id i hi => ?_, hcounter, fun v hv => (hv.countsOn hbelow).nextId,
    fun id v hgives => ?_, fun op depth v hv => Leads.of_changes (op.changes_run depth hv)⟩
  · obtain rfl := Roster.id_of_get? hi
    have hmem : i.id ∈ w.instances.ids := List.mem_map_of_mem (List.mem_of_find?_eq_some hi)
    exact ⟨rfl, hbelow _ hmem, fun name index v => ⟨i.id_store name v, i.id_storeElement ..⟩⟩
  · obtain rfl := hgives.eq_nextId
    refine ⟨hcounter, fun hmem => Int32.lt_irrefl (hbelow _ hmem), hgives.mem_ids, ?_⟩
    intro u u' earlier hu hearlier hmax hlater
    have hu' := hearlier.idsBelow (hu.countsOn hstart).idsBelow hmax
    have hlt : earlier < u'.nextId := hu' _ hearlier.mem_ids
    exact Int32.lt_of_lt_of_le hlt (hlater.countsOn hu').nextId

/-- After an instance has been created and dropped again nobody is left, and still the next one gets
an id of its own. -/
theorem ids_given_out_once_after_drop :
    let s := Machine.farewellSetup
    let start := World.ofSetup s 0 default
    let created := (start.create s.game 0 0 0 none).2
    let dropped : World := { created with instances := created.instances.filter fun _ => false }
    Leads s.game start dropped ∧ dropped.instances.ids = [] ∧
      (start.create s.game 0 0 0 none).1 = 100000 ∧
      (dropped.create s.game 0 0 0 none).1 = 100001 ∧
      (start.create s.game 0 0 0 none).1 < (dropped.create s.game 0 0 0 none).1 := by
  intro s start created dropped
  have hcreated : Int32.maxValue ∉ created.instances.ids := by decide +kernel
  have hdropped : Int32.maxValue ∉ dropped.instances.ids := by decide +kernel
  have hdrop : Move s.game created dropped := .change (.drop (fun _ => false) rfl rfl rfl)
  have hcreate : Move s.game start created := .change (.code (.create 0 0 0))
  have hleads : Leads s.game created dropped := .single ⟨hdrop, hdropped⟩
  have hw : Leads s.game start dropped := .head ⟨hcreate, hcreated⟩ hleads
  obtain ⟨-, -, -, hgives, -⟩ := ids_given_out_once (s := s) hw
  obtain ⟨-, -, -, hearlier⟩ := hgives _ _ (.create 0 0 0)
  exact ⟨hw, rfl, rfl, rfl, hearlier start created _ .refl (.create 0 0 0) hcreated hleads⟩

end GameRunner

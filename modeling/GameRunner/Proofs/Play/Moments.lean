import GameRunner.Proofs.Play.Passes
import GameRunner.Proofs.Play.Placement
import GameRunner.Proofs.World.Selection

/-!
# From one moment of play to a later one

Whatever the engine starts makes the roster grow and leaves the course of the game alone, as all code
does. So an instance that is there at one moment is found under the same id at a later one, unless the
engine drops it. In every world that a game comes to the counter is above the ids in use.
-/

namespace GameRunner

namespace World

variable {w v : World}

theorem Progresses.refl (w : World) : w.Progresses w := .of_eq rfl rfl ⟨rfl, rfl, rfl, rfl, rfl, rfl⟩

theorem exists_find?_of_forall₂ {R : Instance → Instance → Prop} (hR : ∀ i j, R i j → j.id = i.id)
    {l l' : List Instance} {id : Int32} {i : Instance} (h : List.Forall₂ R l l')
    (hi : l.find? (fun i => i.id = id) = some i) :
    ∃ j, l'.find? (fun i => i.id = id) = some j ∧ R i j := by
  induction h with
  | nil => cases hi
  | @cons a b l l' hab _ ih =>
    by_cases ha : a.id = id
    · rw [List.find?_cons_of_pos (by simpa using ha), Option.some_inj] at hi
      subst hi
      exact ⟨b, by simp [hR a b hab, ha], hab⟩
    · rw [List.find?_cons_of_neg (by simpa using ha)] at hi
      obtain ⟨j, hj, hij⟩ := ih hi
      exact ⟨j, by simpa [hR a b hab, ha] using hj, hij⟩

theorem Grows.exists_instance? (h : w.Grows v) {id : Int32} {i : Instance}
    (hi : w.instance? id = some i) : ∃ j, v.instance? id = some j ∧ i.Continues j := by
  obtain ⟨kept, added, hlist, hkept, -⟩ := h.roster
  obtain ⟨j, hj, hij⟩ := exists_find?_of_forall₂ (fun _ _ hij => hij.id) hkept hi
  unfold instance? Roster.get?
  rw [hlist, List.find?_append, hj]
  exact ⟨j, rfl, hij⟩

/-- The counter stays above all ids in use when a placement is filled, unless the last id of all is
given away. -/
theorem idsBelow_place {g : Game} {p : Placement} (hw : w.IdsBelow)
    (hmax : Int32.maxValue ∉ (w.place g p).2.instances.ids) :
    (w.place g p).2.IdsBelow ∧ w.nextId ≤ (w.place g p).2.nextId := by
  have hlt : (w.place g p).1 < (w.place g p).1 + 1 := by
    apply lt_add_one_of_ne_maxValue
    intro he
    exact hmax (he ▸ mem_ids_place.mpr (.inl rfl))
  have hnext := nextId_place g w p
  constructor
  · intro id hid
    rw [hnext]
    split_ifs with hle
    · rcases mem_ids_place.mp hid with rfl | hid
      · exact hlt
      · exact Int32.lt_trans (Int32.lt_of_lt_of_le (hw id hid) hle) hlt
    · rcases mem_ids_place.mp hid with rfl | hid
      · exact Int32.not_le.mp hle
      · exact hw id hid
  · rw [hnext]
    split_ifs with hle
    · exact Int32.le_of_lt (Int32.lt_of_le_of_lt hle hlt)
    · exact Int32.le_refl _

end World

theorem Change.idsBelow {g : Game} {w v : World} (h : Change g w v) (hw : w.IdsBelow)
    (hmax : Int32.maxValue ∉ v.instances.ids) : v.IdsBelow := by
  cases h with
  | code h => exact (h.progresses.grows hw hmax).idsBelow
  | alter hlist hn _ => exact (World.Grows.of_forall₂ hw hlist hn).idsBelow
  | drop keep hi hn _ =>
    intro id hid
    obtain ⟨i, hmem, rfl⟩ := List.mem_map.mp hid
    rw [hi] at hmem
    rw [hn]
    exact hw _ (List.mem_map_of_mem (List.mem_of_mem_filter hmem))
  | place _ => exact (World.idsBelow_place hw hmax).1

theorem Played.idsBelow {s : Setup} {w : World} (h : Played s w) : w.IdsBelow := by
  induction h with
  | start entropy journal =>
    intro id hid
    cases hid
  | change _ hc hmax ih => exact hc.idsBelow ih hmax
  | context c _ ih => exact ih

theorem Played.create {s : Setup} {w : World} (h : Played s w) (object : Int32)
    (hmax : Int32.maxValue ∉ (w.create s.game object 0 0 none).2.instances.ids) :
    Played s (w.create s.game object 0 0 none).2 :=
  h.change (.code (.create object 0 0)) hmax

theorem Machine.progresses_execute (s : Setup) (depth : Nat) :
    (execute s depth).Keeps World.Progresses :=
  keeps_execute (fun _ _ he => he.progresses) (fun _ _ _ hwv hvu => hwv.trans hvu)
    World.progresses_withContext depth

theorem Activity.progresses {g : Game} {α : Type} {p : α → World} {w : World} {m : Exec → Option α}
    {exec : Exec} (hexec : exec.Keeps World.Progresses) (h : Activity (Deed g) p w m) {a : α}
    (ha : m exec = some a) : w.Progresses (p a) :=
  h.rel (fun _ _ he => he.progresses) (fun _ _ _ hwv hvu => hwv.trans hvu)
    World.progresses_withContext hexec ha

section Starting

variable {exec : Exec} {s : Setup} {w v : World}

/-- What the engine starts is an activity; mild effects are all that it adds to the code. -/
theorem activity_start {E : World → World → Prop} (hE : ∀ w v, Mild w v → E w v) (s : Setup)
    (t : Start) (w : World) : Activity E id w fun exec => t.run exec s w := by
  cases t with
  | event id type subtype other =>
    change Activity _ _ _ fun exec => w.fire exec s id type subtype other
    unfold World.fire
    split
    · exact .done w
    · exact .act (hE _ _ (World.mild_reportEvent ..)) (World.activity_runHandler ..)
  | placementCode id code => exact .run code id none
  | roomCode id code => exact .run code id none
  | drawing id object codes => exact World.activity_during _ (World.activity_runAll id none codes _)

theorem progresses_of_start (hexec : exec.Keeps World.Progresses) (t : Start)
    (h : t.run exec s w = some v) : w.Progresses v := by
  have hactivity : Activity (Deed s.game) id w fun exec => t.run exec s w :=
    activity_start (fun _ _ => .mild) s t w
  exact hactivity.progresses hexec h

/-- A relation that is about the instances alone holds across everything that is started if it holds
across all code. -/
theorem rel_of_start {R : World → World → Prop}
    (hsame : ∀ w v : World, v.instances = w.instances → R w v)
    (htrans : ∀ w v u, R w v → R v u → R w u) (hexec : exec.Keeps R) (t : Start)
    (h : t.run exec s w = some v) : R w v := by
  have hactivity : Activity R id w fun exec => t.run exec s w :=
    activity_start (fun _ _ hmild => hsame _ _ hmild.instances) s t w
  exact hactivity.rel (fun _ _ hR => hR) htrans (fun _ _ => hsame _ _ rfl) hexec h

theorem isSome_runAll (hexec : ∀ w code id other, (exec w code id other).isSome)
    (id : Int32) (other : Option Int32) (codes : List Int32) (w : World) :
    (World.runAll exec id other codes w).isSome := by
  induction codes generalizing w with
  | nil => rfl
  | cons code rest ih =>
    obtain ⟨v, hv⟩ := Option.isSome_iff_exists.mp (hexec w code id other)
    simp only [World.runAll, hv, Option.bind_eq_bind, Option.bind_some]
    exact ih v

/-- Where all code comes to an end, so does every plan that does not break off. -/
theorem Plan.isSome_run {α : Type} {P : World → Start → Prop}
    (hexec : ∀ w code id other, (exec w code id other).isSome) {plan : Plan α}
    (h : plan.Starts P) : (plan.run exec s).isSome := by
  have hduring (w : World) (c : EventContext) (id : Int32) (other : Option Int32)
      (codes : List Int32) : (w.during c (World.runAll exec id other codes)).isSome := by
    obtain ⟨v, hv⟩ := Option.isSome_iff_exists.mp
      (isSome_runAll hexec id other codes { w with event := some c })
    rw [World.during, hv]
    rfl
  induction plan with
  | done a => rfl
  | start w t next ih =>
    have hstart : (t.run exec s w).isSome := by
      cases t with
      | event id type subtype other =>
        change (w.fire exec s id type subtype other).isSome
        unfold World.fire World.runHandler
        split
        · rfl
        · split
          · rfl
          · exact hduring ..
      | placementCode id code => exact hexec ..
      | roomCode id code => exact hexec ..
      | drawing id object codes => exact hduring ..
    obtain ⟨v, hv⟩ := Option.isSome_iff_exists.mp hstart
    rw [run, hv]
    exact ih v (h.2 v)
  | broken => exact h.elim

end Starting

end GameRunner

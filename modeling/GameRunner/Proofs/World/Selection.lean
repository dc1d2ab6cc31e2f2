import GameRunner.World.Variables
import Mathlib.Tactic

/-!
# What selections depend on

Which instances a selector names, and which one a variable access means, depends on the roster only
through the ids, the objects and who is destroyed. A change of an instance that touches none of these
leaves all selections as they were.
-/

namespace GameRunner

namespace Instance

/-- What selections see of an instance. -/
def tag (i : Instance) : Int32 × Int32 × Bool := (i.id, i.objectIndex, i.destroyed)

end Instance

namespace Roster

/-- What selections see of all instances. -/
def tags (r : Roster) : List (Int32 × Int32 × Bool) := r.toList.map Instance.tag

theorem get?_modify (r : Roster) (id k : Int32) (f : Instance → Instance) :
    (r.modify id f).get? k = if k = id then (r.get? id).map fun i => { f i with id := id }
      else r.get? k := by
  change (modifyList id f r.toList).find? _ = if k = id then
    (r.toList.find? fun i => i.id = id).map _ else r.toList.find? fun i => i.id = k
  induction r.toList with
  | nil => simp [modifyList]
  | cons j rest ih =>
    unfold modifyList
    by_cases hj : j.id = id
    · by_cases hk : k = id
      · simp [hj, hk]
      · simp [hj, hk, Ne.symm hk]
    · by_cases hk : k = id
      · subst hk
        simp only [hj, if_false, if_true, List.find?_cons, decide_false] at ih ⊢
        exact ih
      · by_cases hjk : j.id = k
        · simp [hk, hjk]
        · simp only [hj, hk, hjk, if_false, List.find?_cons, decide_false] at ih ⊢
          exact ih

theorem get?_insert (r : Roster) (i : Instance) (id : Int32) :
    (r.insert i).get? id = if i.id = id then some i else r.get? id := by
  change (insertList i r.toList).find? _ = if i.id = id then some i else
    r.toList.find? fun j => j.id = id
  induction r.toList with
  | nil => by_cases hi : i.id = id <;> simp [insertList, hi]
  | cons j rest ih =>
    unfold insertList
    split_ifs with hj hi hi
    · simp [hi]
    · simp [hj, hi]
    · have hjd : j.id ≠ id := fun hjd => hj (hjd.trans hi.symm)
      simpa [hjd, hi] using ih
    · by_cases hjd : j.id = id
      · simp [hjd]
      · simpa [hjd, hi] using ih

theorem tags_modify (r : Roster) (id : Int32) {f : Instance → Instance}
    (hf : ∀ i, (f i).objectIndex = i.objectIndex ∧ (f i).destroyed = i.destroyed) :
    (r.modify id f).tags = r.tags := by
  change (modifyList id f r.toList).map Instance.tag = r.toList.map Instance.tag
  induction r.toList with
  | nil => rfl
  | cons j rest ih =>
    unfold modifyList
    split_ifs with hj
    · simp [Instance.tag, hf j, hj]
    · simp [ih]

theorem map_tag_get? (r : Roster) (id : Int32) :
    (r.get? id).map Instance.tag = r.tags.find? fun t => t.1 = id := by
  simp only [tags, List.find?_map]
  rfl

variable {r r' : Roster}

theorem contains_congr (h : r'.tags = r.tags) (id : Int32) : r'.contains id = r.contains id := by
  have hget := congrArg Option.isSome ((map_tag_get? r' id).trans (h ▸ (map_tag_get? r id).symm))
  simpa [contains] using hget

theorem isLive_congr (h : r'.tags = r.tags) (id : Int32) : r'.isLive id = r.isLive id := by
  have hlive (r : Roster) :
      r.isLive id = (((r.get? id).map Instance.tag).map fun t => !t.2.2).getD false := by
    unfold isLive
    cases r.get? id <;> rfl
  rw [hlive, hlive, map_tag_get?, map_tag_get?, h]

theorem map_live_congr (h : r'.tags = r.tags) (p : Int32 → Bool) :
    (r'.live.filter fun i => p i.objectIndex).map (·.id) =
      (r.live.filter fun i => p i.objectIndex).map (·.id) := by
  have hlive (r : Roster) : (r.live.filter fun i => p i.objectIndex).map (·.id) =
      ((r.tags.filter fun t => !t.2.2).filter fun t => p t.2.1).map (·.1) := by
    simp only [live, tags, List.filter_map, List.map_map]
    rfl
  rw [hlive, hlive, h]

theorem liveIds_congr (h : r'.tags = r.tags) : r'.liveIds = r.liveIds := by
  have hlive (r : Roster) : r.liveIds = (r.tags.filter fun t => !t.2.2).map (·.1) := by
    simp only [liveIds, live, tags, List.filter_map, List.map_map]
    rfl
  rw [hlive, hlive, h]

end Roster

namespace World

variable {w v : World}

theorem instance?_modify (w : World) (id k : Int32) (f : Instance → Instance) :
    (w.modify id f).instance? k = if k = id then (w.instance? id).map fun i => { f i with id := id }
      else w.instance? k :=
  Roster.get?_modify w.instances id k f

theorem select_congr (h : v.instances.tags = w.instances.tags) (g : Game)
    (selector self other : Int32) :
    v.select g selector self other = w.select g selector self other := by
  have honly (id : Int32) : v.liveOnly id = w.liveOnly id := by
    unfold liveOnly isLive
    rw [Roster.isLive_congr h]
  have hkind (object : Int32) : v.ofKind g object = w.ofKind g object :=
    Roster.map_live_congr h fun o => g.isKindOf o object
  have hlive : v.liveIds = w.liveIds := Roster.liveIds_congr h
  unfold select
  rw [honly, honly, honly, hkind, hlive]

theorem resolve?_congr (h : v.instances.tags = w.instances.tags) (g : Game)
    (selector self other : Int32) :
    v.resolve? g selector self other = w.resolve? g selector self other := by
  have hpresent (id : Int32) : v.present? id = w.present? id := by
    unfold present?
    rw [Roster.contains_congr h]
  unfold resolve?
  rw [hpresent, hpresent, select_congr h]

/-! ### Who is selected exists -/

theorem contains_of_isLive {id : Int32} (h : w.isLive id) : w.instances.contains id := by
  unfold isLive Roster.isLive at h
  unfold Roster.contains
  split at h
  · next hi => rw [hi, Option.isSome_some]
  · cases h

theorem isLive_eq {id : Int32} {i : Instance} (hi : w.instance? id = some i) :
    w.isLive id = i.live := by
  have hi : w.instances.get? id = some i := hi
  rw [isLive, Roster.isLive, hi]

theorem instance?_of_mem {i : Instance} (h : i ∈ w.instances.toList) :
    w.instance? i.id = some i := by
  unfold instance? Roster.get?
  cases hfind : w.instances.toList.find? fun j => j.id = i.id with
  | none => simpa using List.find?_eq_none.mp hfind i h
  | some j =>
    have hid : j.id = i.id := by simpa using List.find?_some hfind
    rw [List.inj_on_of_nodup_map w.instances.nodup (List.mem_of_find?_eq_some hfind) h hid]

theorem exists_of_isLive {id : Int32} (h : w.isLive id) :
    ∃ i, w.instance? id = some i ∧ i.live = true := by
  unfold isLive Roster.isLive at h
  unfold instance?
  split at h
  · next i hi => exact ⟨i, hi, h⟩
  · cases h

theorem isLive_of_mem_live {i : Instance} (h : i ∈ w.instances.live) : w.isLive i.id := by
  obtain ⟨hi, hlive⟩ := List.mem_filter.mp h
  rw [isLive_eq (instance?_of_mem hi), hlive]

theorem isLive_of_mem_select {g : Game} {selector self other id : Int32}
    (h : id ∈ w.select g selector self other) : w.isLive id := by
  have honly (k : Int32) (hk : id ∈ w.liveOnly k) : w.isLive id := by
    unfold liveOnly at hk
    split_ifs at hk with hlive
    · rwa [List.mem_singleton.mp hk]
    · cases hk
  unfold select at h
  split_ifs at h
  · exact honly self h
  · exact honly other h
  · obtain ⟨i, hi, rfl⟩ := List.mem_map.mp h
    exact isLive_of_mem_live hi
  · exact honly selector h
  · obtain ⟨i, hi, rfl⟩ := List.mem_map.mp h
    exact isLive_of_mem_live (List.mem_of_mem_filter hi)
  · cases h

theorem contains_of_mem_select {g : Game} {selector self other id : Int32}
    (h : id ∈ w.select g selector self other) : w.instances.contains id :=
  contains_of_isLive (isLive_of_mem_select h)

theorem present?_eq_some {k id : Int32} (h : w.present? k = some id) :
    k = id ∧ w.instances.contains id := by
  unfold present? at h
  split_ifs at h with hk
  cases h
  exact ⟨rfl, hk⟩

theorem contains_of_resolve? {g : Game} {selector self other id : Int32}
    (h : w.resolve? g selector self other = some id) : w.instances.contains id := by
  unfold resolve? at h
  split_ifs at h
  · exact (present?_eq_some h).2
  · exact contains_of_mem_select (List.mem_of_mem_head? h)
  · exact (present?_eq_some h).2

theorem resolve?_self (g : Game) {self : Int32} (h : w.instances.contains self) (other : Int32) :
    w.resolve? g Selector.self self other = some self := by
  unfold resolve? present?
  rw [if_neg (by decide), if_neg (by decide), if_neg (by decide), if_pos h]

theorem resolve?_of_nonneg (g : Game) (w : World) {selector : Int32} (h : 0 ≤ selector)
    (self other : Int32) :
    w.resolve? g selector self other = (w.select g selector self other).head? := by
  have hne (k : Int32) (hk : k < 0) : selector ≠ k := by
    rintro rfl
    exact Int32.not_le.mpr hk h
  unfold resolve?
  rw [if_neg (hne _ (by decide)), if_pos h]
  simp [hne Selector.global (by decide), hne Selector.frame (by decide)]

/-- Where a selector below zero means no instance, there is no self, or else it means other and
there is no other. -/
theorem resolve?_eq_none_iff_of_neg {g : Game} {selector self other : Int32} (hneg : ¬ 0 ≤ selector)
    (hglobal : selector ≠ Selector.global) (hframe : selector ≠ Selector.frame) :
    w.resolve? g selector self other = none ↔
      ¬ w.instances.contains (if selector = Selector.other then other else self) := by
  unfold resolve? present?
  by_cases hother : selector = Selector.other
  · simp [hother]
  · simp [hother, hglobal, hframe, hneg]

end World

end GameRunner

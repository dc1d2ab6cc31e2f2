import GameRunner.Proofs.Library.Arguments
import GameRunner.Proofs.Machine.Faults
import Mathlib.Tactic

/-!
# Handles of maps and lists

Maps and lists take their handles from one counter. Whatever functions are called with whatever
arguments, a handle names at most one collection, it is never given out a second time, and a call
concerns the collection with one handle only. For this it does not matter whether the handle that a
call is given names a collection of the right kind, of the other kind, or none any more.
-/

namespace GameRunner

namespace Dict

variable {κ : Type u} {α : Type v} [DecidableEq κ] {k : κ} {d e : Dict κ α}

/-- Nothing is stored anew, and only what is stored under one key may be different or gone. -/
structure ChangesAt (k : κ) (d e : Dict κ α) : Prop where
  others : ∀ k', k' ≠ k → e.get? k' = d.get? k'
  absent : d.get? k = none → e.get? k = none

theorem ChangesAt.refl (k : κ) (d : Dict κ α) : ChangesAt k d d := ⟨fun _ _ => rfl, id⟩

theorem ChangesAt.get?_eq_none (h : ChangesAt k d e) {k' : κ} (hk : d.get? k' = none) :
    e.get? k' = none := by
  by_cases hkk : k' = k
  · subst hkk
    exact h.absent hk
  · rw [h.others k' hkk]
    exact hk

theorem changesAt_erase (k : κ) (d : Dict κ α) : ChangesAt k d (d.erase k) where
  others k' hk := by rw [get?_erase, if_neg hk]
  absent _ := by rw [get?_erase, if_pos rfl]

theorem changesAt_insert {a b : α} (h : d.get? k = some a) : ChangesAt k d (d.insert k b) where
  others k' hk := by rw [get?_insert, if_neg hk]
  absent hk := by
    rw [h] at hk
    cases hk

end Dict

namespace Collections

variable {c d : Collections} {id : Int32}

/-- There is a map or a list with a handle. -/
def Names (c : Collections) (id : Int32) : Prop := c.map? id ≠ none ∨ c.list? id ≠ none

/-- At most the map with one handle is different or gone. -/
structure ChangesMap (id : Int32) (c d : Collections) : Prop where
  maps : Dict.ChangesAt id c.maps d.maps
  lists : d.lists = c.lists
  nextId : d.nextId = c.nextId

/-- At most the list with one handle is different or gone. -/
structure ChangesList (id : Int32) (c d : Collections) : Prop where
  maps : d.maps = c.maps
  lists : Dict.ChangesAt id c.lists d.lists
  nextId : d.nextId = c.nextId

theorem ChangesMap.refl (id : Int32) (c : Collections) : ChangesMap id c c :=
  ⟨.refl id c.maps, rfl, rfl⟩

theorem changesMap_destroyMap (id : Int32) (c : Collections) :
    ChangesMap id c (c.destroyMap id) :=
  ⟨Dict.changesAt_erase id c.maps, rfl, rfl⟩

theorem changesList_destroyList (id : Int32) (c : Collections) :
    ChangesList id c (c.destroyList id) :=
  ⟨rfl, Dict.changesAt_erase id c.lists, rfl⟩

theorem changesMap_modifyMap (id : Int32) (f : Dict String Value → Dict String Value)
    (c : Collections) : ChangesMap id c (c.modifyMap id f) := by
  unfold modifyMap
  split
  · next m hm => exact ⟨Dict.changesAt_insert hm, rfl, rfl⟩
  · exact .refl id c

theorem changesList_modifyList (id : Int32) (f : List Value → List Value) (c : Collections) :
    ChangesList id c (c.modifyList id f) := by
  unfold modifyList
  split
  · next l hl => exact ⟨rfl, Dict.changesAt_insert hl, rfl⟩
  · exact ⟨rfl, .refl id c.lists, rfl⟩

theorem changesMap_copyMap (target source : Int32) (c : Collections) :
    ChangesMap target c (c.copyMap target source) := by
  unfold copyMap
  split
  · exact changesMap_modifyMap target _ c
  · exact .refl target c

/-! ### Which handles have been given out -/

/-- No further handle names anything. -/
structure Within (c d : Collections) : Prop where
  map : ∀ id, c.map? id = none → d.map? id = none
  list : ∀ id, c.list? id = none → d.list? id = none
  nextId : d.nextId = c.nextId

/-- The next handle comes to name a new collection of one kind, and no other handle does. -/
structure Adds (c d : Collections) : Prop where
  others : ∀ id, id ≠ c.nextId → d.map? id = c.map? id ∧ d.list? id = c.list? id
  oneKind : d.map? c.nextId = c.map? c.nextId ∨ d.list? c.nextId = c.list? c.nextId
  names : d.Names c.nextId
  nextId : d.nextId = c.nextId + 1

theorem Within.refl (c : Collections) : Within c c := ⟨fun _ => id, fun _ => id, rfl⟩

theorem ChangesMap.within (h : ChangesMap id c d) : Within c d where
  map _ hk := h.maps.get?_eq_none hk
  list k hk := by
    unfold list?
    rw [h.lists]
    exact hk
  nextId := h.nextId

theorem ChangesList.within (h : ChangesList id c d) : Within c d where
  map k hk := by
    unfold map?
    rw [h.maps]
    exact hk
  list _ hk := h.lists.get?_eq_none hk
  nextId := h.nextId

theorem adds_createMap (c : Collections) : Adds c c.createMap.2 where
  others k hk := by simp [createMap, map?, list?, hk]
  oneKind := .inr rfl
  names := by simp [Names, createMap, map?]
  nextId := rfl

theorem adds_createList (c : Collections) : Adds c c.createList.2 where
  others k hk := by simp [createList, map?, list?, hk]
  oneKind := .inl rfl
  names := by simp [Names, createList, list?]
  nextId := rfl

/-- What is so as long as the handles given out are those below the next one: each was given out
once, and names a map, a list or nothing any more. -/
structure Tracks (issued : List Int32) (c : Collections) : Prop where
  apart : ∀ id, c.map? id = none ∨ c.list? id = none
  named : ∀ id, c.Names id → id ∈ issued
  below : ∀ id ∈ issued, id < c.nextId
  count : c.nextId.toInt = issued.length
  nodup : issued.Nodup

namespace Tracks

variable {issued : List Int32}

theorem fresh (h : c.Tracks issued) : c.nextId ∉ issued :=
  fun hmem => Int32.lt_irrefl (h.below _ hmem)

theorem not_names (h : c.Tracks issued) : ¬ c.Names c.nextId := fun hn => h.fresh (h.named _ hn)

theorem empty : Tracks [] {} where
  apart _ := .inl rfl
  named _ h := by rcases h with h | h <;> exact absurd rfl h
  below _ h := by cases h
  count := rfl
  nodup := .nil

theorem within (h : c.Tracks issued) (hcd : Within c d) : d.Tracks issued where
  apart id := (h.apart id).imp (hcd.map id) (hcd.list id)
  named id hn := h.named id (hn.imp (mt (hcd.map id)) (mt (hcd.list id)))
  below := by
    rw [hcd.nextId]
    exact h.below
  count := by
    rw [hcd.nextId]
    exact h.count
  nodup := h.nodup

theorem adds (h : c.Tracks issued) (hcd : Adds c d) (hcount : issued.length + 1 < 2 ^ 31) :
    d.Tracks (issued ++ [c.nextId]) := by
  have hnext : d.nextId.toInt = c.nextId.toInt + 1 := by
    have hone : Int32.toInt 1 = 1 := rfl
    have hc := h.count
    rw [hcd.nextId, Int32.toInt_add, hone, Int.bmod_eq_of_le]
    · omega
    · omega
  have hfree := h.not_names
  unfold Names at hfree
  push Not at hfree
  refine ⟨?_, ?_, ?_, ?_, ?_⟩
  · intro id
    by_cases hid : id = c.nextId
    · subst hid
      rw [← hfree.1, ← hfree.2]
      exact hcd.oneKind
    · rw [(hcd.others id hid).1, (hcd.others id hid).2]
      exact h.apart id
  · intro id hn
    rw [List.mem_append, List.mem_singleton]
    by_cases hid : id = c.nextId
    · exact .inr hid
    · unfold Names at hn
      rw [(hcd.others id hid).1, (hcd.others id hid).2] at hn
      exact .inl (h.named id hn)
  · intro id hmem
    rw [Int32.lt_iff_toInt_lt, hnext]
    rcases List.mem_append.mp hmem with hmem | hmem
    · have hlt := Int32.lt_iff_toInt_lt.mp (h.below id hmem)
      omega
    · rw [List.mem_singleton.mp hmem]
      omega
  · rw [hnext, h.count, List.length_append]
    rfl
  · rw [← List.concat_eq_append]
    exact h.nodup.concat h.fresh

end Tracks

end Collections

/-! ### What a call does -/

namespace Builtin

/-- The names of the functions that make a collection. -/
def creators : List String := ["ds_map_create", "ds_list_create"]

/-- A function that makes a collection and gives its handle. -/
def creating (create : Collections → Int32 × Collections) : Builtin :=
  .action fun _ => .ok (.collect fun c =>
    let r := create c
    (.ofInt r.1, r.2))

/-- A function that only looks at the world, or changes the collections in a way that a relation
tells for the handle in its first argument. -/
inductive WorksOn (R : Int32 → Collections → Collections → Prop) : Builtin → Prop
  | asking (f : List Value → Except Fault (Setup → World → Value)) : WorksOn R (asking f)
  | collecting {f : List Value → Except Fault (Collections → Collections)} :
    (∀ args, WorksOut (fun change => ∃ id, int args 0 = .ok id ∧ ∀ c, R id c (change c)) (f args)) →
      WorksOn R (collecting f)

/-- The outcome of a call of a function of one kind of collections. -/
inductive Outcome (create : Collections → Int32 × Collections)
    (R : Int32 → Collections → Collections → Prop) (name : String) (args : List Value)
    (c : Collections) : Except Fault Value → Collections → Prop
  | created : name ∈ creators → Outcome create R name args c (.ok (.ofInt (create c).1)) (create c).2
  | untouched {r : Except Fault Value} : name ∉ creators → Outcome create R name args c r c
  | changed {r : Except Fault Value} {d : Collections} (id : Int32) : name ∉ creators →
    int args 0 = .ok id → R id c d → Outcome create R name args c r d

section Tables

variable {R : Int32 → Collections → Collections → Prop} {name : String} {b : Builtin}

/-- A change that the handle in the first argument tells. -/
theorem worksOn_handle {f : Int32 → Collections → Collections} (h : ∀ id c, R id c (f id c)) :
    WorksOn R (collecting fun args => do
      let id ← int args 0
      return f id) := by
  apply WorksOn.collecting
  intro args
  apply WorksOut.bind
  intro id hid
  exact .pure ⟨id, hid, h id⟩

theorem worksOn_storeKey : WorksOn Collections.ChangesMap storeKey := by
  apply WorksOn.collecting
  intro args
  apply WorksOut.bind
  intro id hid
  apply WorksOut.bind
  intro key _
  apply WorksOut.bind
  intro v _
  exact .pure ⟨id, hid, Collections.changesMap_modifyMap id _⟩

theorem worksOn_deleteKey : WorksOn Collections.ChangesMap (collecting fun args => do
    let key ← text args 1
    let id ← int args 0
    return fun c => c.modifyMap id fun m => m.erase key) := by
  apply WorksOn.collecting
  intro args
  apply WorksOut.bind
  intro key _
  apply WorksOut.bind
  intro id hid
  exact .pure ⟨id, hid, Collections.changesMap_modifyMap id _⟩

theorem worksOn_copyMap : WorksOn Collections.ChangesMap (collecting fun args => do
    let target ← int args 0
    let source ← int args 1
    return fun c => c.copyMap target source) := by
  apply WorksOn.collecting
  intro args
  apply WorksOut.bind
  intro target htarget
  apply WorksOut.bind
  intro source _
  exact .pure ⟨target, htarget, Collections.changesMap_copyMap target source⟩

theorem worksOn_extendList : WorksOn Collections.ChangesList (collecting fun args => do
    let id ← int args 0
    return fun c => c.modifyList id fun l => l ++ args.drop 1) := by
  apply WorksOn.collecting
  intro args
  apply WorksOut.bind
  intro id hid
  exact .pure ⟨id, hid, Collections.changesList_modifyList id _⟩

/-- A function of maps makes one, or works on the one whose handle is its first argument. -/
theorem maps_cases (h : (name, b) ∈ maps) :
    (name ∈ creators ∧ b = creating Collections.createMap) ∨
      (name ∉ creators ∧ b.WorksOn Collections.ChangesMap) := by
  have hother {b : Builtin} (name : String) (hname : name ∉ creators)
      (hb : b.WorksOn Collections.ChangesMap) :
      (name ∈ creators ∧ b = creating Collections.createMap) ∨
        (name ∉ creators ∧ b.WorksOn Collections.ChangesMap) := .inr ⟨hname, hb⟩
  simp only [maps, List.mem_cons, List.not_mem_nil, or_false, Prod.mk.injEq] at h
  rcases h with ⟨rfl, rfl⟩ | ⟨rfl, rfl⟩ | ⟨rfl, rfl⟩ | ⟨rfl, rfl⟩ | ⟨rfl, rfl⟩ | ⟨rfl, rfl⟩ |
    ⟨rfl, rfl⟩ | ⟨rfl, rfl⟩ | ⟨rfl, rfl⟩ | ⟨rfl, rfl⟩ | ⟨rfl, rfl⟩ | ⟨rfl, rfl⟩ | ⟨rfl, rfl⟩ |
    ⟨rfl, rfl⟩ | ⟨rfl, rfl⟩
  · exact .inl ⟨by decide, rfl⟩
  · exact hother "ds_map_destroy" (by decide) (worksOn_handle Collections.changesMap_destroyMap)
  · exact hother "ds_map_add" (by decide) worksOn_storeKey
  · exact hother "ds_map_set" (by decide) worksOn_storeKey
  · exact hother "ds_map_replace" (by decide) worksOn_storeKey
  · exact hother "ds_map_find_value" (by decide) (.asking _)
  · exact hother "ds_map_exists" (by decide) (.asking _)
  · exact hother "ds_map_delete" (by decide) worksOn_deleteKey
  · exact hother "ds_map_size" (by decide) (.asking _)
  · exact hother "ds_map_clear" (by decide)
      (worksOn_handle fun id => Collections.changesMap_modifyMap id _)
  · exact hother "ds_map_copy" (by decide) worksOn_copyMap
  · exact hother "ds_map_find_first" (by decide) (.asking _)
  · exact hother "ds_map_find_last" (by decide) (.asking _)
  · exact hother "ds_map_find_next" (by decide) (.asking _)
  · exact hother "ds_map_find_previous" (by decide) (.asking _)

/-- A function of lists makes one, or works on the one whose handle is its first argument. -/
theorem lists_cases (h : (name, b) ∈ lists) :
    (name ∈ creators ∧ b = creating Collections.createList) ∨
      (name ∉ creators ∧ b.WorksOn Collections.ChangesList) := by
  have hother {b : Builtin} (name : String) (hname : name ∉ creators)
      (hb : b.WorksOn Collections.ChangesList) :
      (name ∈ creators ∧ b = creating Collections.createList) ∨
        (name ∉ creators ∧ b.WorksOn Collections.ChangesList) := .inr ⟨hname, hb⟩
  simp only [lists, List.mem_cons, List.not_mem_nil, or_false, Prod.mk.injEq] at h
  rcases h with ⟨rfl, rfl⟩ | ⟨rfl, rfl⟩ | ⟨rfl, rfl⟩ | ⟨rfl, rfl⟩ | ⟨rfl, rfl⟩
  · exact .inl ⟨by decide, rfl⟩
  · exact hother "ds_list_destroy" (by decide) (worksOn_handle Collections.changesList_destroyList)
  · exact hother "ds_list_add" (by decide) worksOn_extendList
  · exact hother "ds_list_find_value" (by decide) (.asking _)
  · exact hother "ds_list_size" (by decide) (.asking _)

end Tables

section Calls

variable {R : Int32 → Collections → Collections → Prop} {name : String} {b : Builtin}
  {create : Collections → Int32 × Collections}

theorem callBuiltin_asking (f : List Value → Except Fault (Setup → World → Value)) (exec : Exec)
    (s : Setup) (w : World) (args : List Value) :
    w.callBuiltin exec s (asking f) args = some ((f args).map fun look => look s w, w) := by
  simp only [World.callBuiltin, asking, World.callAction]
  cases f args <;> rfl

theorem callBuiltin_collecting (f : List Value → Except Fault (Collections → Collections))
    (exec : Exec) (s : Setup) (w : World) (args : List Value) :
    w.callBuiltin exec s (collecting f) args =
      match f args with
      | .error fault => some (.error fault, w)
      | .ok change => some (.ok .zero, { w with collections := change w.collections }) := by
  simp only [World.callBuiltin, collecting, World.callAction]
  cases f args <;> rfl

/-- A call of a function that makes a collection or works on one comes to an end. -/
theorem exists_outcome (h : (name ∈ creators ∧ b = creating create) ∨
      (name ∉ creators ∧ b.WorksOn R)) (exec : Exec) (s : Setup) (w : World) (args : List Value) :
    ∃ r v, w.callBuiltin exec s b args = some (r, v) ∧
      Outcome create R name args w.collections r v.collections := by
  rcases h with ⟨hname, rfl⟩ | ⟨hname, hb⟩
  · exact ⟨_, _, rfl, .created hname⟩
  · cases hb with
    | asking f => exact ⟨_, w, callBuiltin_asking f exec s w args, .untouched hname⟩
    | @collecting f hf =>
      rw [callBuiltin_collecting]
      cases hchange : f args with
      | error fault => exact ⟨_, w, rfl, .untouched hname⟩
      | ok change =>
        obtain ⟨id, hid, hR⟩ := hf args change hchange
        exact ⟨_, _, rfl, .changed id hname hid (hR w.collections)⟩

end Calls

end Builtin

namespace Collections

open Builtin

/-- The handle that a call of a function is about: the next one if it makes a collection, else the
one in the first argument. -/
def target? (c : Collections) (name : String) (args : List Value) : Option Int32 :=
  if name ∈ creators then some c.nextId else (int args 0).toOption

/-- The handle that a call of a function gives out, if it makes a collection. -/
def given (c : Collections) (name : String) : List Int32 :=
  if name ∈ creators then [c.nextId] else []

section Outcomes

variable {name : String} {args : List Value} {c d : Collections} {r : Except Fault Value}
  {issued : List Int32} {create : Collections → Int32 × Collections}
  {R : Int32 → Collections → Collections → Prop}

theorem Tracks.outcome (hcreate : ∀ c, Adds c (create c).2) (hR : ∀ id c d, R id c d → Within c d)
    (h : c.Tracks issued) (hcount : (issued ++ c.given name).length < 2 ^ 31)
    (ho : Outcome create R name args c r d) : d.Tracks (issued ++ c.given name) := by
  unfold given at hcount ⊢
  cases ho with
  | created hname =>
    rw [if_pos hname] at hcount ⊢
    rw [List.length_append, List.length_singleton] at hcount
    exact h.adds (hcreate c) hcount
  | untouched hname =>
    rw [if_neg hname, List.append_nil]
    exact h
  | changed id hname _ hcd =>
    rw [if_neg hname, List.append_nil]
    exact h.within (hR id c d hcd)

theorem creator_outcome (hid : (create c).1 = c.nextId) (hadds : Adds c (create c).2)
    (hname : name ∈ creators) (ho : Outcome create R name args c r d) :
    r = .ok (.ofInt c.nextId) ∧ d.Names c.nextId := by
  cases ho with
  | created _ => exact ⟨by rw [hid], hadds.names⟩
  | untouched hother => exact absurd hname hother
  | changed _ hother => exact absurd hname hother

theorem target?_of_int (hname : name ∉ creators) {id : Int32} (hid : int args 0 = .ok id) :
    c.target? name args = some id := by
  rw [target?, if_neg hname, hid]
  rfl

/-- A call of a function of maps leaves all lists alone, and all maps but the one it is about. -/
theorem maps_outcome (ho : Outcome createMap ChangesMap name args c r d) :
    d.lists = c.lists ∧ ∀ id, c.target? name args ≠ some id → d.map? id = c.map? id := by
  cases ho with
  | created hname =>
    refine ⟨rfl, fun id hid => ((adds_createMap c).others id ?_).1⟩
    rintro rfl
    exact hid (if_pos hname)
  | untouched hname => exact ⟨rfl, fun _ _ => rfl⟩
  | changed k hname hk hcd =>
    refine ⟨hcd.lists, fun id hid => hcd.maps.others id ?_⟩
    rintro rfl
    exact hid (target?_of_int hname hk)

/-- A call of a function of lists leaves all maps alone, and all lists but the one it is about. -/
theorem lists_outcome (ho : Outcome createList ChangesList name args c r d) :
    d.maps = c.maps ∧ ∀ id, c.target? name args ≠ some id → d.list? id = c.list? id := by
  cases ho with
  | created hname =>
    refine ⟨rfl, fun id hid => ((adds_createList c).others id ?_).2⟩
    rintro rfl
    exact hid (if_pos hname)
  | untouched hname => exact ⟨rfl, fun _ _ => rfl⟩
  | changed k hname hk hcd =>
    refine ⟨hcd.maps, fun id hid => hcd.lists.others id ?_⟩
    rintro rfl
    exact hid (target?_of_int hname hk)

end Outcomes

end Collections

/-! ### Many calls -/

namespace World

open Builtin

/-- Functions of maps and lists are called one after the other, from a world without collections on,
and the world is left otherwise in between. The handles given out are listed in order. -/
inductive CallsHandles (exec : Exec) (s : Setup) : World → List Int32 → Prop
  | start {w : World} : w.collections = {} → CallsHandles exec s w []
  | call {w v : World} {issued : List Int32} {name : String} {b : Builtin} {args : List Value}
    {r : Except Fault Value} : CallsHandles exec s w issued → (name, b) ∈ maps ++ lists →
    w.callBuiltin exec s b args = some (r, v) →
      CallsHandles exec s v (issued ++ w.collections.given name)
  | rest {w v : World} {issued : List Int32} : CallsHandles exec s w issued →
    v.collections = w.collections → CallsHandles exec s v issued

/-- A call of a function of maps or lists comes to an end, with an outcome of its kind. -/
theorem exists_call {name : String} {b : Builtin} (hb : (name, b) ∈ maps ++ lists) (exec : Exec)
    (s : Setup) (w : World) (args : List Value) :
    ∃ r v, w.callBuiltin exec s b args = some (r, v) ∧
      ((name, b) ∈ maps ∧ Outcome Collections.createMap Collections.ChangesMap name args
          w.collections r v.collections ∨
        (name, b) ∈ lists ∧ Outcome Collections.createList Collections.ChangesList name args
          w.collections r v.collections) := by
  rcases List.mem_append.mp hb with hb | hb
  · obtain ⟨r, v, hrun, ho⟩ := exists_outcome (maps_cases hb) exec s w args
    exact ⟨r, v, hrun, .inl ⟨hb, ho⟩⟩
  · obtain ⟨r, v, hrun, ho⟩ := exists_outcome (lists_cases hb) exec s w args
    exact ⟨r, v, hrun, .inr ⟨hb, ho⟩⟩

theorem exists_plan {name : String} {b : Builtin} (hb : (name, b) ∈ maps ++ lists) :
    ∃ plan, b = .action plan := by
  have hworks {R : Int32 → Collections → Collections → Prop} {b : Builtin} (h : b.WorksOn R) :
      ∃ plan, b = .action plan := by
    cases h <;> exact ⟨_, rfl⟩
  rcases List.mem_append.mp hb with hb | hb
  · rcases maps_cases hb with ⟨-, rfl⟩ | ⟨-, hb⟩
    · exact ⟨_, rfl⟩
    · exact hworks hb
  · rcases lists_cases hb with ⟨-, rfl⟩ | ⟨-, hb⟩
    · exact ⟨_, rfl⟩
    · exact hworks hb

theorem CallsHandles.tracks {exec : Exec} {s : Setup} {w : World} {issued : List Int32}
    (h : CallsHandles exec s w issued) (hcount : issued.length < 2 ^ 31) :
    w.collections.Tracks issued := by
  induction h with
  | start hw =>
    rw [hw]
    exact .empty
  | @call w v issued name b args r _ hb hrun ih =>
    have hfewer : issued.length < 2 ^ 31 := by
      rw [List.length_append] at hcount
      omega
    obtain ⟨r', v', hrun', ho⟩ := exists_call hb exec s w args
    rw [hrun] at hrun'
    cases hrun'
    rcases ho with ⟨-, ho⟩ | ⟨-, ho⟩
    · exact (ih hfewer).outcome Collections.adds_createMap (fun _ _ _ h => h.within) hcount ho
    · exact (ih hfewer).outcome Collections.adds_createList (fun _ _ _ h => h.within) hcount ho
  | rest _ hv ih =>
    rw [hv]
    exact ih hcount

/-- After any calls of functions of maps and lists no handle names a map and a list, all handles in
use are below the next one, and no handle has been given out twice. One more call comes to an end. If
it makes a collection, it gives a handle that has not been given out before. A function of maps leaves
every list alone, and every map but the one that the call is about; for a function of lists it is the
other way round. -/
theorem handles_never_clash {exec : Exec} {s : Setup} {w : World} {issued : List Int32}
    (h : CallsHandles exec s w issued) (hcount : issued.length < 2 ^ 31) :
    (∀ id, w.collections.map? id = none ∨ w.collections.list? id = none) ∧
      (∀ id, w.collections.Names id → id ∈ issued ∧ id < w.collections.nextId) ∧ issued.Nodup ∧
      ∀ name b args, (name, b) ∈ maps ++ lists →
        ∃ r v, w.callBuiltin exec s b args = some (r, v) ∧
          (name ∈ creators → r = .ok (.ofInt w.collections.nextId) ∧
            v.collections.Names w.collections.nextId ∧ w.collections.nextId ∉ issued) ∧
          ((name, b) ∈ maps ∧ v.collections.lists = w.collections.lists ∧
              (∀ id, w.collections.target? name args ≠ some id →
                v.collections.map? id = w.collections.map? id) ∨
            (name, b) ∈ lists ∧ v.collections.maps = w.collections.maps ∧
              ∀ id, w.collections.target? name args ≠ some id →
                v.collections.list? id = w.collections.list? id) := by
  have ht := h.tracks hcount
  refine ⟨ht.apart, fun id hn => ⟨ht.named id hn, ht.below id (ht.named id hn)⟩, ht.nodup, ?_⟩
  intro name b args hb
  obtain ⟨r, v, hrun, ho⟩ := exists_call hb exec s w args
  refine ⟨r, v, hrun, fun hname => ?_, ?_⟩
  · rcases ho with ⟨-, ho⟩ | ⟨-, ho⟩
    · obtain ⟨hr, hn⟩ := Collections.creator_outcome rfl (Collections.adds_createMap _) hname ho
      exact ⟨hr, hn, ht.fresh⟩
    · obtain ⟨hr, hn⟩ := Collections.creator_outcome rfl (Collections.adds_createList _) hname ho
      exact ⟨hr, hn, ht.fresh⟩
  · rcases ho with ⟨htable, ho⟩ | ⟨htable, ho⟩
    · exact .inl ⟨htable, Collections.maps_outcome ho⟩
    · exact .inr ⟨htable, Collections.lists_outcome ho⟩

/-- A map has been made and destroyed, and then a list has been made. -/
def listWorld : World :=
  { Machine.farewellWorld with
    collections := (({} : Collections).createMap.2.destroyMap 0).createList.2 }

theorem callsHandles_listWorld (exec : Exec) (s : Setup) :
    CallsHandles exec s listWorld [0, 1] := by
  have hmap : ("ds_map_create", creating Collections.createMap) ∈ maps ++ lists := by
    simp [maps, creating]
  have hdestroy : ("ds_map_destroy", collecting fun args => do
      let id ← int args 0
      return fun c => c.destroyMap id) ∈ maps ++ lists := by
    simp [maps]
  have hlist : ("ds_list_create", creating Collections.createList) ∈ maps ++ lists := by
    simp [lists, creating]
  have hstart : CallsHandles exec s Machine.farewellWorld [] := .start rfl
  have hmade := hstart.call hmap (show World.callBuiltin exec s _ _ [] = some (_, _) from rfl)
  have hgone := hmade.call hdestroy
    (show World.callBuiltin exec s _ _ [.ofInt 0] = some (_, _) from rfl)
  exact hgone.call hlist (show World.callBuiltin exec s _ _ [] = some (_, _) from rfl)

/-- The handle of the map is not given out again. -/
theorem handles_never_clash_listWorld :
    CallsHandles (Machine.execute Machine.farewellSetup 1) Machine.farewellSetup listWorld [0, 1] ∧
      [(0 : Int32), 1].length < 2 ^ 31 ∧ listWorld.collections.map? 0 = none ∧
      listWorld.collections.list? 1 = some [] ∧
      ∀ id, listWorld.collections.Names id → id ∈ [0, 1] ∧ id < listWorld.collections.nextId := by
  have hcalls := callsHandles_listWorld (Machine.execute Machine.farewellSetup 1)
    Machine.farewellSetup
  exact ⟨hcalls, by decide, rfl, rfl, (handles_never_clash hcalls (by decide)).2.1⟩

theorem named?_of_mem {name : String} {b : Builtin} (h : (name, b) ∈ maps ++ lists) :
    named? name = some b := by
  simp only [maps, lists, List.cons_append, List.nil_append, List.mem_cons, List.not_mem_nil,
    or_false, Prod.mk.injEq] at h
  rcases h with h | h | h | h | h | h | h | h | h | h | h | h | h | h | h | h | h | h | h | h <;>
    · obtain ⟨rfl, rfl⟩ := h
      rfl

/-- Calls that code makes by name are calls of these functions. -/
theorem CallsHandles.named {exec : Exec} {s : Setup} {w v : World} {issued : List Int32}
    (h : CallsHandles exec s w issued) {name : String} {b : Builtin} (hb : (name, b) ∈ maps ++ lists)
    {args : List Value} {self other : Int32} {r : Except Fault Value}
    (hrun : w.call exec s name args self other = some (r, v)) :
    CallsHandles exec s v (issued ++ w.collections.given name) := by
  have hreport : (w.reportCall s name args self).collections = w.collections := by
    obtain ⟨lines, hlines⟩ := OnlyReports.reportCall s w name args self
    rw [hlines]
  obtain ⟨plan, rfl⟩ := exists_plan hb
  unfold World.call asCaller at hrun
  rw [named?_of_mem hb] at hrun
  obtain ⟨⟨r', v'⟩, hcall, heq⟩ := Option.map_eq_some_iff.mp hrun
  obtain ⟨-, rfl⟩ := Prod.mk.inj heq
  have hcalls := (h.rest (v := { w.reportCall s name args self with
    self := some self, other := some other }) hreport).call hb (r := r') (v := v') hcall
  rw [← hreport]
  exact hcalls.rest rfl

end World

end GameRunner

import GameRunner.Proofs.World.Handles
import GameRunner.Proofs.World.KeyOrder

/-!
# Walking through a map

Code walks through a map by asking for the first key, then for the key behind the one it has, and so
on until there is none; or from the last key on for the key before the one it has. Whatever functions
have been called to make the map, both walks come past every key once. The order is that in which the
keys have come into the map; a map that is a copy of another one has the order of that one.
-/

namespace GameRunner

namespace Collections

/-- What is asked for by calls of functions that change maps. -/
inductive MapRequest
  | create
  | destroy (id : Int32)
  | change (id : Int32) (e : Dict.Change String Value)
  | copy (target source : Int32)

/-- What the collections are when it has been done. -/
def MapRequest.apply (c : Collections) : MapRequest → Collections
  | .create => c.createMap.2
  | .destroy id => c.destroyMap id
  | .change id e => c.modifyMap id e.apply
  | .copy target source => c.copyMap target source

/-- What has been done to each of the maps that there are. -/
abbrev Histories := Int32 → Option (List (Dict.Change String Value))

/-- A new map has no history, and a copy takes over the history of the other map. -/
def Histories.after (H : Histories) (nextId : Int32) : MapRequest → Histories
  | .create => Function.update H nextId (some [])
  | .destroy id => Function.update H id none
  | .change id e => Function.update H id ((H id).map (· ++ [e]))
  | .copy target source =>
    if (H target).isSome ∧ (H source).isSome then Function.update H target (H source) else H

section Maps

variable (c : Collections) (k : Int32)

theorem map?_createMap :
    c.createMap.2.map? k = if k = c.nextId then some .empty else c.map? k :=
  Dict.get?_insert c.maps c.nextId k .empty

theorem map?_destroyMap (id : Int32) :
    (c.destroyMap id).map? k = if k = id then none else c.map? k :=
  Dict.get?_erase c.maps id k

theorem map?_modifyMap (id : Int32) (f : Dict String Value → Dict String Value) :
    (c.modifyMap id f).map? k = if k = id then (c.map? id).map f else c.map? k := by
  unfold modifyMap
  cases h : c.map? id with
  | some m => exact Dict.get?_insert c.maps id k (f m)
  | none =>
    split_ifs with hk
    · rw [hk, h]
      rfl
    · rfl

theorem map?_copyMap (target source : Int32) :
    (c.copyMap target source).map? k =
      if k = target ∧ (c.map? target).isSome ∧ (c.map? source).isSome then c.map? source
      else c.map? k := by
  unfold copyMap
  cases hsource : c.map? source with
  | none => simp
  | some m =>
    dsimp only
    rw [map?_modifyMap]
    by_cases hk : k = target
    · subst hk
      cases c.map? k <;> simp
    · simp [hk]

end Maps

/-- There is a history for each map, and it tells the order of its keys. -/
def Told (H : Histories) (c : Collections) : Prop := ∀ id, Option.Rel Dict.Tells (H id) (c.map? id)

section Told

variable {H : Histories} {c : Collections}

theorem told_empty : Told (fun _ => none) {} := fun _ => .none

theorem rel_change {x : Option (List (Dict.Change String Value))} {y : Option (Dict String Value)}
    (h : Option.Rel Dict.Tells x y) (e : Dict.Change String Value) :
    Option.Rel Dict.Tells (x.map (· ++ [e])) (y.map e.apply) := by
  cases h with
  | some h => exact .some (h.apply e)
  | none => exact .none

theorem isSome_eq_of_rel {x : Option (List (Dict.Change String Value))}
    {y : Option (Dict String Value)} (h : Option.Rel Dict.Tells x y) : x.isSome = y.isSome := by
  cases h <;> rfl

/-- The histories are kept up. -/
theorem Told.after (h : Told H c) (request : MapRequest) :
    Told (H.after c.nextId request) (request.apply c) := by
  intro k
  cases request with
  | create =>
    rw [MapRequest.apply, map?_createMap, Histories.after, Function.update_apply]
    split_ifs
    · exact .some Dict.tells_empty
    · exact h k
  | destroy id =>
    rw [MapRequest.apply, map?_destroyMap, Histories.after, Function.update_apply]
    split_ifs
    · exact .none
    · exact h k
  | change id e =>
    rw [MapRequest.apply, map?_modifyMap, Histories.after, Function.update_apply]
    split_ifs
    · exact rel_change (h id) e
    · exact h k
  | copy target source =>
    rw [MapRequest.apply, map?_copyMap, Histories.after, isSome_eq_of_rel (h target),
      isSome_eq_of_rel (h source)]
    by_cases hboth : (c.map? target).isSome ∧ (c.map? source).isSome
    · rw [if_pos hboth, Function.update_apply]
      simp only [hboth, and_true]
      split_ifs
      · exact h source
      · exact h k
    · rw [if_neg hboth, if_neg fun hk => hboth hk.2]
      exact h k

end Told

/-! ### The key behind another one -/

theorem keyAfter?_append_cons {before after : List String} {key : String}
    (h : (before ++ key :: after).Nodup) :
    keyAfter? key (before ++ key :: after) = after.head? := by
  induction before with
  | nil => exact if_pos rfl
  | cons first rest ih =>
    obtain ⟨hfirst, hrest⟩ := List.nodup_cons.mp h
    have hne : first ≠ key := by
      rintro rfl
      exact hfirst (List.mem_append_right _ List.mem_cons_self)
    exact (if_neg hne).trans (ih hrest)

end Collections

namespace Builtin

open Collections

/-- What a call of a function with some arguments asks for, if it changes a map at all. -/
def requestOf? (name : String) (args : List Value) : Option MapRequest :=
  match name with
  | "ds_map_create" => some .create
  | "ds_map_destroy" => (int args 0).toOption.map .destroy
  | "ds_map_add" | "ds_map_set" | "ds_map_replace" => do
    let id ← (int args 0).toOption
    let key ← (text args 1).toOption
    let v ← (arg args 2).toOption
    return .change id (.store key v)
  | "ds_map_delete" => do
    let key ← (text args 1).toOption
    let id ← (int args 0).toOption
    return .change id (.remove key)
  | "ds_map_clear" => (int args 0).toOption.map (.change · .clear)
  | "ds_map_copy" => do
    let target ← (int args 0).toOption
    let source ← (int args 1).toOption
    return .copy target source
  | _ => none

/-- A call of a function leaves the collections as what it asks for leaves them. -/
def Fulfils (b : Builtin) (request : List Value → Option MapRequest) : Prop :=
  ∀ exec s w args, ∃ r, World.callBuiltin exec s w b args =
    some (r, { w with collections :=
      ((request args).map (MapRequest.apply w.collections)).getD w.collections })

theorem fulfils_asking (f : List Value → Except Fault (Setup → World → Value)) :
    (asking f).Fulfils fun _ => none :=
  fun exec s w args => ⟨_, callBuiltin_asking f exec s w args⟩

theorem fulfils_collecting {f : List Value → Except Fault (Collections → Collections)}
    {request : List Value → Option MapRequest}
    (h : ∀ args, (f args).toOption = (request args).map fun r c => r.apply c) :
    (collecting f).Fulfils request := by
  intro exec s w args
  rw [callBuiltin_collecting]
  have hargs := h args
  cases hf : f args with
  | error fault =>
    rw [hf] at hargs
    cases hrequest : request args with
    | none => exact ⟨_, rfl⟩
    | some r =>
      rw [hrequest] at hargs
      cases hargs
  | ok change =>
    rw [hf] at hargs
    cases hrequest : request args with
    | none =>
      rw [hrequest] at hargs
      cases hargs
    | some r =>
      rw [hrequest] at hargs
      cases hargs
      exact ⟨_, rfl⟩

theorem fulfils_storeKey : storeKey.Fulfils (requestOf? "ds_map_add") := by
  apply fulfils_collecting
  intro args
  unfold requestOf?
  cases int args 0 <;> cases text args 1 <;> cases arg args 2 <;> rfl

/-- Every function of maps does what it is asked for. -/
theorem fulfils_of_mem_maps {name : String} {b : Builtin} (h : (name, b) ∈ maps) :
    b.Fulfils (requestOf? name) := by
  simp only [maps, List.mem_cons, List.not_mem_nil, or_false, Prod.mk.injEq] at h
  rcases h with ⟨rfl, rfl⟩ | ⟨rfl, rfl⟩ | ⟨rfl, rfl⟩ | ⟨rfl, rfl⟩ | ⟨rfl, rfl⟩ | ⟨rfl, rfl⟩ |
    ⟨rfl, rfl⟩ | ⟨rfl, rfl⟩ | ⟨rfl, rfl⟩ | ⟨rfl, rfl⟩ | ⟨rfl, rfl⟩ | ⟨rfl, rfl⟩ | ⟨rfl, rfl⟩ |
    ⟨rfl, rfl⟩ | ⟨rfl, rfl⟩
  · exact fun exec s w args => ⟨_, rfl⟩
  · apply fulfils_collecting
    intro args
    unfold requestOf?
    cases int args 0 <;> rfl
  · exact fulfils_storeKey
  · exact fulfils_storeKey
  · exact fulfils_storeKey
  · exact fulfils_asking _
  · exact fulfils_asking _
  · apply fulfils_collecting
    intro args
    unfold requestOf?
    cases text args 1 <;> cases int args 0 <;> rfl
  · exact fulfils_asking _
  · apply fulfils_collecting
    intro args
    unfold requestOf?
    cases int args 0 <;> rfl
  · apply fulfils_collecting
    intro args
    unfold requestOf?
    cases int args 0 <;> cases int args 1 <;> rfl
  · exact fulfils_asking _
  · exact fulfils_asking _
  · exact fulfils_asking _
  · exact fulfils_asking _

end Builtin

namespace World

open Builtin Collections

/-- Functions of maps are called one after the other, from a world without collections on, and the
maps are left alone otherwise. The history of each map is kept. -/
inductive CallsMaps (exec : Exec) (s : Setup) : World → Histories → Prop
  | start {w : World} : w.collections = {} → CallsMaps exec s w fun _ => none
  | call {w v : World} {H : Histories} {name : String} {b : Builtin} {args : List Value}
    {r : Except Fault Value} : CallsMaps exec s w H → (name, b) ∈ Builtin.maps →
    w.callBuiltin exec s b args = some (r, v) →
      CallsMaps exec s v (((requestOf? name args).map (H.after w.collections.nextId)).getD H)
  | rest {w v : World} {H : Histories} : CallsMaps exec s w H →
    v.collections.maps = w.collections.maps → CallsMaps exec s v H

variable {exec : Exec} {s : Setup} {w : World} {H : Histories}

theorem CallsMaps.told (h : CallsMaps exec s w H) : Told H w.collections := by
  induction h with
  | start hw =>
    rw [hw]
    exact told_empty
  | @call w v H name b args r _ hb hrun ih =>
    obtain ⟨r', hrun'⟩ := fulfils_of_mem_maps hb exec s w args
    rw [hrun] at hrun'
    cases hrun'
    cases requestOf? name args with
    | none => exact ih
    | some request => exact ih.after request
  | rest _ hv ih =>
    intro id
    rw [map?, hv]
    exact ih id

/-- What a call does to the collections and to the histories of the maps. -/
def serve (c : Collections × Histories) (call : String × List Value) : Collections × Histories :=
  ((requestOf? call.1 call.2).map fun r => (r.apply c.1, c.2.after c.1.nextId r)).getD c

/-- Any functions of maps can be called one after the other. -/
theorem CallsMaps.serve (h : CallsMaps exec s w H) {calls : List (String × List Value)}
    (hcalls : ∀ call ∈ calls, ∃ b, (call.1, b) ∈ Builtin.maps) :
    CallsMaps exec s { w with collections := (calls.foldl World.serve (w.collections, H)).1 }
      (calls.foldl World.serve (w.collections, H)).2 := by
  induction calls generalizing w H with
  | nil => exact h
  | cons call rest ih =>
    obtain ⟨⟨b, hb⟩, hrest⟩ := List.forall_mem_cons.mp hcalls
    obtain ⟨r, hrun⟩ := fulfils_of_mem_maps hb exec s w call.2
    have hnext := ih (h.call hb hrun) hrest
    have hserve : World.serve (w.collections, H) call =
        (((requestOf? call.1 call.2).map (MapRequest.apply w.collections)).getD w.collections,
          ((requestOf? call.1 call.2).map (H.after w.collections.nextId)).getD H) := by
      unfold World.serve
      cases requestOf? call.1 call.2 <;> rfl
    rw [List.foldl_cons, hserve]
    exact hnext

/-- A function of the library answers a call, and nothing changes. -/
def Answers (exec : Exec) (s : Setup) (w : World) (name : String) (args : List Value) (v : Value) :
    Prop :=
  ∃ b, named? name = some b ∧ w.callBuiltin exec s b args = some (.ok v, w)

/-- To ask a function for the next key of a map, again and again from some answer on, gives these keys
and then the undefined value. -/
inductive Walks (exec : Exec) (s : Setup) (w : World) (next : String) (map : Value) :
    Value → List String → Prop
  | finish : Walks exec s w next map .undefined []
  | visit {key : String} {v : Value} {keys : List String} :
    Answers exec s w next [map, .str key] v → Walks exec s w next map v keys →
      Walks exec s w next map (.str key) (key :: keys)

section Walking

variable {map : Value} {m : Dict String Value}

/-- A walk comes past all keys of a list if each call gives the key behind the one it is asked for. -/
theorem walks_of_keyAfter {next : String} {keys : List String} (hkeys : keys.Nodup)
    (hnext : ∀ key, Answers exec s w next [map, .str key] (keyValue (keyAfter? key keys))) :
    Walks exec s w next map (keyValue keys.head?) keys := by
  -- What is left of the walk when some keys have been passed.
  have hrest (before after : List String) (h : keys = before ++ after) :
      Walks exec s w next map (keyValue after.head?) after := by
    induction after generalizing before with
    | nil => exact .finish
    | cons key after ih =>
      have hanswer := hnext key
      rw [h, keyAfter?_append_cons (h ▸ hkeys)] at hanswer
      exact .visit hanswer (ih (before ++ [key]) (by rw [h, List.append_assoc]; rfl))
  exact hrest [] keys rfl

variable (hm : w.collections.map? map.toInt = some m)

include hm

theorem answers_askingMap {name : String} {f : Option (Dict String Value) → Value}
    (hname : named? name = some (askingMap f)) : Answers exec s w name [map] (f (some m)) := by
  rw [← hm]
  exact ⟨_, hname, callBuiltin_asking _ exec s w [map]⟩

theorem answers_askingKey {name key : String} {f : Option (Dict String Value) → String → Value}
    (hname : named? name = some (askingKey f)) :
    Answers exec s w name [map, .str key] (f (some m) key) := by
  rw [← hm]
  exact ⟨_, hname, callBuiltin_asking _ exec s w [map, .str key]⟩

theorem walks_forward :
    Answers exec s w "ds_map_find_first" [map] (keyValue m.keys.head?) ∧
      Walks exec s w "ds_map_find_next" map (keyValue m.keys.head?) m.keys := by
  have hfirst : named? "ds_map_find_first" = some (askingMap fun m => keyValue (keysOf m).head?) :=
    rfl
  have hnext : named? "ds_map_find_next" =
      some (askingKey fun m key => keyValue (keyAfter? key (keysOf m))) := rfl
  exact ⟨answers_askingMap hm hfirst,
    walks_of_keyAfter m.nodup fun key => answers_askingKey hm hnext⟩

theorem walks_backward :
    Answers exec s w "ds_map_find_last" [map] (keyValue m.keys.getLast?) ∧
      Walks exec s w "ds_map_find_previous" map (keyValue m.keys.getLast?) m.keys.reverse := by
  have hlast : named? "ds_map_find_last" = some (askingMap fun m => keyValue (keysOf m).getLast?) :=
    rfl
  have hprevious : named? "ds_map_find_previous" =
      some (askingKey fun m key => keyValue (keyAfter? key (keysOf m).reverse)) := rfl
  have hback : Walks exec s w "ds_map_find_previous" map (keyValue m.keys.reverse.head?)
      m.keys.reverse :=
    walks_of_keyAfter (List.nodup_reverse.mpr m.nodup) fun key => answers_askingKey hm hprevious
  rw [List.head?_reverse] at hback
  exact ⟨answers_askingMap hm hlast, hback⟩

theorem answers_size : Answers exec s w "ds_map_size" [map] (.ofNat m.keys.length) := by
  have hsize : named? "ds_map_size" = some (askingMap fun m => .ofNat ((m.map Dict.size).getD 0)) :=
    rfl
  rw [Dict.keys, List.length_map]
  exact answers_askingMap hm hsize

end Walking

/-- Whatever functions have been called to make a map: its keys are those that are in, each of them
once, in the order of the changes since which they are in, where a copied map has been changed as the
other one had been. To ask for the first key and then for the next one gives the keys in this order
and then the undefined value; to ask for the last key and then for the previous one gives them in the
reverse order; and their number is the size of the map. -/
theorem walk_passes_each_key_once (h : CallsMaps exec s w H) {map : Value} {m : Dict String Value}
    (hm : w.collections.map? map.toInt = some m) :
    (∃ history, H map.toInt = some history ∧
        (∀ k, k ∈ m.keys ↔ ∃ n, Dict.InSince history k n) ∧
        m.keys.Pairwise fun a b =>
          ∀ i j, Dict.InSince history a i → Dict.InSince history b j → i < j) ∧
      m.keys.Nodup ∧
      (∃ v, Answers exec s w "ds_map_find_first" [map] v ∧
        Walks exec s w "ds_map_find_next" map v m.keys) ∧
      (∃ v, Answers exec s w "ds_map_find_last" [map] v ∧
        Walks exec s w "ds_map_find_previous" map v m.keys.reverse) ∧
      Answers exec s w "ds_map_size" [map] (.ofNat m.keys.length) := by
  refine ⟨?_, m.nodup, ⟨_, walks_forward hm⟩, ⟨_, walks_backward hm⟩, answers_size hm⟩
  have htold := h.told map.toInt
  rw [hm] at htold
  cases hhistory : H map.toInt with
  | none =>
    rw [hhistory] at htold
    cases htold
  | some history =>
    rw [hhistory] at htold
    cases htold with
    | some htells => exact ⟨history, rfl, htells.mem_iff, htells.order⟩

/-- A key is taken out and stored again, another one is stored twice, and then the map is copied over
a map with a key of its own. -/
def copyCalls : List (String × List Value) :=
  [("ds_map_create", []), ("ds_map_add", [.zero, .str "b", .one]),
    ("ds_map_add", [.zero, .str "a", .one]), ("ds_map_delete", [.zero, .str "b"]),
    ("ds_map_set", [.zero, .str "b", .zero]), ("ds_map_replace", [.zero, .str "a", .zero]),
    ("ds_map_create", []), ("ds_map_add", [.one, .str "old", .one]),
    ("ds_map_copy", [.one, .zero]), ("ds_map_delete", [.zero, .str "a"])]

/-- The collections after these calls, and what has been done to the maps. -/
def copied : Collections × Histories := copyCalls.foldl serve ({}, fun _ => none)

def copiedWorld : World := { Machine.farewellWorld with collections := copied.1 }

theorem callsMaps_copied (exec : Exec) (s : Setup) : CallsMaps exec s copiedWorld copied.2 := by
  have hstart : CallsMaps exec s Machine.farewellWorld fun _ => none := .start rfl
  apply hstart.serve
  simp [copyCalls, Builtin.maps]

/-- The copy has the keys of the other map before one of them was taken out there. -/
theorem walk_passes_each_key_of_copy :
    CallsMaps (Machine.execute Machine.farewellSetup 1) Machine.farewellSetup copiedWorld copied.2 ∧
      ∃ m, copiedWorld.collections.map? (Value.toInt .one) = some m ∧ m.keys = ["a", "b"] ∧
        (∃ v, Answers (Machine.execute Machine.farewellSetup 1) Machine.farewellSetup copiedWorld
            "ds_map_find_first" [.one] v ∧
          Walks (Machine.execute Machine.farewellSetup 1) Machine.farewellSetup copiedWorld
            "ds_map_find_next" .one v ["a", "b"]) ∧
        (∃ v, Answers (Machine.execute Machine.farewellSetup 1) Machine.farewellSetup copiedWorld
            "ds_map_find_last" [.one] v ∧
          Walks (Machine.execute Machine.farewellSetup 1) Machine.farewellSetup copiedWorld
            "ds_map_find_previous" .one v ["b", "a"]) ∧
        Answers (Machine.execute Machine.farewellSetup 1) Machine.farewellSetup copiedWorld
          "ds_map_size" [.one] (.ofNat 2) := by
  have hcalls := callsMaps_copied (Machine.execute Machine.farewellSetup 1) Machine.farewellSetup
  have hkeys : (copiedWorld.collections.map? (Value.toInt .one)).map Dict.keys =
      some ["a", "b"] := by
    decide +kernel
  obtain ⟨m, hm, hmkeys⟩ := Option.map_eq_some_iff.mp hkeys
  obtain ⟨-, -, hforward, hbackward, hsize⟩ := walk_passes_each_key_once hcalls hm
  rw [hmkeys] at hforward hbackward hsize
  exact ⟨hcalls, m, hm, hmkeys, hforward, hbackward, hsize⟩

end World

end GameRunner

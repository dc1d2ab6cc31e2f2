import GameRunner.Machine.Access
import GameRunner.Proofs.World.Selection

/-!
# Variables of a game's own

Names that mean nothing to the engine are free for a game to use. Under such a name an instance, a
frame and the global variables just keep values: what has been stored last is what is read, and
storing on one instance concerns no other one.
-/

namespace GameRunner

/-- Names of built-in fields of instances. -/
def fieldNames : List String :=
  ["x", "y", "xprevious", "yprevious", "xstart", "ystart", "hspeed", "vspeed", "speed", "direction",
    "friction", "gravity", "gravity_direction", "sprite_index", "image_index", "image_speed",
    "image_xscale", "image_yscale", "image_angle", "image_blend", "image_alpha", "depth", "visible",
    "solid", "persistent", "object_index", "id", "mask_index", "path_index", "path_position",
    "path_speed", "path_endaction", "path_orientation", "path_scale", "alarm"]

/-- Names of values that are computed from an instance. -/
def computedNames : List String :=
  ["bbox_left", "bbox_right", "bbox_top", "bbox_bottom", "sprite_width", "sprite_height",
    "image_number", "room_persistent"]

/-- Names of values of the engine. -/
def engineNames : List String :=
  ["room", "room_speed", "fps", "room_width", "room_height", "view_current", "current_time",
    "instance_count", "keyboard_key", "keyboard_lastkey", "mouse_x", "mouse_y", "os_type", "game_id",
    "working_directory", "program_directory", "temp_directory", "browser_width", "browser_height",
    "display_aa", "application_surface", "path_action_stop", "path_action_restart",
    "path_action_continue", "path_action_reverse"]

/-- Names of the view arrays. -/
def viewNames : List String :=
  ["view_xview", "view_yview", "view_wview", "view_hview", "view_xport", "view_yport", "view_wport",
    "view_hport", "view_hborder", "view_vborder", "view_hspeed", "view_vspeed", "view_object",
    "view_visible"]

/-- A name that means nothing to the engine. -/
structure IsOwnName (name : String) : Prop where
  field : name ∉ fieldNames
  computed : name ∉ computedNames
  engine : name ∉ engineNames
  view : name ∉ viewNames

instance (name : String) : Decidable (IsOwnName name) :=
  decidable_of_iff (name ∉ fieldNames ∧ name ∉ computedNames ∧ name ∉ engineNames ∧
      name ∉ viewNames)
    ⟨fun ⟨hf, hc, he, hv⟩ => ⟨hf, hc, he, hv⟩, fun h => ⟨h.field, h.computed, h.engine, h.view⟩⟩

namespace Instance

theorem mem_fieldNames_of_field? {i : Instance} {name : String} {v : Value}
    (h : i.field? name = some v) : name ∈ fieldNames := by
  unfold field? at h
  split at h <;> cases h <;> simp [fieldNames]

theorem mem_fieldNames_of_withField? {i j : Instance} {name : String} {v : Value}
    (h : i.withField? name v = some j) : name ∈ fieldNames := by
  unfold withField? at h
  split at h <;> cases h <;> simp [fieldNames]

end Instance

namespace World

theorem mem_computedNames_of_computed? {g : Game} {w : World} {i : Instance} {name : String}
    {v : Value} (h : computed? g w i name = some v) : name ∈ computedNames := by
  unfold computed? isBoxEdge at h
  split_ifs at h with hedge
  · simp only [List.contains_eq_mem, decide_eq_true_eq] at hedge
    exact List.mem_append_left _ hedge
  · dsimp only at h
    split at h <;> cases h <;> simp [computedNames]

theorem mem_viewNames_of_viewElement? {w : World} {name : String} {index : Int32} {v : Value}
    (h : w.viewElement? name index = some v) : name ∈ viewNames := by
  unfold viewElement? at h
  dsimp only at h
  split at h <;> cases h <;> simp [viewNames]

theorem mem_viewNames_of_viewWith? {view view' : View} {name : String} {v : Value}
    (h : viewWith? view name v = some view') : name ∈ viewNames := by
  unfold viewWith? at h
  dsimp only at h
  split at h <;> cases h <;> simp [viewNames]

theorem globalValue_of_not_mem {name : String} (h : name ∉ engineNames) (g : Game) (w : World) :
    globalValue g w name = (w.globals.get? name).getD .zero := by
  unfold globalValue
  dsimp only
  split
  case h_26 => rfl
  all_goals exact absurd (by simp [engineNames]) h

theorem storeGlobal_of_not_mem {name : String} (h : name ∉ engineNames) (w : World) (v : Value) :
    w.storeGlobal name v = { w with globals := w.globals.insert name v } := by
  unfold storeGlobal
  split
  · exact absurd (by simp [engineNames]) h
  · exact absurd (by simp [engineNames]) h
  · rfl

end World

/-! ### Storing and reading -/

namespace Frame

/-- What is kept after an access has stored a value, given what was kept before. -/
def kept (old : Option Value) (v : Value) : Option Address → Value
  | some a => (old.getD .zero).arraySet a.index v
  | none => v

/-- What an access reads from a value that is kept. -/
def seen (x : Value) : Option Address → Value
  | some a => x.arrayGet a.index
  | none => x

@[simp] theorem seen_kept (old : Option Value) (v : Value) (a : Option Address) :
    seen (kept old v a) a = v := by
  cases a with
  | none => rfl
  | some a => exact Value.arrayGet_arraySet_self _ _ _

theorem readLocal_writeLocal (f : Frame) (var : Variable) (v : Value) (a : Option Address) :
    (f.writeLocal var v a).readLocal var a = v := by
  cases a <;> simp [readLocal, writeLocal]

theorem readGlobal_writeGlobal (w : World) (name : String) (v : Value) (a : Option Address) :
    readGlobal (writeGlobal w name v a) name a = v := by
  cases a <;> simp [readGlobal, writeGlobal, World.globalElement, World.storeGlobalElement]

end Frame

namespace Instance

/-- An instance with a variable of its own set. -/
def setVar (i : Instance) (name : String) (v : Value) : Instance :=
  { i with vars := i.vars.insert name v }

variable {name : String}

theorem store_of_not_mem (h : name ∉ fieldNames) (i : Instance) (v : Value) :
    i.store name v = i.setVar name v := by
  unfold store
  split
  · next hj => exact absurd (mem_fieldNames_of_withField? hj) h
  · rfl

theorem ne_alarm_of_own (h : IsOwnName name) : name ≠ "alarm" := by
  rintro rfl
  exact h.field (by simp [fieldNames])

theorem storeElement_of_ne (h : name ≠ "alarm") (i : Instance) (index : Int32) (v : Value) :
    i.storeElement name index v =
      i.setVar name (((i.vars.get? name).getD .zero).arraySet index v) :=
  if_neg h

theorem element_of_ne (h : name ≠ "alarm") (i : Instance) (index : Int32) :
    i.element name index = ((i.vars.get? name).getD .zero).arrayGet index := by
  unfold element
  rw [if_neg h]
  cases i.vars.get? name <;> rfl

/-- Storing an element concerns no other one. -/
theorem element_setVar_kept (h : name ≠ "alarm") (i : Instance) (v : Value) (a : Frame.Address)
    (index : Int32) :
    (i.setVar name (Frame.kept (i.vars.get? name) v (some a))).element name index =
      if index = a.index then v else i.element name index := by
  simp only [element_of_ne h, setVar, Dict.get?_insert, if_true, Option.getD_some, Frame.kept]
  split_ifs with hindex
  · rw [hindex, Value.arrayGet_arraySet_self]
  · rw [Value.arrayGet_arraySet_of_ne _ hindex]

end Instance

namespace World

/-- An access finds a value in a variable of an instance. -/
def HoldsOn (w : World) (id : Int32) (name : String) (v : Value) (a : Option Frame.Address) : Prop :=
  ∃ i x, w.instance? id = some i ∧ i.vars.get? name = some x ∧ Frame.seen x a = v

variable {w : World} {name : String} {v : Value} {a : Option Frame.Address}

theorem readOn_of_holdsOn (h : IsOwnName name) (g : Game) {id : Int32}
    (hv : w.HoldsOn id name v a) : Frame.readOn g w id name a = v := by
  obtain ⟨i, x, hi, hx, rfl⟩ := hv
  cases a with
  | some a =>
    have helement := Instance.element_of_ne (Instance.ne_alarm_of_own h) i a.index
    simp [Frame.readOn, elementOn, hi, helement, hx, Frame.seen]
  | none =>
    have hfield : i.field? name = none :=
      Option.eq_none_iff_forall_ne_some.mpr fun y hy =>
        h.field (Instance.mem_fieldNames_of_field? hy)
    have hcomputed : computed? g w i name = none :=
      Option.eq_none_iff_forall_ne_some.mpr fun y hy =>
        h.computed (mem_computedNames_of_computed? hy)
    simp only [Frame.readOn, valueOn, hi, hfield, hcomputed, hx, Frame.seen]

theorem writeOn_element (h : name ≠ "alarm") (w : World) (id : Int32) (v : Value)
    (a : Frame.Address) :
    Frame.writeOn w id name v (some a) =
      w.modify id fun i => i.setVar name (Frame.kept (i.vars.get? name) v (some a)) := by
  have hset : (fun i : Instance => i.storeElement name a.index v) = fun i =>
      i.setVar name (Frame.kept (i.vars.get? name) v (some a)) :=
    funext fun i => Instance.storeElement_of_ne h i a.index v
  rw [← hset]
  rfl

theorem writeOn_plain (hfield : name ∉ fieldNames) (hroom : name ≠ "room_persistent") (w : World)
    (id : Int32) (v : Value) :
    Frame.writeOn w id name v none = w.modify id fun i => i.setVar name v := by
  have hset : (fun i : Instance => i.store name v) = fun i => i.setVar name v :=
    funext fun i => Instance.store_of_not_mem hfield i v
  simp only [Frame.writeOn, storeOn, if_neg hroom, hset]

theorem writeOn_of_own (h : IsOwnName name) (w : World) (id : Int32) (v : Value)
    (a : Option Frame.Address) :
    Frame.writeOn w id name v a =
      w.modify id fun i => i.setVar name (Frame.kept (i.vars.get? name) v a) := by
  cases a with
  | some a => exact writeOn_element (Instance.ne_alarm_of_own h) w id v a
  | none =>
    refine writeOn_plain h.field ?_ w id v
    rintro rfl
    exact h.computed (by simp [computedNames])

theorem instance?_writeOn (h : IsOwnName name) (w : World) (id k : Int32) (v : Value)
    (a : Option Frame.Address) :
    (Frame.writeOn w id name v a).instance? k = if k = id then
      (w.instance? k).map fun i => i.setVar name (Frame.kept (i.vars.get? name) v a)
    else w.instance? k := by
  rw [writeOn_of_own h, instance?_modify]
  split_ifs with hk
  · subst hk
    apply Option.map_congr
    intro i hi
    have hid : i.id = k := Roster.id_of_get? hi
    subst hid
    rfl
  · rfl

theorem tags_writeOn (h : IsOwnName name) (w : World) (id : Int32) (v : Value)
    (a : Option Frame.Address) : (Frame.writeOn w id name v a).instances.tags = w.instances.tags := by
  rw [writeOn_of_own h]
  exact Roster.tags_modify _ id fun i => ⟨rfl, rfl⟩

theorem holdsOn_writeOn (h : IsOwnName name) {id : Int32} (hid : w.instances.contains id) :
    (Frame.writeOn w id name v a).HoldsOn id name v a := by
  obtain ⟨i, hi⟩ := Option.isSome_iff_exists.mp hid
  have hi : w.instance? id = some i := hi
  refine ⟨i.setVar name (Frame.kept (i.vars.get? name) v a), Frame.kept (i.vars.get? name) v a,
    by rw [instance?_writeOn h, if_pos rfl, hi, Option.map_some], ?_, ?_⟩
  · simp only [Instance.setVar, Dict.get?_insert, if_true]
  · exact Frame.seen_kept _ _ _

/-- A value that is found stays when it is stored somewhere else. -/
theorem HoldsOn.writeOn (h : IsOwnName name) {k : Int32} (hk : w.HoldsOn k name v a) (id : Int32) :
    (Frame.writeOn w id name v a).HoldsOn k name v a := by
  by_cases he : k = id
  · obtain ⟨i, x, hi, -⟩ := hk
    subst he
    exact holdsOn_writeOn h (Option.isSome_iff_exists.mpr ⟨i, hi⟩)
  · obtain ⟨i, x, hi, hx⟩ := hk
    exact ⟨i, x, by rw [instance?_writeOn h, if_neg he, hi], hx⟩

/-- Stores a value on several instances. -/
def writeEach (w : World) (ids : List Int32) (name : String) (v : Value) (a : Option Frame.Address) :
    World :=
  ids.foldl (fun w id => Frame.writeOn w id name v a) w

theorem tags_writeEach (h : IsOwnName name) (w : World) (ids : List Int32) (v : Value)
    (a : Option Frame.Address) : (w.writeEach ids name v a).instances.tags = w.instances.tags := by
  unfold writeEach
  induction ids generalizing w with
  | nil => rfl
  | cons id rest ih => exact (ih _).trans (tags_writeOn h w id v a)

theorem HoldsOn.writeEach (h : IsOwnName name) {k : Int32} (hk : w.HoldsOn k name v a)
    (ids : List Int32) : (w.writeEach ids name v a).HoldsOn k name v a := by
  unfold World.writeEach
  induction ids generalizing w with
  | nil => exact hk
  | cons id rest ih => exact ih (hk.writeOn h id)

theorem holdsOn_writeEach_head (h : IsOwnName name) {id : Int32} {rest : List Int32}
    (hid : w.instances.contains id) : (w.writeEach (id :: rest) name v a).HoldsOn id name v a :=
  (holdsOn_writeOn h hid).writeEach h rest

/-! ### Elements of arrays -/

theorem elementOn_writeOn (h : IsOwnName name) {k : Int32} (hk : w.instances.contains k)
    (id : Int32) (v : Value) (a : Frame.Address) (index : Int32) :
    (Frame.writeOn w id name v (some a)).elementOn k name index =
      if k = id ∧ index = a.index then v else w.elementOn k name index := by
  obtain ⟨i, hi⟩ := Option.isSome_iff_exists.mp hk
  have hi : w.instance? k = some i := hi
  unfold elementOn
  rw [instance?_writeOn h, hi]
  by_cases hid : k = id
  · subst hid
    simp only [if_true, Option.map_some, Option.getD_some, true_and,
      Instance.element_setVar_kept (Instance.ne_alarm_of_own h)]
  · simp only [hid, if_false, false_and]

theorem contains_writeOn (h : IsOwnName name) (w : World) (id k : Int32) (v : Value)
    (a : Option Frame.Address) :
    (Frame.writeOn w id name v a).instances.contains k = w.instances.contains k :=
  Roster.contains_congr (tags_writeOn h w id v a) k

theorem elementOn_writeEach (h : IsOwnName name) {k : Int32} (hk : w.instances.contains k)
    (ids : List Int32) (v : Value) (a : Frame.Address) (index : Int32) :
    (w.writeEach ids name v (some a)).elementOn k name index =
      if k ∈ ids ∧ index = a.index then v else w.elementOn k name index := by
  unfold writeEach
  induction ids generalizing w with
  | nil => simp
  | cons id rest ih =>
    rw [List.foldl_cons, ih (by rw [contains_writeOn h, hk]), elementOn_writeOn h hk]
    by_cases hindex : index = a.index
    · by_cases hid : k = id
      · simp [hindex, hid]
      · simp [hindex, hid]
    · simp [hindex]

end World

end GameRunner

import GameRunner.Proofs.Event.Ancestry
import GameRunner.Proofs.Machine.StoreLoad

/-!
# Storing through an object

A store whose selector is an object writes to every live instance of that object or of one that
descends from it. The instances are selected before the first of them is written to, and each is
written to once. Nothing else is changed: no other instance, no other variable or field, and neither
the frame, the global variables, the views nor the flags of rooms.
-/

namespace GameRunner

namespace Game

/-- An object is another one, or that stands above it at most as many links away as a lineage may
have objects. -/
def Counts (g : Game) (object kind : Int32) : Prop :=
  object = kind ∨ ∃ links ≤ maxLineage, g.Above object links kind

theorem isKindOf_iff {g : Game} {object kind : Int32} :
    g.isKindOf object kind = true ↔ g.Counts object kind := by
  rw [isKindOf, Bool.or_eq_true, decide_eq_true_eq, descends_iff, Counts]

end Game

namespace Instance

/-- One variable of an instance has been set, and nothing else has been changed. -/
structure VariableSet (name : String) (v : Value) (i j : Instance) : Prop where
  get?_eq : j.vars.get? name = some v
  others (other : String) : other ≠ name → j.vars.get? other = i.vars.get? other
  rest : j = { i with vars := j.vars }

/-- A row of the array that a variable of an instance holds. -/
def row? (i : Instance) (name : String) (row : Int32) : Option (List (Int32 × Value)) :=
  ((i.vars.get? name).bind Value.rows?).bind (findSorted? row)

/-- One element of an array variable of an instance has been set, and nothing else has been changed.
Elements are in row zero. -/
structure ElementSet (name : String) (index : Int32) (v : Value) (i j : Instance) : Prop where
  element_eq : j.element name index = v
  elements (k : Int32) : k ≠ index → j.element name k = i.element name k
  rows (row : Int32) : row ≠ 0 → j.row? name row = i.row? name row
  others (other : String) : other ≠ name → j.vars.get? other = i.vars.get? other
  rest : j = { i with vars := j.vars }

variable {name : String}

theorem variableSet_setVar (i : Instance) (name : String) (v : Value) :
    i.VariableSet name v (i.setVar name v) where
  get?_eq := by simp [setVar]
  others other h := by simp [setVar, Dict.get?_insert, h]
  rest := rfl

theorem row?_setVar_kept (i : Instance) (v : Value) (a : Frame.Address) {row : Int32}
    (hrow : row ≠ 0) :
    (i.setVar name (Frame.kept (i.vars.get? name) v (some a))).row? name row = i.row? name row := by
  simp only [row?, setVar, Dict.get?_insert, if_true, Option.bind_some, Frame.kept, Value.arraySet,
    Value.rows?, findSorted?_insertSorted_of_ne hrow]
  cases i.vars.get? name with
  | none => rfl
  | some x => cases x <;> rfl

theorem elementSet_setVar (h : name ≠ "alarm") (i : Instance) (a : Frame.Address) (v : Value) :
    i.ElementSet name a.index v
      (i.setVar name (Frame.kept (i.vars.get? name) v (some a))) where
  element_eq := by rw [element_setVar_kept h, if_pos rfl]
  elements k hk := by rw [element_setVar_kept h, if_neg hk]
  rows row hrow := row?_setVar_kept i v a hrow
  others other hother := by simp [setVar, Dict.get?_insert, hother]
  rest := rfl

end Instance

namespace World

variable {g : Game} {w : World} {object : Int32} {ids : List Int32} {f : Instance → Instance}

/-- Every live instance that counts as one of an object has been changed, and nothing else. -/
structure ChangedOnKind (g : Game) (w : World) (object : Int32)
    (Changed : Instance → Instance → Prop) (v : World) : Prop where
  meant (id : Int32) (i : Instance) : w.instance? id = some i → i.live = true →
    g.Counts i.objectIndex object → ∃ j, v.instance? id = some j ∧ Changed i j
  others (id : Int32) (i : Instance) : w.instance? id = some i →
    ¬ (i.live = true ∧ g.Counts i.objectIndex object) → v.instance? id = some i
  ids : v.instances.ids = w.instances.ids
  rest : v = { w with instances := v.instances }

/-- Changes several instances one after the other. -/
def modifyEach (w : World) (ids : List Int32) (f : Instance → Instance) : World :=
  ids.foldl (fun w id => w.modify id f) w

theorem ids_modifyEach (w : World) (ids : List Int32) (f : Instance → Instance) :
    (w.modifyEach ids f).instances.ids = w.instances.ids := by
  unfold modifyEach
  induction ids generalizing w with
  | nil => rfl
  | cons id rest ih => exact (ih _).trans (Roster.ids_modify _ _ _)

theorem modifyEach_eq (w : World) (ids : List Int32) (f : Instance → Instance) :
    w.modifyEach ids f = { w with instances := (w.modifyEach ids f).instances } := by
  unfold modifyEach
  induction ids generalizing w with
  | nil => rfl
  | cons id rest ih => exact ih _

/-- Each of some different instances is changed once. -/
theorem instance?_modifyEach (hids : ids.Nodup) (k : Int32) :
    (w.modifyEach ids f).instance? k =
      if k ∈ ids then (w.instance? k).map fun i => { f i with id := k } else w.instance? k := by
  unfold modifyEach
  induction ids generalizing w with
  | nil => rfl
  | cons id rest ih =>
    obtain ⟨hid, hrest⟩ := List.nodup_cons.mp hids
    rw [List.foldl_cons, ih hrest, instance?_modify]
    by_cases hk : k = id
    · subst hk
      rw [if_neg hid, if_pos rfl, if_pos List.mem_cons_self]
    · rw [if_neg hk]
      simp only [List.mem_cons, hk, false_or]

theorem mem_ofKind_iff {id : Int32} {i : Instance} (hi : w.instance? id = some i) :
    id ∈ w.ofKind g object ↔ i.live = true ∧ g.Counts i.objectIndex object := by
  have hid : i.id = id := Roster.id_of_get? hi
  rw [← Game.isKindOf_iff]
  constructor
  · intro hmem
    obtain ⟨j, hj, hjid⟩ := List.mem_map.mp hmem
    obtain ⟨hj, hkind⟩ := List.mem_filter.mp hj
    obtain ⟨hj, hlive⟩ := List.mem_filter.mp hj
    cases (hjid ▸ instance?_of_mem hj).symm.trans hi
    exact ⟨hlive, hkind⟩
  · rintro ⟨hlive, hkind⟩
    have hmem : i ∈ w.instances.live := List.mem_filter.mpr ⟨List.mem_of_find?_eq_some hi, hlive⟩
    exact hid ▸ List.mem_map_of_mem (List.mem_filter.mpr ⟨hmem, hkind⟩)

theorem nodup_ofKind (g : Game) (w : World) (object : Int32) : (w.ofKind g object).Nodup :=
  w.instances.nodup.sublist ((List.filter_sublist.trans List.filter_sublist).map _)

theorem changedOnKind_modifyEach {Changed : Instance → Instance → Prop}
    (hf : ∀ i, Changed i (f i)) (hid : ∀ i, (f i).id = i.id) (g : Game) (w : World)
    (object : Int32) :
    w.ChangedOnKind g object Changed (w.modifyEach (w.ofKind g object) f) where
  meant id i hi hlive hcounts := by
    refine ⟨f i, ?_, hf i⟩
    have hkeep : { f i with id := id } = f i := by
      rw [← Roster.id_of_get? hi, ← hid i]
    rw [instance?_modifyEach (nodup_ofKind g w object),
      if_pos ((mem_ofKind_iff hi).mpr ⟨hlive, hcounts⟩), hi, Option.map_some, hkeep]
  others id i hi hnot := by
    rw [instance?_modifyEach (nodup_ofKind g w object), if_neg (mt (mem_ofKind_iff hi).mp hnot), hi]
  ids := ids_modifyEach w _ f
  rest := modifyEach_eq w _ f

/-- Numbers below the ids of instances name objects. -/
theorem select_of_object (hlow : 0 ≤ object) (hhigh : object < firstInstanceId) (g : Game)
    (w : World) (self other : Int32) : w.select g object self other = w.ofKind g object := by
  have hne (k : Int32) (hk : k < 0) : object ≠ k := by
    rintro rfl
    exact Int32.not_le.mpr hk hlow
  unfold select
  rw [if_neg (hne _ (by decide)), if_neg (hne _ (by decide)), if_neg (hne _ (by decide)),
    if_neg (Int32.not_le.mpr hhigh), if_pos hlow]

end World

namespace Frame

variable {g : Game} {w : World} {f : Frame} {i : Instruction} {var : Variable} {object : Int32}

theorem writeInstances_of_object (hlow : 0 ≤ object) (hhigh : object < firstInstanceId)
    {name : String} {v : Value} {a : Option Address} {change : Instance → Instance}
    (hwrite : ∀ (w : World) (id : Int32), writeOn w id name v a = w.modify id change) :
    f.writeInstances g w name object v a = w.modifyEach (w.ofKind g object) change := by
  rw [writeInstances, if_pos hlow, World.select_of_object hlow hhigh]
  simp only [hwrite]
  rfl

/-- The sixteen bits of an instance field never reach the ids of instances. -/
theorem instanceField_names_object (h : 0 < i.extra) :
    0 ≤ i.instanceField ∧ i.instanceField < firstInstanceId := by
  have hpos : (0 : Int16).toInt < i.extra.toInt := Int16.lt_iff_toInt_lt.mp h
  have hlt := i.extra.toInt_lt
  have hfield : i.instanceField.toInt = i.extra.toInt := Int16.toInt_toInt32 _
  have hfirst : firstInstanceId.toInt = 100000 := rfl
  rw [Int32.le_iff_toInt_le, Int32.lt_iff_toInt_lt, hfield, hfirst]
  exact ⟨hpos.le, by omega⟩

/-- A plain store whose instance field is an object. -/
theorem write_plain_of_object (hvar : tableAt? g.variableTable i.variableIndex = some var)
    (hkind : i.refKind = RefKind.normal) (hobject : 0 < i.extra) (hfield : var.name ∉ fieldNames)
    (hroom : var.name ≠ "room_persistent") (v : Value) (rest : List Value) :
    ({ f with stack := v :: rest } : Frame).write g w i = ({ f with stack := rest },
      w.modifyEach (w.ofKind g i.instanceField) fun j => j.setVar var.name v) := by
  have hpop : ({ f with stack := v :: rest } : Frame).popAddress i =
      (none, { f with stack := v :: rest }) := by
    simp [popAddress, Instruction.isArrayAccess, hkind, RefKind.normal, RefKind.array]
  have hstack : ¬ i.isStackTopAccess = true := by
    simp [Instruction.isStackTopAccess, hkind, RefKind.normal, RefKind.stackTop]
  have hsel : selector i var none = i.instanceField := by
    have hne : i.extra ≠ 0 := fun h => absurd (h ▸ hobject) (by decide)
    exact if_pos hne
  obtain ⟨hlow, hhigh⟩ := instanceField_names_object hobject
  have hne (k : Int32) (hk : k < 0) : i.instanceField ≠ k := by
    rintro rfl
    exact Int32.not_le.mpr hk hlow
  rw [write_of_selector hvar hpop hstack, hsel, if_neg (hne _ (by decide)),
    if_neg (hne _ (by decide)), if_neg (hne _ (by decide))]
  refine Prod.ext rfl ?_
  exact writeInstances_of_object hlow hhigh fun w id => World.writeOn_plain hfield hroom w id v

/-- A store to an element whose target is an object. -/
theorem write_element_of_object (hvar : tableAt? g.variableTable i.variableIndex = some var)
    (hkind : i.refKind = RefKind.array) (hinstance : i.instanceField ≠ Selector.stackTop)
    (halarm : var.name ≠ "alarm") (hview : var.name ∉ viewNames) {index target : Value}
    (hlow : 0 ≤ target.toInt) (hhigh : target.toInt < firstInstanceId) (v : Value)
    (rest : List Value) :
    ({ f with stack := index :: target :: v :: rest } : Frame).write g w i =
      ({ f with stack := rest }, w.modifyEach (w.ofKind g target.toInt) fun j =>
        j.setVar var.name (kept (j.vars.get? var.name) v (some ⟨index.toInt, target.toInt⟩))) := by
  have hpop : ({ f with stack := index :: target :: v :: rest } : Frame).popAddress i =
      (some ⟨index.toInt, target.toInt⟩, { f with stack := v :: rest }) := by
    simp [popAddress, Instruction.isArrayAccess, hkind, top, drop]
  have hstack : ¬ i.isStackTopAccess = true := by
    simp [Instruction.isStackTopAccess, hkind, RefKind.array, RefKind.stackTop]
  have hsel : selector i var (some ⟨index.toInt, target.toInt⟩) = target.toInt := rfl
  have hne (k : Int32) (hk : k < 0) : target.toInt ≠ k := by
    intro he
    exact Int32.not_le.mpr hk (he ▸ hlow)
  rw [write_of_selector hvar hpop hstack, hsel, if_neg (hne _ (by decide)),
    if_neg (hne _ (by decide)), if_neg hinstance, writeThrough_of_not_mem hview]
  refine Prod.ext rfl ?_
  exact writeInstances_of_object hlow hhigh fun w id => World.writeOn_element halarm w id v _

end Frame

namespace Machine

/-- Storing through an object writes to every live instance that counts as one of the object, and to
nothing else: a plain store whose instance field is the object, and a store to an element whose
target on the stack is the object. -/
theorem store_reaches_kind (exec : Exec) (s : Setup) (f : Frame) (w : World) (i : Instruction)
    (var : Variable) (v : Value) (rest : List Value) (hop : i.op? = some .pop)
    (hvar : tableAt? s.game.variableTable i.variableIndex = some var) :
    (i.refKind = RefKind.normal → 0 < i.extra → var.name ∉ fieldNames →
      var.name ≠ "room_persistent" →
      ∃ u, step exec s i { f with stack := v :: rest } w =
          some (.ok .next, { f with stack := rest }, u) ∧
        w.ChangedOnKind s.game i.instanceField (Instance.VariableSet var.name v) u) ∧
    (∀ index target : Value, i.refKind = RefKind.array → i.instanceField ≠ Selector.stackTop →
      0 ≤ target.toInt → target.toInt < firstInstanceId → var.name ≠ "alarm" →
      var.name ∉ viewNames →
      ∃ u, step exec s i { f with stack := index :: target :: v :: rest } w =
          some (.ok .next, { f with stack := rest }, u) ∧
        w.ChangedOnKind s.game target.toInt (Instance.ElementSet var.name index.toInt v) u) := by
  constructor
  · intro hkind hobject hfield hroom
    refine ⟨_, ?_, World.changedOnKind_modifyEach (fun j => j.variableSet_setVar var.name v)
      (fun j => rfl) s.game w i.instanceField⟩
    rw [step_pop hop, Frame.write_plain_of_object hvar hkind hobject hfield hroom]
  · intro index target hkind hinstance hlow hhigh halarm hview
    refine ⟨_, ?_, World.changedOnKind_modifyEach
      (fun j => j.elementSet_setVar halarm ⟨index.toInt, target.toInt⟩ v) (fun j => rfl) s.game w
      target.toInt⟩
    rw [step_pop hop,
      Frame.write_element_of_object hvar hkind hinstance halarm hview hlow hhigh]

/-- Objects of three generations, the eldest first, and one of another family. -/
def generations : Setup where
  game :=
    { objects := #[{}, {}, { parent := 1 }, { parent := 2 }]
      variableTable := #[⟨"a", Selector.self, 0, 0, 0⟩] }
  program := { code := #[], references := ⟨[], []⟩, scripts := .empty }
  settings := {}

/-- The eldest, two of the youngest of whom one is destroyed, and a stranger. -/
def gathering : World where
  instances := ⟨[.create 100001 1 0 0, .create 100002 3 0 0,
    { Instance.create 100003 3 0 0 with destroyed := true }, .create 100004 0 0 0], by decide⟩
  nextId := 100005
  generator := .ofSeed 1

/-- A stranger stores in a variable and in an element of the eldest and all descendants. -/
theorem store_reaches_generations :
    (∃ u, step (fun _ _ _ _ => none) generations (accessTo 0 .pop 1 RefKind.normal)
        { Frame.start 0 100004 100004 with stack := [.ofInt 7, .one] } gathering =
          some (.ok .next, { Frame.start 0 100004 100004 with stack := [.one] }, u) ∧
      gathering.ChangedOnKind generations.game 1 (Instance.VariableSet "a" (.ofInt 7)) u) ∧
    (∃ u, step (fun _ _ _ _ => none) generations (accessTo 0 .pop Selector.self RefKind.array)
        { Frame.start 0 100004 100004 with stack := [.ofInt 2, .ofInt 1, .str "here"] } gathering =
          some (.ok .next, { Frame.start 0 100004 100004 with stack := [] }, u) ∧
      gathering.ChangedOnKind generations.game 1 (Instance.ElementSet "a" 2 (.str "here")) u) ∧
    generations.game.Counts 1 1 ∧ generations.game.Counts 3 1 ∧ ¬ generations.game.Counts 0 1 := by
  refine ⟨?_, ?_, Game.isKindOf_iff.mp (by decide), Game.isKindOf_iff.mp (by decide),
    mt Game.isKindOf_iff.mpr (by decide)⟩
  · exact (store_reaches_kind _ generations _ gathering (accessTo 0 .pop 1 RefKind.normal)
      ⟨"a", Selector.self, 0, 0, 0⟩ (.ofInt 7) [.one] (by decide +kernel) rfl).1 (by decide +kernel)
      (by decide +kernel) (by decide) (by decide)
  · exact (store_reaches_kind _ generations _ gathering
      (accessTo 0 .pop Selector.self RefKind.array) ⟨"a", Selector.self, 0, 0, 0⟩ (.str "here") []
      (by decide +kernel) rfl).2 (.ofInt 2) (.ofInt 1) (by decide +kernel) (by decide +kernel)
      (by decide +kernel) (by decide +kernel) (by decide) (by decide)

end Machine

end GameRunner

import GameRunner.Instance.Basic

/-!
# The roster of instances

All instances, in the order in which they were created. Each has an id of its own, by which it is
found. An instance added under an id that is taken replaces the other one in its place.
-/

namespace GameRunner

/-- The instances by order of creation. -/
structure Roster where
  toList : List Instance
  nodup : (toList.map (·.id)).Nodup

namespace Roster

/-- No instances. -/
def empty : Roster := ⟨[], List.nodup_nil⟩

instance : Inhabited Roster := ⟨empty⟩

/-- Adding to a list of instances: in place of the one with the same id, else at the end. -/
def insertList (i : Instance) : List Instance → List Instance
  | [] => [i]
  | j :: rest => if j.id = i.id then i :: rest else j :: insertList i rest

theorem mem_ids_insertList {i : Instance} {l : List Instance} {id : Int32} :
    id ∈ (insertList i l).map (·.id) ↔ id = i.id ∨ id ∈ l.map (·.id) := by
  induction l with
  | nil => simp [insertList]
  | cons j rest ih =>
    unfold insertList
    split
    · next h => simp [h]
    · simp only [List.map_cons, List.mem_cons, ih]
      constructor
      · rintro (h | h | h)
        · exact Or.inr (Or.inl h)
        · exact Or.inl h
        · exact Or.inr (Or.inr h)
      · rintro (h | h | h)
        · exact Or.inr (Or.inl h)
        · exact Or.inl h
        · exact Or.inr (Or.inr h)

theorem nodup_insertList {i : Instance} {l : List Instance} (h : (l.map (·.id)).Nodup) :
    ((insertList i l).map (·.id)).Nodup := by
  induction l with
  | nil => simp [insertList]
  | cons j rest ih =>
    simp only [List.map_cons, List.nodup_cons] at h
    unfold insertList
    split
    · next hj =>
      simp only [List.map_cons, List.nodup_cons]
      exact ⟨hj ▸ h.1, h.2⟩
    · next hj =>
      simp only [List.map_cons, List.nodup_cons, mem_ids_insertList, not_or]
      exact ⟨⟨hj, h.1⟩, ih h.2⟩

/-- The instance with an id. -/
def get? (r : Roster) (id : Int32) : Option Instance :=
  r.toList.find? fun i => i.id = id

/-- Whether there is an instance with an id. -/
def contains (r : Roster) (id : Int32) : Bool := (r.get? id).isSome

/-- Adds an instance. -/
def insert (r : Roster) (i : Instance) : Roster :=
  ⟨insertList i r.toList, nodup_insertList r.nodup⟩

/-- Changes every instance; ids stay as they are. -/
def map (r : Roster) (f : Instance → Instance) : Roster where
  toList := r.toList.map fun i => { f i with id := i.id }
  nodup := by simpa [List.map_map, Function.comp_def] using r.nodup

/-- Changing the instance with an id in a list; its id stays as it is. -/
def modifyList (id : Int32) (f : Instance → Instance) : List Instance → List Instance
  | [] => []
  | j :: rest => if j.id = id then { f j with id } :: rest else j :: modifyList id f rest

theorem ids_modifyList (id : Int32) (f : Instance → Instance) (l : List Instance) :
    (modifyList id f l).map (·.id) = l.map (·.id) := by
  induction l with
  | nil => rfl
  | cons j rest ih =>
    unfold modifyList
    split
    · next h => simp [h]
    · simp [ih]

/-- Changes the instance with an id. -/
def modify (r : Roster) (id : Int32) (f : Instance → Instance) : Roster where
  toList := modifyList id f r.toList
  nodup := ids_modifyList id f r.toList ▸ r.nodup

/-- Keeps the instances that satisfy a predicate. -/
def filter (r : Roster) (p : Instance → Bool) : Roster :=
  ⟨r.toList.filter p, r.nodup.sublist (List.filter_sublist.map _)⟩

/-- The ids of all instances. -/
def ids (r : Roster) : List Int32 := r.toList.map (·.id)

/-- The live instances. -/
def live (r : Roster) : List Instance := r.toList.filter Instance.live

/-- The ids of the live instances. -/
def liveIds (r : Roster) : List Int32 := r.live.map (·.id)

/-- Whether there is a live instance with an id. -/
def isLive (r : Roster) (id : Int32) : Bool :=
  match r.get? id with
  | some i => i.live
  | none => false

/-- An instance found under an id has that id. -/
theorem id_of_get? {r : Roster} {id : Int32} {i : Instance} (h : r.get? id = some i) :
    i.id = id := by
  simpa using List.find?_some h

@[simp] theorem ids_map (r : Roster) (f : Instance → Instance) : (r.map f).ids = r.ids := by
  simp [ids, map, List.map_map, Function.comp_def]

@[simp] theorem ids_modify (r : Roster) (id : Int32) (f : Instance → Instance) :
    (r.modify id f).ids = r.ids :=
  ids_modifyList id f r.toList

end Roster

end GameRunner

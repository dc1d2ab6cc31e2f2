/-!
# Insertion-ordered dictionaries

A dictionary lists its entries in the order in which their keys were first inserted. Storing under a
key that is present replaces the value in its old place; removing a key closes the gap. No key
occurs twice.
-/

namespace GameRunner

/-- A finite map that remembers the order of insertion. -/
structure Dict (κ : Type u) (α : Type v) where
  entries : List (κ × α)
  nodup : (entries.map Prod.fst).Nodup

namespace Dict

variable {κ : Type u} {α : Type v} [DecidableEq κ]

/-- Storing into a list of entries: in place if the key occurs, else at the end. -/
def insertEntry (k : κ) (a : α) : List (κ × α) → List (κ × α)
  | [] => [(k, a)]
  | e :: rest => if e.1 = k then (k, a) :: rest else e :: insertEntry k a rest

theorem mem_keys_insertEntry {k k' : κ} {a : α} {l : List (κ × α)} :
    k' ∈ (insertEntry k a l).map Prod.fst ↔ k' = k ∨ k' ∈ l.map Prod.fst := by
  induction l with
  | nil => simp [insertEntry]
  | cons e rest ih =>
    unfold insertEntry
    split
    · next h => subst h; simp
    · simp only [List.map_cons, List.mem_cons, ih]
      constructor
      · rintro (h | h | h)
        · exact Or.inr (Or.inl h)
        · exact Or.inl h
        · exact Or.inr (Or.inr h)
      · rintro (h | h | h)
        · exact Or.inr (Or.inl h)
        · exact Or.inl h
        · exact Or.inr (Or.inr h)

theorem nodup_insertEntry {k : κ} {a : α} {l : List (κ × α)} (h : (l.map Prod.fst).Nodup) :
    ((insertEntry k a l).map Prod.fst).Nodup := by
  induction l with
  | nil => simp [insertEntry]
  | cons e rest ih =>
    simp only [List.map_cons, List.nodup_cons] at h
    unfold insertEntry
    split
    · next he => subst he; simpa using h
    · next he =>
      simp only [List.map_cons, List.nodup_cons, mem_keys_insertEntry, not_or]
      exact ⟨⟨he, h.1⟩, ih h.2⟩

/-- The dictionary without entries. -/
def empty : Dict κ α := ⟨[], List.nodup_nil⟩

instance : Inhabited (Dict κ α) := ⟨empty⟩

/-- The value stored under a key. -/
def get? (d : Dict κ α) (k : κ) : Option α :=
  (d.entries.find? fun e => e.1 = k).map Prod.snd

/-- Whether a key is present. -/
def contains (d : Dict κ α) (k : κ) : Bool :=
  (d.get? k).isSome

/-- Stores a value: in place if the key is present, else at the end. -/
def insert (d : Dict κ α) (k : κ) (a : α) : Dict κ α :=
  ⟨insertEntry k a d.entries, nodup_insertEntry d.nodup⟩

/-- Removes a key; later entries keep their order. -/
def erase (d : Dict κ α) (k : κ) : Dict κ α :=
  ⟨d.entries.filter fun e => e.1 ≠ k, d.nodup.sublist (List.filter_sublist.map Prod.fst)⟩

/-- Stores a value, or removes the key if there is none. -/
def put (d : Dict κ α) (k : κ) : Option α → Dict κ α
  | some a => d.insert k a
  | none => d.erase k

/-- The keys in order. -/
def keys (d : Dict κ α) : List κ := d.entries.map Prod.fst

/-- The number of entries. -/
def size (d : Dict κ α) : Nat := d.entries.length

/-- Inserts pairs from the left; of two with one key the later value stays. -/
def ofList (l : List (κ × α)) : Dict κ α :=
  l.foldl (fun d e => d.insert e.1 e.2) empty

theorem find?_insertEntry (k k' : κ) (a : α) (l : List (κ × α)) :
    ((insertEntry k a l).find? fun e => e.1 = k').map Prod.snd =
      if k' = k then some a else (l.find? fun e => e.1 = k').map Prod.snd := by
  induction l with
  | nil =>
    by_cases h : k' = k
    · simp [insertEntry, h]
    · simp [insertEntry, h, Ne.symm h]
  | cons e rest ih =>
    unfold insertEntry
    by_cases he : e.1 = k
    · by_cases h : k' = k
      · simp [he, h]
      · have hk : ¬ k = k' := fun x => h x.symm
        simp [he, h, hk]
    · by_cases h : e.1 = k'
      · have hk : ¬ k' = k := fun x => he (h.trans x)
        simp [h, hk]
      · simp only [he, if_false, List.find?_cons, h, decide_false]
        exact ih

/-- Reading after storing gives the value stored, and other keys are as before. -/
@[simp] theorem get?_insert (d : Dict κ α) (k k' : κ) (a : α) :
    (d.insert k a).get? k' = if k' = k then some a else d.get? k' :=
  find?_insertEntry k k' a d.entries

/-- A removed key is absent, and other keys are as before. -/
@[simp] theorem get?_erase (d : Dict κ α) (k k' : κ) :
    (d.erase k).get? k' = if k' = k then none else d.get? k' := by
  unfold get? erase
  by_cases h : k' = k
  · subst h
    have : (d.entries.filter fun e => e.1 ≠ k').find? (fun e => decide (e.1 = k')) = none := by
      rw [List.find?_eq_none]
      intro e he
      simpa using (List.mem_filter.mp he).2
    simp only [this, if_true, Option.map_none]
  · rw [List.find?_filter]
    simp only [h, if_false]
    congr 2
    funext e
    by_cases he : e.1 = k'
    · subst he; simp [h]
    · simp [he]

@[simp] theorem get?_empty (k : κ) : (empty : Dict κ α).get? k = none := rfl

end Dict

end GameRunner

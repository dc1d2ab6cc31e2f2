/-!
# Sets of keys

A set of key codes in the order in which they were added, without repetition.
-/

namespace GameRunner

/-- A set of keys that remembers the order of insertion. -/
structure KeySet where
  toList : List Int32
  nodup : toList.Nodup

namespace KeySet

/-- No keys. -/
def empty : KeySet := ⟨[], List.nodup_nil⟩

instance : Inhabited KeySet := ⟨empty⟩

/-- Whether there are no keys. -/
def isEmpty (s : KeySet) : Bool := s.toList.isEmpty

/-- Whether a key is in the set. -/
def contains (s : KeySet) (k : Int32) : Bool := s.toList.contains k

theorem nodup_concat {l : List Int32} {k : Int32} (h : l.Nodup) (hk : k ∉ l) :
    (l ++ [k]).Nodup := by
  rw [List.nodup_append]
  refine ⟨h, by simp, ?_⟩
  rintro a ha b hb rfl
  exact hk (by simpa [List.mem_singleton.mp hb] using ha)

/-- Adds a key at the end, unless it is there already. -/
def insert (s : KeySet) (k : Int32) : KeySet :=
  if h : k ∈ s.toList then s else ⟨s.toList ++ [k], nodup_concat s.nodup h⟩

/-- Removes a key; the others keep their order. -/
def erase (s : KeySet) (k : Int32) : KeySet :=
  ⟨s.toList.filter (· ≠ k), s.nodup.sublist List.filter_sublist⟩

/-- The keys of a list, each at its first place. -/
def ofList (keys : List Int32) : KeySet := keys.foldl insert empty

/-- The keys that are not in another set. -/
def difference (s t : KeySet) : KeySet :=
  ⟨s.toList.filter fun k => !t.contains k, s.nodup.sublist List.filter_sublist⟩

/-- The key added last. -/
def last? (s : KeySet) : Option Int32 := s.toList.getLast?

@[simp] theorem mem_insert (s : KeySet) (k k' : Int32) :
    k' ∈ (s.insert k).toList ↔ k' ∈ s.toList ∨ k' = k := by
  unfold insert
  split
  · next h => exact ⟨Or.inl, fun h' => h'.elim id fun e => e ▸ h⟩
  · simp

@[simp] theorem mem_erase (s : KeySet) (k k' : Int32) :
    k' ∈ (s.erase k).toList ↔ k' ∈ s.toList ∧ k' ≠ k := by
  simp [erase]

@[simp] theorem mem_difference (s t : KeySet) (k : Int32) :
    k ∈ (s.difference t).toList ↔ k ∈ s.toList ∧ k ∉ t.toList := by
  simp [difference, contains]

end KeySet

end GameRunner

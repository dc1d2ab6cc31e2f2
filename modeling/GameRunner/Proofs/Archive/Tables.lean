import GameRunner.Proofs.Archive.Standing

/-!
# Lists of blocks in their places

A list of blocks is read back through its pointers, which lead to the places of the blocks. Blocks
of one size that stand in a row are found by counting.
-/

namespace GameRunner.Archive

namespace Block

variable {b : ByteArray} {pos n : Nat} {items : List Block}

/-- Where blocks of one size start. -/
theorem positions_eq_map (h : ∀ k ∈ items, k.size = n) (pos : Nat) :
    positions pos items = (List.range items.length).map fun i => pos + n * i := by
  induction items generalizing pos with
  | nil => rfl
  | cons k rest ih =>
    obtain ⟨hk, hrest⟩ := List.forall_mem_cons.mp h
    rw [positions, ih hrest, hk, List.length_cons, List.range_succ_eq_map, List.map_cons,
      List.map_map]
    congr 1
    apply List.map_congr_left
    intro i _
    simp only [Function.comp_apply, Nat.succ_eq_add_one]
    ring

theorem size_concat (h : ∀ k ∈ items, k.size = n) : (concat items).size = n * items.length := by
  induction items with
  | nil => rfl
  | cons k rest ih =>
    obtain ⟨hk, hrest⟩ := List.forall_mem_cons.mp h
    rw [concat_cons, size_append, hk, ih hrest, List.length_cons]
    ring

theorem size_list (items : List Block) :
    (list items).size = 4 + 4 * items.length + (concat items).size := rfl

namespace StandsIn

/-- Blocks in a row stand where the sizes of those before them say. -/
theorem concat (h : (concat items).StandsIn b pos) :
    List.Forall₂ (fun k p => k.StandsIn b p) items (positions pos items) := by
  induction items generalizing pos with
  | nil => exact .nil
  | cons k rest ih =>
    obtain ⟨hk, hrest⟩ := append_iff.mp h
    exact .cons hk (ih hrest)

/-- Records of one size in a row, read one after the other. -/
theorem mapM_range {m : Type → Type} [Monad m] [LawfulMonad m] {α β : Type} {f : Nat → m β}
    {block : α → Block} {g : α → β} {l : List α} (h : (Block.concat (l.map block)).StandsIn b pos)
    (hsize : ∀ x ∈ l, (block x).size = n)
    (hf : ∀ x ∈ l, ∀ p, (block x).StandsIn b p → f p = pure (g x)) :
    (List.range l.length).mapM (fun i => f (pos + i * n)) = pure (l.map g) := by
  have hsize : ∀ k ∈ l.map block, k.size = n := List.forall_mem_map.mpr hsize
  obtain ⟨-, hget⟩ := List.forall₂_iff_get.mp h.concat
  refine mapM_range_eq_pure (by simp) fun i hi => ?_
  rw [List.length_map] at hi
  have hi := hget i (by simpa) (by simpa)
  simp only [positions_eq_map hsize, List.get_eq_getElem, List.getElem_map,
    List.getElem_range] at hi
  rw [List.getElem_map]
  exact hf _ (List.getElem_mem _) _ (by rwa [Nat.mul_comm])

/-- Before records of one size in a row stands how many they are. -/
theorem counted {α : Type} {block : α → Block} {l : List α}
    (h : (nat l.length ++ Block.concat (l.map block)).StandsIn b pos)
    (hsize : ∀ x ∈ l, (block x).size = n) (hn : 0 < n) (hb : b.size < 2 ^ 31) :
    Archive.natAt b pos = .ok l.length ∧
      ∃ bytes, Archive.bytesAt b (pos + 4) (l.length * n) = .ok bytes := by
  have hsize : ∀ k ∈ l.map block, k.size = n := List.forall_mem_map.mpr hsize
  obtain ⟨hcount, hrecords⟩ := append_iff.mp h
  have hle := hrecords.le_size
  have hbytes := hrecords.bytesAt_size
  rw [size_concat hsize, List.length_map] at hle hbytes
  rw [Nat.mul_comm] at hbytes
  have hlength : l.length ≤ n * l.length := Nat.le_mul_of_pos_left _ hn
  exact ⟨hcount.natAt (by omega), _, hbytes⟩

theorem pointerBytes {pointers : List Nat} (h : Stands b pos (pointerBytes pointers)) {i : Nat}
    (hi : i < pointers.length) :
    Stands b (pos + 4 * i) (Bytes.ofWord (UInt32.ofNat pointers[i])) := by
  induction pointers generalizing pos i with
  | nil => simp at hi
  | cons p rest ih =>
    obtain ⟨hp, hrest⟩ := Stands.append_iff.mp h
    cases i with
    | zero => exact hp
    | succ i =>
      have hnext := ih hrest (i := i) (by simpa using hi)
      rw [Bytes.length_ofWord] at hnext
      rw [show pos + 4 * (i + 1) = pos + 4 + 4 * i by ring]
      exact hnext

/-- A list of blocks is read as the pointers to their places. -/
theorem list (h : (list items).StandsIn b pos) (hb : b.size < 2 ^ 31) :
    pointerList b pos = .ok (positions (pos + 4 + 4 * items.length) items) ∧
      List.Forall₂ (fun k p => k.StandsIn b p) items
        (positions (pos + 4 + 4 * items.length) items) := by
  obtain ⟨hhead, hitems⟩ := Stands.append_iff.mp h
  obtain ⟨hcount, hpointers⟩ := Stands.append_iff.mp hhead
  rw [List.length_append, Bytes.length_ofWord, length_pointerBytes, length_positions,
    ← Nat.add_assoc] at hitems
  rw [Bytes.length_ofWord] at hpointers
  have hlength := hpointers.le_size
  rw [length_pointerBytes, length_positions] at hlength
  have hitems : List.Forall₂ _ items _ := concat (b := b) hitems
  refine ⟨?_, hitems⟩
  have hcount : Archive.natAt b pos = .ok items.length :=
    natAt (n := items.length) hcount (by omega)
  have hslice := bytesAt (l := Block.pointerBytes _) hpointers
  rw [length_pointerBytes, length_positions, Nat.mul_comm] at hslice
  simp only [pointerList, hcount, hslice, ok_bind]
  refine mapM_range_eq_pure (by simp) fun i hi => ?_
  have hword := pointerBytes hpointers hi
  rw [Nat.mul_comm]
  apply natAt (n := _) hword
  -- The pointer leads to a block inside the archive.
  have hblock := ((List.forall₂_iff_get.mp hitems).2 i (by simpa using hi) hi).le_size
  simp only [List.get_eq_getElem] at hblock
  omega

theorem list_nil (h : (Block.list []).StandsIn b pos) (hb : b.size < 2 ^ 31) :
    pointerList b pos = .ok [] := (h.list hb).1

end StandsIn

/-- The records behind a list of pointers, read one after the other. -/
theorem StandsIn.exists_pointers {m : Type → Type} [Monad m] [LawfulMonad m] {α β : Type}
    {f : Nat → m β} {block : α → Block} {g : α → β} {l : List α}
    (h : (Block.list (l.map block)).StandsIn b pos) (hb : b.size < 2 ^ 31)
    (hf : ∀ x ∈ l, ∀ p, (block x).StandsIn b p → f p = pure (g x)) :
    ∃ pointers, pointerList b pos = .ok pointers ∧ pointers.mapM f = pure (l.map g) := by
  obtain ⟨hpointers, hitems⟩ := h.list hb
  refine ⟨_, hpointers, mapM_eq_pure ?_⟩
  obtain ⟨hlength, hget⟩ := List.forall₂_iff_get.mp hitems
  refine List.forall₂_iff_get.mpr ⟨by simp, fun i hi hi' => ?_⟩
  rw [List.length_map] at hi'
  simpa using hf l[i] (List.getElem_mem hi') _ (by simpa using hget i (by simpa using hi') hi)

/-- A table of records that pointers lead to. -/
theorem StandsIn.gives_table {α β : Type} {f : Nat → Load β} {block : α → Block} {g : α → β}
    {l : List α} (h : (Block.list (l.map block)).StandsIn b pos) (hb : b.size < 2 ^ 31)
    (hf : ∀ x ∈ l, ∀ p, (block x).StandsIn b p → f p = pure (g x))
    (line : List β → Unit → String) :
    Load.Gives (do
      let found ← (← pointerList b pos).mapM f
      note .debug (line found)
      return found) (l.map g) := by
  obtain ⟨pointers, hpointers, hrecords⟩ := h.exists_pointers hb hf
  refine .bind (.lift hpointers) ?_
  rw [hrecords, pure_bind]
  exact .bind (.note _ _) (.pure _)

end Block

end GameRunner.Archive

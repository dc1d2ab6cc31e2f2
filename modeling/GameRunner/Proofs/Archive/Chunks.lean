import GameRunner.Archive.Chunk
import GameRunner.Proofs.Archive.Tables

/-!
# Chunks in their places

A row of chunks is read back as where the data of each chunk lies, and each chunk is found by its
tag if no two tags are the same.
-/

namespace GameRunner.Archive

namespace Block

theorem ext_bytes {j k : Block} (h : ∀ pos, j.bytes pos = k.bytes pos) : j = k := by
  obtain ⟨size, bytes, hlength⟩ := j
  obtain ⟨size', bytes', hlength'⟩ := k
  obtain rfl : bytes = bytes' := funext h
  obtain rfl : size = size' := (hlength 0).symm.trans (hlength' 0)
  rfl

theorem append_assoc (j k l : Block) : j ++ k ++ l = j ++ (k ++ l) :=
  ext_bytes fun pos => by simp [Nat.add_assoc]

theorem empty_append (k : Block) : empty ++ k = k := ext_bytes fun pos => by simp [empty, ofBytes]

theorem append_empty (k : Block) : k ++ empty = k := ext_bytes fun pos => by simp [empty, ofBytes]

end Block

/-- Chunks one behind the other, by tag and data. -/
def row : List (String × Block) → Block
  | [] => .empty
  | p :: rest => .chunk p.1 p.2 ++ row rest

/-- What a row of chunks is read as. -/
def chunksOf (pos : Nat) : List (String × Block) → List Chunk
  | [] => []
  | p :: rest =>
    ⟨p.1.toUTF8.data.toList, pos + 8, p.2.size⟩ :: chunksOf (pos + 8 + p.2.size) rest

/-- Tags have four bytes. -/
def Tagged (parts : List (String × Block)) : Prop := ∀ p ∈ parts, p.1.utf8ByteSize = 4

variable {b : ByteArray} {pos : Nat} {tag : String} {data : Block}
  {parts before after : List (String × Block)}

theorem length_tag (htag : tag.utf8ByteSize = 4) : tag.toUTF8.data.toList.length = 4 := by
  rw [← htag]
  simp

theorem size_chunk (htag : tag.utf8ByteSize = 4) : (Block.chunk tag data).size = 8 + data.size := by
  simp only [Block.chunk, Block.size_append, Block.size_ofBytes, Block.size_nat, length_tag htag]

theorem row_append (before after : List (String × Block)) :
    row (before ++ after) = row before ++ row after := by
  induction before with
  | nil => exact (Block.empty_append _).symm
  | cons p rest ih => rw [List.cons_append, row, row, ih, Block.append_assoc]

/-- The tag, the size and the data of a chunk. -/
theorem Block.StandsIn.chunk (h : (Block.chunk tag data).StandsIn b pos)
    (htag : tag.utf8ByteSize = 4) (hb : b.size < 2 ^ 31) :
    tagAt b pos = .ok tag.toUTF8.data.toList ∧ Archive.natAt b (pos + 4) = .ok data.size ∧
      data.StandsIn b (pos + 8) := by
  simp only [Block.chunk, append_iff, Block.size_append, Block.size_ofBytes, Block.size_nat,
    length_tag htag] at h
  obtain ⟨⟨hbytes, hsize⟩, hdata⟩ := h
  have hlt := hdata.le_size
  have hslice := hbytes.bytesAt
  rw [length_tag htag] at hslice
  refine ⟨?_, hsize.natAt (by omega), hdata⟩
  rw [tagAt, hslice]
  rfl

theorem gives_chunksFrom (h : (row parts).StandsIn b pos) (htags : Tagged parts)
    (hb : b.size < 2 ^ 31) {fuel : Nat} (hfuel : (row parts).size ≤ fuel) :
    Load.Gives (chunksFrom b (pos + (row parts).size) fuel pos) (chunksOf pos parts) := by
  induction parts generalizing pos fuel with
  | nil =>
    cases fuel with
    | zero => exact .pure _
    | succ fuel =>
      rw [chunksFrom, if_neg (by simp [row])]
      exact .pure _
  | cons p rest ih =>
    obtain ⟨htag, htags⟩ := List.forall_mem_cons.mp htags
    rw [row, Block.size_append, size_chunk htag] at hfuel
    obtain ⟨fuel, rfl⟩ : ∃ n, fuel = n + 1 := Nat.exists_eq_add_one.mpr (by omega)
    obtain ⟨hchunk, hrest⟩ := Block.StandsIn.append_iff.mp h
    obtain ⟨htagAt, hsize, -⟩ := hchunk.chunk htag hb
    rw [size_chunk htag, ← Nat.add_assoc] at hrest
    have hstop : pos + (row (p :: rest)).size = pos + 8 + p.2.size + (row rest).size := by
      rw [row, Block.size_append, size_chunk htag]
      omega
    rw [hstop, chunksFrom, if_pos (by omega)]
    refine .bind (.lift htagAt) (.bind (.lift hsize) (.bind (.note _ _) ?_))
    exact .bind (ih hrest htags (by omega)) (.pure _)

/-- A chunk is found by its tag behind chunks with other tags. -/
theorem chunkWith_chunksOf (htags : Tagged before) (hne : ∀ p ∈ before, p.1 ≠ tag) :
    chunkWith (chunksOf pos (before ++ (tag, data) :: after)) tag =
      .ok ⟨tag.toUTF8.data.toList, pos + (row before).size + 8, data.size⟩ := by
  induction before generalizing pos with
  | nil => simp [chunksOf, chunkWith, row]
  | cons p rest ih =>
    obtain ⟨htag, htags⟩ := List.forall_mem_cons.mp htags
    obtain ⟨hp, hne⟩ := List.forall_mem_cons.mp hne
    have hbytes : p.1.toUTF8.data.toList ≠ tag.toUTF8.data.toList := by
      intro heq
      exact hp (String.toByteArray_inj.mp (ByteArray.ext (Array.toList_inj.mp heq)))
    have hskip : chunkWith (chunksOf pos (p :: rest ++ (tag, data) :: after)) tag =
        chunkWith (chunksOf (pos + 8 + p.2.size) (rest ++ (tag, data) :: after)) tag := by
      rw [List.cons_append, chunksOf, chunkWith, List.find?_cons_of_neg (by simpa using hbytes)]
      rfl
    rw [hskip, ih htags hne, row, Block.size_append, size_chunk htag]
    simp only [Nat.add_assoc]

theorem exists_chunkWith (h : (row parts).StandsIn b pos) (htags : Tagged parts)
    (hnodup : (parts.map Prod.fst).Nodup) (hb : b.size < 2 ^ 31) (hmem : (tag, data) ∈ parts) :
    ∃ c, chunkWith (chunksOf pos parts) tag = .ok c ∧ c.size = data.size ∧
      data.StandsIn b c.start := by
  obtain ⟨before, after, rfl⟩ := List.append_of_mem hmem
  have hbefore : Tagged before := fun p hp => htags p (List.mem_append_left _ hp)
  have hne : ∀ p ∈ before, p.1 ≠ tag := by
    intro p hp heq
    rw [List.map_append, List.nodup_append] at hnodup
    exact hnodup.2.2 p.1 (List.mem_map_of_mem hp) tag (by simp) heq
  refine ⟨_, chunkWith_chunksOf hbefore hne, rfl, ?_⟩
  rw [row_append] at h
  have hchunk := (Block.StandsIn.append_iff.mp (Block.StandsIn.append_iff.mp h).2).1
  exact (hchunk.chunk (htags _ hmem) hb).2.2

end GameRunner.Archive

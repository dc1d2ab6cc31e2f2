import GameRunner.Archive.Assets
import GameRunner.Archive.Draft
import GameRunner.Proofs.Archive.Tables

/-!
# Names and the string table

The string table of a draft has every name that is not empty. A name is written as a reference to
the last entry of the table that has it, and read back from there; the empty name may be written as
a null reference.
-/

namespace GameRunner

namespace Archive

variable {b : ByteArray} {pos : Nat}

theorem utf8_toUTF8 (pos : Nat) (s : String) :
    utf8 pos (Bytes.ofList s.toUTF8.data.toList) = .ok s := by
  have hbytes : Bytes.ofList s.toUTF8.data.toList = s.toByteArray := rfl
  rw [utf8, hbytes, String.fromUTF8?, dif_pos s.isValidUTF8]
  rfl

/-- An entry of the string table is read back both by its own position and by that of its text. -/
theorem Block.StandsIn.stringEntry {s : String} (h : (Draft.stringEntry s).StandsIn b pos)
    (hb : b.size < 2 ^ 31) : stringAt b pos = .ok s ∧ stringRef b (pos + 4) = .ok s := by
  simp only [Draft.stringEntry, append_iff, Block.size_append, Block.size_nat,
    Block.size_ofBytes] at h
  obtain ⟨⟨hlength, htext⟩, -⟩ := h
  have hbytes : s.toUTF8.data.toList.length = s.utf8ByteSize := by simp
  have hle := htext.le_size
  rw [Block.size_ofBytes, hbytes] at hle
  have hlength := hlength.natAt (by omega)
  have htext := htext.bytesAt
  rw [hbytes] at htext
  constructor
  · rw [stringAt, hlength, ok_bind, htext, ok_bind, utf8_toUTF8]
  · rw [stringRef, if_neg (by omega), if_neg (by omega), Nat.add_sub_cancel, hlength, ok_bind,
      htext, ok_bind, utf8_toUTF8]

end Archive

namespace Draft

open Archive

variable {d : Draft} {s : String}

@[simp] theorem size_stringRef (d : Draft) (s : String) : (d.stringRef s).size = 4 := rfl

/-- Adds a name to a string table unless it is empty or there already. -/
def intern (table : List String) (name : String) : List String :=
  if name.isEmpty || table.contains name then table else table ++ [name]

theorem mem_intern_of_mem {table : List String} (hs : s ∈ table) (name : String) :
    s ∈ intern table name := by
  unfold intern
  split_ifs
  · exact hs
  · exact List.mem_append_left _ hs

theorem mem_intern_self (table : List String) (name : String) :
    name = "" ∨ name ∈ intern table name := by
  unfold intern
  split_ifs with h
  · simpa using h
  · exact .inr (by simp)

theorem mem_foldl_intern_of_mem {names table : List String} (hs : s ∈ table) :
    s ∈ names.foldl intern table := by
  induction names generalizing table with
  | nil => exact hs
  | cons name rest ih => exact ih (mem_intern_of_mem hs name)

theorem mem_foldl_intern {names table : List String} (hs : s ∈ names) :
    s = "" ∨ s ∈ names.foldl intern table := by
  induction names generalizing table with
  | nil => simp at hs
  | cons name rest ih =>
    obtain rfl | hs := List.mem_cons.mp hs
    · rw [List.foldl_cons]
      exact (mem_intern_self table s).imp_right mem_foldl_intern_of_mem
    · exact ih hs

/-- Every name is in the string table, unless it is empty. -/
theorem mem_stringTable (hs : s ∈ d.names) : s = "" ∨ s ∈ d.stringTable := mem_foldl_intern hs

/-- An archive with the string table of a draft, and small enough for its pointers to be read as
positive numbers. -/
structure Named (d : Draft) (b : ByteArray) : Prop where
  size_lt : b.size < 2 ^ 31
  strings : d.stringBlock.StandsIn b 16

namespace Named

variable {b : ByteArray} (h : d.Named b)
include h

/-- Where the reference to a text leads to, the text is. -/
theorem stringRef_of_mem {p : Nat} (hp : (s, p) ∈ d.stringTable.zip d.stringPositions) :
    p < 2 ^ 32 ∧ Archive.stringRef b p = .ok s := by
  obtain ⟨i, hi, heq⟩ := List.mem_iff_getElem.mp hp
  rw [List.getElem_zip, Prod.mk.injEq] at heq
  obtain ⟨rfl, rfl⟩ := heq
  rw [List.length_zip] at hi
  have hi : i < d.stringTable.length := by omega
  have hentry := (List.forall₂_iff_get.mp (h.strings.list h.size_lt).2).2 i (by simpa) (by simpa)
  simp only [List.length_map, List.get_eq_getElem, List.getElem_map, Nat.reduceAdd] at hentry
  have hle := hentry.le_size
  have hsize := h.size_lt
  simp only [stringPositions, List.getElem_map]
  simp only [stringEntry, Block.size_append, Block.size_nat] at hle
  exact ⟨by omega, (hentry.stringEntry h.size_lt).2⟩

/-- A name is read back from a reference to it. -/
theorem stringRefAt {pos : Nat} (hs : s ∈ d.names) (href : (d.stringRef s).StandsIn b pos) :
    stringRefAt b pos = .ok s := by
  unfold Draft.stringRef at href
  cases hfind : (d.stringTable.zip d.stringPositions).findRev? fun e => e.1 == s with
  | some e =>
    rw [hfind] at href
    rw [List.findRev?_eq_find?_reverse] at hfind
    obtain rfl : e.1 = s := by simpa using List.find?_some hfind
    have hmem := List.mem_reverse.mp (List.mem_of_find?_eq_some hfind)
    obtain ⟨hlt, hread⟩ := h.stringRef_of_mem hmem
    rw [Archive.stringRefAt, href.natAt hlt, ok_bind]
    exact hread
  | none =>
    -- Only the empty name is not in the table.
    have hnot : s ∉ d.stringTable := by
      intro hmem
      obtain ⟨i, hi, rfl⟩ := List.mem_iff_getElem.mp hmem
      rw [List.findRev?_eq_find?_reverse, List.find?_eq_none] at hfind
      have hi' : i < (d.stringTable.zip d.stringPositions).length := by simpa [stringPositions]
      have hzip := hfind _ (List.mem_reverse.mpr (List.getElem_mem hi'))
      simp at hzip
    obtain rfl := (mem_stringTable hs).resolve_right hnot
    rw [hfind] at href
    rw [Archive.stringRefAt, href.natAt (by simp), ok_bind]
    rfl

theorem gives_strings {c : Chunk} (hc : d.stringBlock.StandsIn b c.start) :
    Load.Gives (Archive.strings b c) d.stringTable := by
  rw [← d.stringTable.map_id]
  exact hc.gives_table h.size_lt
    (fun s _ p hp => by rw [(hp.stringEntry h.size_lt).1, lift_ok, id]) _

end Named

end Draft

end GameRunner

import GameRunner.Proofs.Code.Tiling
import GameRunner.Proofs.Program.Stamping

/-!
# Marked instructions agree with the reference table

Whatever chains a game has, and however they overlap: in its program each instruction holds the
index of the last variable, and of the last function, that lists it. Everything else is as it was
decoded.
-/

namespace GameRunner

/-- The index of the last table entry that lists a location; `-1` stands for none. -/
inductive IsLastIndex (table : List (List Location)) (l : Location) : Int32 → Prop
  | listed (i : Nat) :
    IsGreatest {j | ∃ locations, table[j]? = some locations ∧ l ∈ locations} i →
      IsLastIndex table l (Int32.ofNat i)
  | unlisted : (∀ locations ∈ table, l ∉ locations) → IsLastIndex table l (-1)

theorem isLastIndex_storedIndex (table : List (List Location)) (l : Location) :
    IsLastIndex table l (References.storedIndex (References.lastListed l table)) := by
  cases h : References.lastListed l table with
  | some i => exact .listed i (References.isGreatest_lastListed h)
  | none => exact .unlisted (References.lastListed_eq_none_iff.mp h)

namespace Instruction

/-- An instruction that was read has not been marked. -/
theorem indices_of_read? {bytes : ByteArray} {offset : Nat} {i : Instruction}
    (h : read? bytes offset = some i) : i.variableIndex = -1 ∧ i.functionIndex = -1 := by
  obtain ⟨w, -, hi⟩ := Option.bind_eq_some_iff.mp h
  obtain ⟨l, k, rfl⟩ := exists_of_readPayload?_eq_some hi
  exact ⟨rfl, rfl⟩

end Instruction

namespace Code

theorem indices_of_decode {bytes : ByteArray} {k : Nat} {i : Instruction}
    (h : (decode bytes).instructions[k]? = some i) :
    i.variableIndex = -1 ∧ i.functionIndex = -1 := by
  obtain ⟨stop, hreads, -⟩ := exists_readsOn_decode bytes
  have hmem := Array.mem_toList_iff.mpr (Array.mem_of_getElem? h)
  exact Instruction.indices_of_read? (hreads.read?_eq hmem)

/-- Looking up an offset depends on the offsets of the instructions only. -/
theorem indexOf?_congr {c c' : Code}
    (h : c.instructions.map (·.offset) = c'.instructions.map (·.offset)) (offset : Nat) :
    c.indexOf? offset = c'.indexOf? offset := by
  have hmap (c : Code) : c.indexOf? offset =
      (c.instructions.map (·.offset)).findIdx? (· == offset) := by
    simp [indexOf?, Array.findIdx?_map, Function.comp_def]
  rw [hmap, hmap, h]

end Code

/-- An entry of the program, compared with what was decoded: each instruction has got the indices of
the last variable and the last function that list it, and is otherwise the same. The number of
instructions is the same too, and offsets lead to the same instructions. -/
structure Stamped (r : References) (entry : Nat) (plain stamped : Code) : Prop where
  size : stamped.size = plain.size
  indexOf? (offset : Nat) : stamped.indexOf? offset = plain.indexOf? offset
  instructions (k : Nat) (i : Instruction) : plain.instructions[k]? = some i →
    ∃ v f, stamped.instructions[k]? = some { i with variableIndex := v, functionIndex := f } ∧
      IsLastIndex r.variableSites ⟨entry, k⟩ v ∧ IsLastIndex r.functionSites ⟨entry, k⟩ f

/-- The entries of a program are those of its game, decoded and marked by its references. -/
structure StampedByReferences (g : Game) (p : Program) : Prop where
  size : p.code.size = g.code.size
  code (k : Nat) (e : CodeEntry) (c : Code) : g.code[k]? = some e → p.code[k]? = some c →
    Stamped p.references k (Code.decode e.bytes) c

section OfGame

variable {g : Game} {k : Nat} {e : CodeEntry} {c : Code}

/-- The instructions of an entry of the program are those that were decoded, with the indices of the
last entries that list them. -/
theorem getElem?_instructions_stamped (he : g.code[k]? = some e)
    (hc : (Program.ofGame g).code[k]? = some c) (j : Nat) :
    c.instructions[j]? = ((Code.decode e.bytes).instructions[j]?).map fun i =>
      { i with
        variableIndex := References.storedIndex
          (References.lastListed ⟨k, j⟩ (Program.ofGame g).references.variableSites)
        functionIndex := References.storedIndex
          (References.lastListed ⟨k, j⟩ (Program.ofGame g).references.functionSites) } := by
  have hplain : instructionAt? (CodeMap.ofGame g).decoded ⟨k, j⟩ =
      (Code.decode e.bytes).instructions[j]? := CodeMap.instructionAt?_decoded_ofGame he
  have hstamped : instructionAt? (Program.ofGame g).code ⟨k, j⟩ = c.instructions[j]? := by
    simp [instructionAt?, hc]
  rw [← hstamped, ← hplain]
  apply References.instructionAt?_stamp_lastListed
  intro i hi
  rw [hplain] at hi
  exact Code.indices_of_decode hi

theorem stamped_ofGame (he : g.code[k]? = some e) (hc : (Program.ofGame g).code[k]? = some c) :
    Stamped (Program.ofGame g).references k (Code.decode e.bytes) c := by
  have hj := getElem?_instructions_stamped he hc
  have hoffsets :
      c.instructions.map (·.offset) = (Code.decode e.bytes).instructions.map (·.offset) := by
    apply Array.ext_getElem?
    intro j
    rw [Array.getElem?_map, Array.getElem?_map, hj j, Option.map_map]
    rfl
  refine ⟨?_, Code.indexOf?_congr hoffsets, fun j i hi => ?_⟩
  · have hsize := congrArg Array.size hoffsets
    rw [Array.size_map, Array.size_map] at hsize
    exact hsize
  · rw [hj j, hi]
    exact ⟨_, _, rfl, isLastIndex_storedIndex _ _, isLastIndex_storedIndex _ _⟩

end OfGame

/-- For every game, marked instructions and reference table agree: each instruction of the program
holds the index of the last variable and of the last function that lists it, or `-1`, and nothing
else of an entry differs from what is decoded from its bytes. -/
theorem stampedByReferences_ofGame (g : Game) : StampedByReferences g (Program.ofGame g) := by
  refine ⟨?_, fun k e c he hc => stamped_ofGame he hc⟩
  rw [Program.ofGame, References.size_stamp]
  simp [CodeMap.ofGame]

end GameRunner

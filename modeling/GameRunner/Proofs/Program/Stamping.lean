import GameRunner.Program.Basic
import Mathlib.Tactic

/-!
# Walking chains and marking instructions

A chain whose links lead from each location to the next is walked to its end. Marking the
instructions at the locations of each table entry leaves at every instruction the mark of the last
entry that lists it, and reaches no other instruction.
-/

namespace GameRunner

/-- The instruction at a location. -/
def instructionAt? (code : Array Code) (l : Location) : Option Instruction :=
  code[l.entry]?.bind fun c => c.instructions[l.instruction]?

namespace CodeMap

section Decoded

variable {g : Game} {e : CodeEntry}

theorem getElem?_decoded_ofGame {k : Nat} (he : g.code[k]? = some e) :
    (ofGame g).decoded[k]? = some (Code.decode e.bytes) := by
  simp [ofGame, he]

theorem instructionAt?_decoded_ofGame {l : Location} (he : g.code[l.entry]? = some e) :
    instructionAt? (ofGame g).decoded l = (Code.decode e.bytes).instructions[l.instruction]? := by
  rw [instructionAt?, getElem?_decoded_ofGame he, Option.bind_some]

end Decoded

section Walk

variable {m : CodeMap} {address offset : Location → Nat}

/-- The link of a location leads to the next one. -/
def LeadsTo (m : CodeMap) (address offset : Location → Nat) (a b : Location) : Prop :=
  linkAt? (m.entryBytes a.entry) (offset a) = some (address b - address a) ∧ address a < address b

/-- From a location whose links lead along others, all of them are found in order. -/
theorem walkFrom_eq (l : Location) (rest : List Location)
    (hlocate : ∀ a ∈ l :: rest, ∀ resolved, m.locate resolved (address a) = .ok (a, offset a))
    (hlinks : (l :: rest).IsChain (m.LeadsTo address offset)) (resolved : Nat)
    (found : List Location) :
    m.walkFrom (rest.length + 1) resolved (address l) found =
      (found.reverse ++ l :: rest, none) := by
  induction rest generalizing l resolved found with
  | nil =>
    rw [List.length_nil, walkFrom, hlocate l (by simp)]
    simp
  | cons next rest ih =>
    rw [List.isChain_cons_cons] at hlinks
    obtain ⟨⟨hlink, hlt⟩, hlinks⟩ := hlinks
    rw [List.length_cons, walkFrom, hlocate l (by simp)]
    simp only [Nat.add_eq_zero_iff, Nat.one_ne_zero, and_false, if_false, hlink]
    rw [Nat.add_sub_cancel' (Nat.le_of_lt hlt),
      ih next (fun a ha => hlocate a (List.mem_cons_of_mem _ ha)) hlinks]
    simp

/-- A table entry that tells the number of the locations on a chain and the address of the first one
leads to all of them. -/
theorem walk_eq (address offset : Location → Nat) {locations : List Location} {first count : Int32}
    (hlocate : ∀ a ∈ locations, ∀ resolved, m.locate resolved (address a) = .ok (a, offset a))
    (hlinks : locations.IsChain (m.LeadsTo address offset))
    (hcount : count = Int32.ofNat locations.length) (hlength : locations.length < 2 ^ 31)
    (hfirst : ∀ a ∈ locations.head?, first = Int32.ofNat (address a) ∧ address a < 2 ^ 31) :
    m.walk first count = (locations, none) := by
  have hc : count.toInt = locations.length := by
    rw [hcount]
    exact Int32.toInt_ofNat_of_lt hlength
  cases locations with
  | nil =>
    rw [walk, if_pos]
    left
    rw [Int32.le_iff_toInt_le, hc]
    rfl
  | cons l rest =>
    obtain ⟨hf, hlt⟩ := hfirst l rfl
    have hf' : first.toInt = address l := by
      rw [hf]
      exact Int32.toInt_ofNat_of_lt hlt
    rw [walk, if_neg]
    · rw [hc, hf', Int.toNat_natCast, Int.toNat_natCast, List.length_cons]
      exact walkFrom_eq l rest hlocate hlinks 0 []
    · rw [Int32.le_iff_toInt_le, Int32.lt_iff_toInt_lt, hc, hf', List.length_cons]
      change ¬(_ ≤ (0 : Int) ∨ _ < (0 : Int))
      omega

end Walk

end CodeMap

namespace References

@[simp] theorem size_modifyAt (code : Array Code) (l : Location) (f : Instruction → Instruction) :
    (modifyAt code l f).size = code.size := by
  simp [modifyAt]

theorem instructionAt?_modifyAt (code : Array Code) (l l' : Location)
    (f : Instruction → Instruction) :
    instructionAt? (modifyAt code l f) l' =
      if l = l' then (instructionAt? code l').map f else instructionAt? code l' := by
  obtain ⟨e, k⟩ := l
  obtain ⟨e', k'⟩ := l'
  simp only [instructionAt?, modifyAt, Array.getElem?_modify, Location.mk.injEq]
  by_cases he : e = e'
  · subst he
    cases code[e]? with
    | none => simp
    | some c => simp [Array.getElem?_modify]
  · simp [he]

section Stamp

variable {mark : Nat → Instruction → Instruction}

/-- Marks the instructions at some locations. -/
def stampEach (f : Instruction → Instruction) (locations : List Location) (code : Array Code) :
    Array Code :=
  locations.foldl (fun code l => modifyAt code l f) code

@[simp] theorem size_stampEach (f : Instruction → Instruction) (locations : List Location)
    (code : Array Code) : (stampEach f locations code).size = code.size := by
  unfold stampEach
  induction locations generalizing code with
  | nil => rfl
  | cons l rest ih => rw [List.foldl_cons, ih, size_modifyAt]

/-- A mark that may be set twice is found at the locations and nowhere else. -/
theorem instructionAt?_stampEach {f : Instruction → Instruction} (hf : ∀ i, f (f i) = f i)
    (locations : List Location) (code : Array Code) (l : Location) :
    instructionAt? (stampEach f locations code) l =
      if l ∈ locations then (instructionAt? code l).map f else instructionAt? code l := by
  unfold stampEach
  induction locations generalizing code with
  | nil => simp
  | cons a rest ih =>
    rw [List.foldl_cons, ih, instructionAt?_modifyAt]
    have hff : (f ∘ f) = f := funext hf
    by_cases ha : a = l
    · subst ha
      simp [hff]
    · simp [ha, Ne.symm ha]

/-- Marks the instructions at the locations of each table entry, the first of them with an index. -/
def stampFrom (mark : Nat → Instruction → Instruction) (n : Nat) :
    List (List Location) → Array Code → Array Code
  | [], code => code
  | locations :: table, code => stampFrom mark (n + 1) table (stampEach (mark n) locations code)

theorem stampAll_eq (mark : Nat → Instruction → Instruction) (table : List (List Location))
    (code : Array Code) : stampAll mark table code = stampFrom mark 0 table code := by
  unfold stampAll
  generalize 0 = n
  induction table generalizing n code with
  | nil => rfl
  | cons locations table ih => exact ih _ _

@[simp] theorem size_stampFrom (mark : Nat → Instruction → Instruction) (n : Nat)
    (table : List (List Location)) (code : Array Code) :
    (stampFrom mark n table code).size = code.size := by
  induction table generalizing n code with
  | nil => rfl
  | cons locations table ih => rw [stampFrom, ih, size_stampEach]

/-- The last table entry that lists a location. -/
def lastListed (l : Location) : List (List Location) → Option Nat
  | [] => none
  | locations :: table =>
    ((lastListed l table).map (· + 1)).or (if l ∈ locations then some 0 else none)

theorem lastListed_eq_none_iff {l : Location} {table : List (List Location)} :
    lastListed l table = none ↔ ∀ locations ∈ table, l ∉ locations := by
  induction table with
  | nil => simp [lastListed]
  | cons locations table ih => simp [lastListed, ih, and_comm]

/-- The entry that is found lists the location, and no later one does. -/
theorem isGreatest_lastListed {l : Location} {i : Nat} {table : List (List Location)}
    (h : lastListed l table = some i) :
    IsGreatest {j | ∃ locations, table[j]? = some locations ∧ l ∈ locations} i := by
  induction table generalizing i with
  | nil => cases h
  | cons locations table ih =>
    rw [lastListed] at h
    cases hlast : lastListed l table with
    | some k =>
      rw [hlast, Option.map_some, Option.some_or, Option.some.injEq] at h
      obtain ⟨hk, hgreatest⟩ := ih hlast
      subst h
      refine ⟨hk, ?_⟩
      rintro (_ | j) hj
      · omega
      · have := hgreatest hj
        omega
    | none =>
      rw [hlast, Option.map_none, Option.none_or] at h
      obtain ⟨hl, hi⟩ := Option.ite_none_right_eq_some.mp h
      cases hi
      refine ⟨⟨locations, rfl, hl⟩, ?_⟩
      rintro (_ | j) hj
      · omega
      · obtain ⟨locations', hj, hl'⟩ := hj
        exact absurd hl' (lastListed_eq_none_iff.mp hlast _ (List.mem_of_getElem? hj))

/-- The mark of a table entry, the first of which has an index; no entry leaves no mark. -/
def markOf (mark : Nat → Instruction → Instruction) (n : Nat) : Option Nat →
    Instruction → Instruction
  | some i => mark (n + i)
  | none => id

/-- Of the entries that list an instruction the last one leaves its mark. -/
theorem instructionAt?_stampFrom (hmark : ∀ m n i, mark m (mark n i) = mark m i) (l : Location)
    (n : Nat) (table : List (List Location)) (code : Array Code) :
    instructionAt? (stampFrom mark n table code) l =
      (instructionAt? code l).map (markOf mark n (lastListed l table)) := by
  induction table generalizing n code with
  | nil => simp [stampFrom, lastListed, markOf]
  | cons locations table ih =>
    rw [stampFrom, ih, instructionAt?_stampEach (hmark n n), lastListed]
    cases lastListed l table with
    | some i =>
      have hover : mark (n + 1 + i) ∘ mark n = mark (n + 1 + i) := funext (hmark _ n)
      rw [Nat.add_assoc, Nat.add_comm 1 i] at hover
      split_ifs <;> simp [markOf, hover, Nat.add_assoc, Nat.add_comm 1 i]
    | none => split_ifs <;> simp [markOf]

end Stamp

/-- The index of what an instruction refers to in a table of some size; `-1` stands for none. -/
def tableIndex (size : Nat) (ref : Option Nat) : Int32 :=
  match ref with
  | some i => if i < size then Int32.ofNat i else -1
  | none => -1

/-- Marks an instruction with a variable. -/
def withVariable (n : Nat) (i : Instruction) : Instruction :=
  { i with variableIndex := Int32.ofNat n }

/-- Marks an instruction with a function. -/
def withFunction (n : Nat) (i : Instruction) : Instruction :=
  { i with functionIndex := Int32.ofNat n }

theorem withVariable_withVariable (m n : Nat) (i : Instruction) :
    withVariable m (withVariable n i) = withVariable m i := rfl

theorem withFunction_withFunction (m n : Nat) (i : Instruction) :
    withFunction m (withFunction n i) = withFunction m i := rfl

/-- The index of a table entry as instructions hold it; `-1` stands for none. -/
def storedIndex : Option Nat → Int32
  | some i => Int32.ofNat i
  | none => -1

theorem markOf_withVariable {i : Instruction} (h : i.variableIndex = -1) (ref : Option Nat) :
    markOf withVariable 0 ref i = { i with variableIndex := storedIndex ref } := by
  cases ref with
  | none => simp only [markOf, storedIndex, id, ← h]
  | some n => simp only [markOf, storedIndex, withVariable, Nat.zero_add]

theorem markOf_withFunction {i : Instruction} (h : i.functionIndex = -1) (ref : Option Nat) :
    markOf withFunction 0 ref i = { i with functionIndex := storedIndex ref } := by
  cases ref with
  | none => simp only [markOf, storedIndex, id, ← h]
  | some n => simp only [markOf, storedIndex, withFunction, Nat.zero_add]

/-- An index that is listed by one entry at most is the index of that entry. -/
theorem storedIndex_lastListed {l : Location} {table : List (List Location)} {ref : Option Nat}
    (h : ∀ (j : Nat) (locations : List Location), table[j]? = some locations →
      (l ∈ locations ↔ ref = some j)) :
    storedIndex (lastListed l table) = tableIndex table.length ref := by
  cases hl : lastListed l table with
  | some i =>
    obtain ⟨⟨locations, hi, hmem⟩, -⟩ := isGreatest_lastListed hl
    rw [(h i locations hi).mp hmem, tableIndex, if_pos (List.getElem?_eq_some_iff.mp hi).1]
    rfl
  | none =>
    cases ref with
    | none => rfl
    | some i =>
      rw [tableIndex, if_neg]
      · rfl
      · intro hlt
        have hi := List.getElem?_eq_getElem hlt
        exact lastListed_eq_none_iff.mp hl _ (List.getElem_mem hlt) ((h i _ hi).mpr rfl)

theorem stamp_eq (r : References) (code : Array Code) :
    r.stamp code = stampFrom withFunction 0 r.functionSites
      (stampFrom withVariable 0 r.variableSites code) := by
  rw [← stampAll_eq, ← stampAll_eq]
  rfl

theorem size_stamp (r : References) (code : Array Code) : (r.stamp code).size = code.size := by
  rw [stamp_eq, size_stampFrom, size_stampFrom]

/-- An instruction gets the indices of the last entries of both tables that list it. -/
theorem instructionAt?_stamp_lastListed (r : References) (code : Array Code) (l : Location)
    (hi : ∀ i ∈ instructionAt? code l, i.variableIndex = -1 ∧ i.functionIndex = -1) :
    instructionAt? (r.stamp code) l = (instructionAt? code l).map fun i =>
      { i with
        variableIndex := storedIndex (lastListed l r.variableSites)
        functionIndex := storedIndex (lastListed l r.functionSites) } := by
  rw [stamp_eq, instructionAt?_stampFrom withFunction_withFunction,
    instructionAt?_stampFrom withVariable_withVariable, Option.map_map]
  cases hc : instructionAt? code l with
  | none => rfl
  | some i =>
    obtain ⟨hvi, hfi⟩ := hi i hc
    simp only [Option.map_some, Function.comp_apply]
    rw [markOf_withVariable hvi, markOf_withFunction]
    exact hfi

/-- An instruction that is listed by one entry of each table at most gets the indices of these
entries. -/
theorem instructionAt?_stamp (r : References) (code : Array Code) (l : Location)
    (variableRef functionRef : Option Nat)
    (hv : ∀ (j : Nat) (locations : List Location), r.variableSites[j]? = some locations →
      (l ∈ locations ↔ variableRef = some j))
    (hf : ∀ (j : Nat) (locations : List Location), r.functionSites[j]? = some locations →
      (l ∈ locations ↔ functionRef = some j))
    (hi : ∀ i ∈ instructionAt? code l, i.variableIndex = -1 ∧ i.functionIndex = -1) :
    instructionAt? (r.stamp code) l = (instructionAt? code l).map fun i =>
      { i with
        variableIndex := tableIndex r.variableSites.length variableRef
        functionIndex := tableIndex r.functionSites.length functionRef } := by
  rw [instructionAt?_stamp_lastListed r code l hi, storedIndex_lastListed hv,
    storedIndex_lastListed hf]

end References

end GameRunner

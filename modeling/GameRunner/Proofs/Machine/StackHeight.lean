import GameRunner.Proofs.Machine.StoreLoad

/-!
# The height of the stack at a variable access

A load takes its operands from the stack and leaves a value; a store takes its operands and a value.
The kind of the reference tells how many operands there are: none for a plain variable, the instance
for an access through the stack, an index and a target for an element. An access that is linked to
its variable keeps to this in every world, whoever is found there. One that is not linked leaves its
operands where they are: a load puts a zero above them, and a store takes a single item.
-/

namespace GameRunner

namespace Instruction

/-- The number of operands that the kind of a reference calls for. -/
def operandCount (i : Instruction) : Nat :=
  if i.isArrayAccess then 2 else if i.isStackTopAccess then 1 else 0

def LoadsVariable (i : Instruction) : Prop := i.op? = some .push ∧ i.literal = .none

def StoresVariable (i : Instruction) : Prop := i.op? = some .pop

/-- The values that a load or store adds to the stack, operands apart. -/
def valueChange (i : Instruction) : Int := if i.op? = some .pop then -1 else 1

/-- The change in height that the encoding of a load or store promises. -/
def heightChange (i : Instruction) : Int := i.valueChange - i.operandCount

/-- The items that a load or store needs on the stack: the operands, and for a store the value. -/
def neededHeight (i : Instruction) : Nat :=
  i.operandCount + if i.op? = some .pop then 1 else 0

/-- The reference is linked to a variable of the game. -/
def HasVariable (g : Game) (i : Instruction) : Prop :=
  (tableAt? g.variableTable i.variableIndex).isSome

instance (g : Game) (i : Instruction) : Decidable (i.HasVariable g) :=
  inferInstanceAs (Decidable (_ = true))

/-- The operands that are taken from the stack in fact. -/
def takenOperands (g : Game) (i : Instruction) : Nat :=
  if i.HasVariable g then i.operandCount else 0

theorem not_isArrayAccess_of_isStackTopAccess {i : Instruction} (h : i.isStackTopAccess = true) :
    ¬ i.isArrayAccess = true := by
  simp only [isStackTopAccess, beq_iff_eq] at h
  simp only [isArrayAccess, h]
  decide

end Instruction

namespace Frame

theorem stack_drop (f : Frame) : f.drop.stack = f.stack.drop 1 := List.drop_one.symm

theorem stack_popAddress (f : Frame) (i : Instruction) :
    (f.popAddress i).2.stack = f.stack.drop (if i.isArrayAccess then 2 else 0) := by
  unfold popAddress
  split_ifs
  · simp [stack_drop]
  · simp

theorem stack_writeLocal (f : Frame) (var : Variable) (v : Value) (a : Option Address) :
    (f.writeLocal var v a).stack = f.stack := by
  cases a <;> rfl

section Height

variable {g : Game} {f : Frame} {i : Instruction} {var : Variable}

/-- With an instance field of its own and a target that is not the stack, an access looks for no
instance on the stack. -/
theorem selector_ne_stackTop (hfield : i.instanceField ≠ 0)
    (hfield' : i.instanceField ≠ Selector.stackTop)
    (htarget : i.isArrayAccess = true → f.drop.top.toInt ≠ Selector.stackTop) :
    selector i var (f.popAddress i).1 ≠ Selector.stackTop := by
  have hextra : i.extra ≠ 0 := by
    intro hzero
    apply hfield
    rw [Instruction.instanceField, hzero]
    rfl
  by_cases harray : i.isArrayAccess = true
  · simpa [popAddress, harray, selector] using htarget harray
  · simpa [popAddress, harray, selector, hextra] using hfield'

/-- A load takes just its operands from the stack. -/
theorem stack_read (hvar : tableAt? g.variableTable i.variableIndex = some var)
    (hop : i.op? = some .push) (hfield : i.instanceField ≠ 0)
    (hfield' : i.instanceField ≠ Selector.stackTop)
    (htarget : i.isArrayAccess = true → f.drop.top.toInt ≠ Selector.stackTop) (w : World) :
    (f.read g w i none).2.stack = f.stack.drop i.operandCount := by
  by_cases hi : i.isStackTopAccess = true
  · have harray := Instruction.not_isArrayAccess_of_isStackTopAccess hi
    simp [read, hvar, hop, hi, popAddress, harray, pop, drop, Instruction.operandCount]
  · have hcount : i.operandCount = if i.isArrayAccess then 2 else 0 := by
      simp [Instruction.operandCount, hi]
    have hstack : (f.popAddress i).2.stack = f.stack.drop i.operandCount := by
      rw [hcount, stack_popAddress]
    have hsel : selector i var (f.popAddress i).1 ≠ Selector.stackTop :=
      selector_ne_stackTop hfield hfield' htarget
    obtain ⟨a, f', hpop⟩ : ∃ a f', f.popAddress i = (a, f') := ⟨_, _, rfl⟩
    rw [hpop] at hstack hsel
    rw [read_of_selector hvar hpop hi, if_neg hsel, ← hstack]
    split_ifs <;> rfl

/-- A store takes just its operands and the value from the stack. -/
theorem stack_write (hvar : tableAt? g.variableTable i.variableIndex = some var)
    (hfield' : i.instanceField ≠ Selector.stackTop) (w : World) :
    (f.write g w i).1.stack = f.stack.drop (i.operandCount + 1) := by
  by_cases hi : i.isStackTopAccess = true
  · have harray := Instruction.not_isArrayAccess_of_isStackTopAccess hi
    have hcount : i.operandCount = 1 := by
      simp [Instruction.operandCount, hi, harray]
    simp only [write, hvar, hi, if_true, pop]
    rw [hcount]
    split <;> simp [popAddress, harray, stack_drop]
  · have hcount : i.operandCount = if i.isArrayAccess then 2 else 0 := by
      simp [Instruction.operandCount, hi]
    have hstack : (f.popAddress i).2.drop.stack = f.stack.drop (i.operandCount + 1) := by
      rw [hcount, stack_drop, stack_popAddress, List.drop_drop]
    obtain ⟨a, f', hpop⟩ : ∃ a f', f.popAddress i = (a, f') := ⟨_, _, rfl⟩
    rw [hpop] at hstack
    rw [write_of_selector hvar hpop hi, if_neg hfield', ← hstack]
    split_ifs
    · exact stack_writeLocal _ _ _ _
    · rfl
    · rfl

end Height

end Frame

namespace Machine

section Height

variable (exec : Exec) {s : Setup} {i : Instruction} (f : Frame) (w : World)

theorem step_load (hi : i.LoadsVariable) :
    step exec s i f w = proceed ((f.read s.game w i none).2.push (f.read s.game w i none).1) w := by
  simp only [step, hi.1, push, hi.2, constant?]
  rfl

theorem step_store (hi : i.StoresVariable) :
    step exec s i f w = proceed (f.write s.game w i).1 (f.write s.game w i).2 := by
  have hop : i.op? = some .pop := hi
  simp only [step, hop]

variable (hfield : i.instanceField ≠ 0) (hfield' : i.instanceField ≠ Selector.stackTop)
  (hdeep : i.neededHeight ≤ f.stack.length)
  (htarget : i.isArrayAccess = true → f.drop.top.toInt ≠ Selector.stackTop)

include hfield hfield' hdeep htarget

theorem exists_step_load_height (hi : i.LoadsVariable) :
    ∃ f' w', step exec s i f w = proceed f' w' ∧
      (f'.stack.length : Int) = f.stack.length + i.valueChange - i.takenOperands s.game := by
  have hop : i.op? ≠ some .pop := by
    rw [hi.1]
    decide
  simp only [Instruction.neededHeight, if_neg hop] at hdeep
  refine ⟨_, _, step_load exec f w hi, ?_⟩
  simp only [Instruction.valueChange, if_neg hop, Frame.push, List.length_cons]
  cases hvar : tableAt? s.game.variableTable i.variableIndex with
  | none => simp [Frame.read, hvar, Instruction.takenOperands, Instruction.HasVariable]
  | some var =>
    rw [Frame.stack_read hvar hi.1 hfield hfield' htarget, List.length_drop]
    simp only [Instruction.takenOperands, Instruction.HasVariable, hvar, Option.isSome_some, if_true]
    omega

omit hfield htarget

theorem exists_step_store_height (hi : i.StoresVariable) :
    ∃ f' w', step exec s i f w = proceed f' w' ∧
      (f'.stack.length : Int) = f.stack.length + i.valueChange - i.takenOperands s.game := by
  have hop : i.op? = some .pop := hi
  simp only [Instruction.neededHeight, if_pos hop] at hdeep
  refine ⟨_, _, step_store exec f w hi, ?_⟩
  simp only [Instruction.valueChange, if_pos hop]
  cases hvar : tableAt? s.game.variableTable i.variableIndex with
  | none =>
    have hnone : i.takenOperands s.game = 0 := by
      simp [Instruction.takenOperands, Instruction.HasVariable, hvar]
    simp only [Frame.write, hvar, Frame.stack_drop, List.length_drop, hnone]
    omega
  | some var =>
    rw [Frame.stack_write hvar hfield', List.length_drop]
    simp only [Instruction.takenOperands, Instruction.HasVariable, hvar, Option.isSome_some, if_true]
    omega

include hfield htarget

/-- Where the stack is deep enough, a load or store that is linked to its variable changes the height
as the encoding promises, whoever the world holds. One that is not linked changes it as if it had no
operands. So the promise is kept if and only if the reference is linked or there are no operands. -/
theorem heightChange_iff_hasVariable (hi : i.LoadsVariable ∨ i.StoresVariable) :
    ∃ f' w', step exec s i f w = proceed f' w' ∧
      (f'.stack.length : Int) = f.stack.length + i.valueChange - i.takenOperands s.game ∧
      ((f'.stack.length : Int) = f.stack.length + i.heightChange ↔
        i.HasVariable s.game ∨ i.operandCount = 0) := by
  obtain ⟨f', w', hstep, hheight⟩ : ∃ f' w', step exec s i f w = proceed f' w' ∧
      (f'.stack.length : Int) = f.stack.length + i.valueChange - i.takenOperands s.game := by
    rcases hi with hi | hi
    · exact exists_step_load_height exec f w hfield hfield' hdeep htarget hi
    · exact exists_step_store_height exec f w hfield' hdeep hi
  refine ⟨f', w', hstep, hheight, ?_⟩
  rw [hheight, Instruction.heightChange, Instruction.takenOperands]
  by_cases hlinked : i.HasVariable s.game
  · simp only [hlinked, if_true, true_or, iff_true]
    omega
  · simp only [hlinked, if_false, false_or]
    omega

end Height

/-- The changes in height that are promised for the three kinds of reference, to loads and to
stores. -/
example : [RefKind.normal, RefKind.stackTop, RefKind.array].map (fun kind =>
      ((accessTo 0 .push Selector.self kind).heightChange,
        (accessTo 0 .pop Selector.self kind).heightChange)) =
    [(1, -1), (0, -2), (-1, -3)] := by
  decide

/-- A store to an element on an object that has no instances takes index, target and value. -/
theorem heightChange_iff_hasVariable_element :
    ∃ f' w', step (fun _ _ _ _ => none) twoVariables (accessTo 1 .pop Selector.self RefKind.array)
        { Frame.start 0 100001 100001 with stack := [.ofInt 2, .ofInt 5, .ofInt 7, .one] }
        hermitage = proceed f' w' ∧ f'.stack.length = 1 := by
  obtain ⟨f', w', hstep, -, hiff⟩ := heightChange_iff_hasVariable (fun _ _ _ _ => none)
    (s := twoVariables) (i := accessTo 1 .pop Selector.self RefKind.array)
    { Frame.start 0 100001 100001 with stack := [.ofInt 2, .ofInt 5, .ofInt 7, .one] } hermitage
    (by decide) (by decide) (by decide) (by decide +kernel) (.inr rfl)
  have hheight := hiff.mpr (.inl (by decide))
  have hchange : (accessTo 1 .pop Selector.self RefKind.array).heightChange = -3 := by decide
  rw [hchange] at hheight
  exact ⟨f', w', hstep, by simpa using hheight⟩

/-- Without a link the same store takes the index alone, and the load none of its operands, though
the stack is deep enough. -/
theorem heightChange_broken_unlinked :
    let store := accessTo (-1) .pop Selector.self RefKind.array
    let load := accessTo (-1) .push Selector.self RefKind.array
    let f := { Frame.start 0 100001 100001 with stack := [.ofInt 2, .ofInt 5, .ofInt 7, .one] }
    (store.neededHeight ≤ f.stack.length ∧ f.stack.length + store.heightChange = 1 ∧
      (step (fun _ _ _ _ => none) twoVariables store f hermitage).map (·.2.1.stack.length) =
        some 3) ∧
    (load.neededHeight ≤ f.stack.length ∧ f.stack.length + load.heightChange = 3 ∧
      (step (fun _ _ _ _ => none) twoVariables load f hermitage).map (·.2.1.stack.length) =
        some 5) := by
  decide +kernel

end Machine

end GameRunner

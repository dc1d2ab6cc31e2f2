import GameRunner.Proofs.Code.RoundTrip
import GameRunner.Proofs.Machine.StoreLoad

/-!
# Adding to an element of an array

Code that adds a number to an element pushes self and the index, repeats both for the load, adds and
stores. The sum is then above the address, where a store looks for the index: it takes the sum for
the index, the index for the target and the target for the value. What becomes of the element is
computed here for every instance, index and number.
-/

namespace GameRunner

namespace Frame

/-- The instances on which a store through a selector keeps the value, if there is a self. -/
def reached (g : Game) (w : World) (f : Frame) (selector : Int32) : List Int32 :=
  if selector = Selector.frame ∨ selector = Selector.global then []
  else if 0 ≤ selector then w.select g selector f.self f.other
  else [(w.resolve? g selector f.self f.other).getD f.self]

theorem writeThrough_eq_writeEach {g : Game} {w : World} {f : Frame} {name : String}
    {selector : Int32} (hown : IsOwnName name) (hself : w.instances.contains f.self)
    (hkept : ¬ (selector = Selector.frame ∨ selector = Selector.global)) (v : Value)
    (a : Option Address) :
    f.writeThrough g w name selector v a = w.writeEach (f.reached g w selector) name v a := by
  unfold reached
  rw [if_neg hkept, writeThrough_of_not_mem hown.view, writeInstances]
  split_ifs
  · rfl
  · have htarget : w.instances.contains ((w.resolve? g selector f.self f.other).getD f.self) := by
      cases hresolve : w.resolve? g selector f.self f.other with
      | none => exact hself
      | some id => exact World.contains_of_resolve? hresolve
    rw [writeNear_of_own hown, if_pos htarget]
    rfl

end Frame

namespace Machine

/-- Performs instructions one after the other, as long as none of them goes elsewhere. -/
def performAll (exec : Exec) (s : Setup) : List Instruction → Frame → World → StepResult
  | [], f, w => proceed f w
  | i :: rest, f, w =>
    match step exec s i f w with
    | some (.ok .next, f, w) => performAll exec s rest f w
    | outcome => outcome

theorem performAll_cons {exec : Exec} {s : Setup} {i : Instruction} {f f' : Frame} {w w' : World}
    (h : step exec s i f w = proceed f' w') (rest : List Instruction) :
    performAll exec s (i :: rest) f w = performAll exec s rest f' w' := by
  simp only [performAll, h, proceed]

section Statements

variable (exec : Exec) (s : Setup) (f : Frame) (w : World) (offset : Nat)

theorem op?_instruction (st : Statement) :
    (st.instruction offset).op? = Opcode.ofByte? st.opcodeByte := by
  unfold Instruction.op?
  rw [Statement.opcode_instruction]

theorem step_pushImmediate (n : Int16) :
    step exec s ((Statement.pushImmediate n).instruction offset) f w =
      proceed (f.push (.ofInt n.toInt32)) w := by
  have hop : ((Statement.pushImmediate n).instruction offset).op? = some .pushi :=
    op?_instruction offset _
  have hextra : ((Statement.pushImmediate n).instruction offset).extra = n :=
    Statement.operand_instruction (s := .pushImmediate n) trivial offset
  simp only [step, hop, hextra]

theorem step_duplicate (extra : UInt8) :
    step exec s ((Statement.duplicate extra).instruction offset) f w =
      proceed (f.duplicate (extra.toNat + 1)) w := by
  have hop : ((Statement.duplicate extra).instruction offset).op? = some .dup :=
    op?_instruction offset _
  have hcount : ((Statement.duplicate extra).instruction offset).dupCount = extra.toNat :=
    Statement.operand_instruction (s := .duplicate extra) trivial offset
  simp only [step, hop, hcount]

theorem step_add :
    step exec s ((Statement.op Opcode.add.toByte).instruction offset) f w =
      proceed (f.combine Value.add) w := by
  have hop : ((Statement.op Opcode.add.toByte).instruction offset).op? = some .add :=
    op?_instruction offset _
  simp only [step, hop]

theorem step_constant (st : Statement) (hst : st.Readable)
    (hop : st.opcodeByte = Opcode.push.toByte) {v : Value}
    (hv : constant? s.game st.literal = some v) :
    step exec s (st.instruction offset) f w = proceed (f.push v) w := by
  have hop : (st.instruction offset).op? = some .push := by
    rw [op?_instruction, hop]
    rfl
  simp only [step, hop, push, Statement.literal_instruction hst, hv]

end Statements

/-! ### Elements of self -/

/-- An access to elements on self. -/
def elementAccess (index : Int32) (op : AccessOp) (offset : Nat) : Instruction :=
  { (Statement.access op Selector.self RefKind.array 0).instruction offset with
    variableIndex := index }

section Elements

variable (exec : Exec) {s : Setup} {f : Frame} {w : World} {index : Int32} {var : Variable}
  (op : AccessOp) (offset : Nat)

theorem op?_elementAccess :
    (elementAccess index op offset).op? = Opcode.ofByte? op.opcode.toByte :=
  op?_instruction offset (.access op Selector.self RefKind.array 0)

theorem refKind_elementAccess : (elementAccess index op offset).refKind = RefKind.array :=
  Statement.refKind_instruction (.access op Selector.self RefKind.array 0) offset

theorem instanceField_elementAccess :
    (elementAccess index op offset).instanceField = Selector.self :=
  Int32.toInt_inj.mp
    (Statement.operand_instruction (s := .access op Selector.self RefKind.array 0) trivial offset)

theorem popAddress_elementAccess (x target : Value) (rest : List Value) :
    ({ f with stack := x :: target :: rest } : Frame).popAddress (elementAccess index op offset) =
      (some ⟨x.toInt, target.toInt⟩, { f with stack := rest }) := by
  have harray : (elementAccess index op offset).isArrayAccess = true := by
    unfold Instruction.isArrayAccess
    rw [refKind_elementAccess]
    rfl
  simp [Frame.popAddress, harray, Frame.top, Frame.drop]

theorem not_isStackTopAccess_elementAccess :
    ¬ (elementAccess index op offset).isStackTopAccess = true := by
  unfold Instruction.isStackTopAccess
  rw [refKind_elementAccess]
  decide

variable (hvar : tableAt? s.game.variableTable index = some var) (hown : IsOwnName var.name)
  (hself : w.instances.contains f.self)

include hvar hown hself

theorem step_loadElement {target : Value} (htarget : target.toInt = Selector.self) (x : Value)
    (rest : List Value) :
    step exec s (elementAccess index .push offset) { f with stack := x :: target :: rest } w =
      proceed { f with stack := w.elementOn f.self var.name x.toInt :: rest } w := by
  have hop : (elementAccess index .push offset).op? = some .push := op?_elementAccess .push offset
  have hliteral : (elementAccess index .push offset).literal = .none :=
    Statement.literal_instruction (s := .access .push Selector.self RefKind.array 0) trivial offset
  have hlinked : tableAt? s.game.variableTable (elementAccess index .push offset).variableIndex =
      some var := hvar
  have hresolve := World.resolve?_self s.game hself f.other
  have hread : ({ f with stack := x :: target :: rest } : Frame).read s.game w
      (elementAccess index .push offset) none =
      (w.elementOn f.self var.name x.toInt, { f with stack := rest }) := by
    rw [Frame.read_of_selector hlinked (popAddress_elementAccess .push offset x target rest)
      (not_isStackTopAccess_elementAccess .push offset)]
    simp only [Frame.selector, htarget]
    rw [if_neg (by decide), if_neg (by decide), if_neg (by decide), Frame.readThrough_of_own hown,
      hresolve]
    rfl
  simp only [step, hop, push, hliteral, constant?, pushVariable, hread]
  rfl

/-- A store through a target puts the value under the index on all that are reached, and nowhere
else on instances. -/
theorem step_storeElement (x target v : Value) (rest : List Value) :
    ∃ f' w', step exec s (elementAccess index .pop offset)
        { f with stack := x :: target :: v :: rest } w = proceed f' w' ∧
      f'.stack = rest ∧
      ∀ k i, w.instances.contains k → w'.elementOn k var.name i =
        if k ∈ f.reached s.game w target.toInt ∧ i = x.toInt then v
        else w.elementOn k var.name i := by
  have hop : (elementAccess index .pop offset).op? = some .pop := op?_elementAccess .pop offset
  have hfield : (elementAccess index .pop offset).instanceField ≠ Selector.stackTop := by
    rw [instanceField_elementAccess]
    decide
  have hlinked : tableAt? s.game.variableTable (elementAccess index .pop offset).variableIndex =
      some var := hvar
  have hwrite := Frame.write_of_selector (w := w) hlinked
    (popAddress_elementAccess (f := f) .pop offset x target (v :: rest))
    (not_isStackTopAccess_elementAccess .pop offset)
  simp only [Frame.selector, if_neg hfield] at hwrite
  simp only [step, hop, hwrite]
  by_cases hframe : target.toInt = Selector.frame
  · rw [if_pos hframe]
    refine ⟨_, _, rfl, rfl, fun k i _ => ?_⟩
    simp [Frame.reached, hframe]
  rw [if_neg hframe]
  by_cases hglobal : target.toInt = Selector.global
  · rw [if_pos hglobal]
    refine ⟨_, _, rfl, rfl, fun k i _ => ?_⟩
    simp only [Frame.reached, hglobal, or_true, if_true, List.not_mem_nil, false_and, if_false]
    rfl
  · rw [if_neg hglobal]
    have hthrough := Frame.writeThrough_eq_writeEach (g := s.game) hown hself
      (not_or_intro hframe hglobal) v (some ⟨x.toInt, target.toInt⟩)
    exact ⟨{ f with stack := rest }, _, congrArg (proceed { f with stack := rest }) hthrough, rfl,
      fun k i hk => World.elementOn_writeEach hown hk _ _ _ _⟩

end Elements

/-! ### The whole -/

/-- Adds a number to an element on self, in the way that compiled code does it. -/
def addToElement (index i : Int32) (bits : UInt64) : List Instruction :=
  [(Statement.pushImmediate (-1)).instruction 0, (Statement.pushInt32 i).instruction 4,
    (Statement.duplicate 1).instruction 12, elementAccess index .push 16,
    (Statement.pushDouble bits).instruction 24, (Statement.op Opcode.add.toByte).instruction 36,
    elementAccess index .pop 40]

section Whole

variable {s : Setup} {f : Frame} {w : World} {index : Int32} {var : Variable}
  (hvar : tableAt? s.game.variableTable index = some var) (hown : IsOwnName var.name)
  (hself : w.instances.contains f.self)

include hvar hown hself

/-- Before the store the sum is above the address. -/
theorem performAll_addToElement (exec : Exec) (i : Int32) (bits : UInt64) :
    performAll exec s (addToElement index i bits) f w =
      performAll exec s [elementAccess index .pop 40]
        { f with
          stack := (w.elementOn f.self var.name (Value.ofInt i).toInt).add
            (.real (Float.ofBits bits)) :: .ofInt i :: .ofInt (-1) :: f.stack } w := by
  have htarget : (Value.ofInt (-1)).toInt = Selector.self := by decide +kernel
  have hself' : step exec s ((Statement.pushImmediate (-1)).instruction 0) f w =
      proceed { f with stack := .ofInt (-1) :: f.stack } w :=
    step_pushImmediate exec s f w 0 (-1)
  have hindex (f : Frame) : step exec s ((Statement.pushInt32 i).instruction 4) f w =
      proceed { f with stack := .ofInt i :: f.stack } w :=
    step_constant exec s f w 4 (.pushInt32 i) trivial rfl rfl
  have hdup (x y : Value) (rest : List Value) : step exec s ((Statement.duplicate 1).instruction 12)
      { f with stack := x :: y :: rest } w =
      proceed { f with stack := x :: y :: x :: y :: rest } w :=
    step_duplicate exec s { f with stack := x :: y :: rest } w 12 1
  have hnumber (f : Frame) : step exec s ((Statement.pushDouble bits).instruction 24) f w =
      proceed { f with stack := .real (Float.ofBits bits) :: f.stack } w :=
    step_constant exec s f w 24 (.pushDouble bits) trivial rfl rfl
  have hadd (x y : Value) (rest : List Value) :
      step exec s ((Statement.op Opcode.add.toByte).instruction 36)
        { f with stack := y :: x :: rest } w = proceed { f with stack := x.add y :: rest } w :=
    step_add exec s { f with stack := y :: x :: rest } w 36
  unfold addToElement
  rw [performAll_cons hself', performAll_cons (hindex _), performAll_cons (hdup _ _ _),
    performAll_cons (step_loadElement exec 16 hvar hown hself htarget _ _), performAll_cons (hnumber _),
    performAll_cons (hadd _ _ _)]

/-- Adding a number to an element in this way puts minus one, the selector of self, under the sum on
those whom the index means as a selector, and the stack is left as it was. So the element becomes the
sum only if it is the sum anyway, or the sum is minus one and is stored right there. -/
theorem addToElement_adds_iff (exec : Exec) (i : Int32) (bits : UInt64) :
    let place := (Value.ofInt i).toInt
    let old := w.elementOn f.self var.name place
    let sum := old.add (.real (Float.ofBits bits))
    ∃ f' w', performAll exec s (addToElement index i bits) f w = proceed f' w' ∧
      f'.stack = f.stack ∧
      (∀ k j, w.instances.contains k → w'.elementOn k var.name j =
        if k ∈ f.reached s.game w place ∧ j = sum.toInt then .ofInt (-1)
        else w.elementOn k var.name j) ∧
      (w'.elementOn f.self var.name place = sum ↔
        if f.self ∈ f.reached s.game w place ∧ place = sum.toInt then sum = .ofInt (-1)
        else sum = old) := by
  intro place old sum
  obtain ⟨f', w', hstep, hstack, helements⟩ := step_storeElement exec 40 hvar hown hself sum
    (.ofInt i) (.ofInt (-1)) f.stack
  refine ⟨f', w', ?_, hstack, helements, ?_⟩
  · rw [performAll_addToElement hvar hown hself, performAll_cons hstep]
    rfl
  · rw [helements f.self place hself]
    split_ifs
    · exact eq_comm
    · exact eq_comm

end Whole

/-- Under the index minus one, an element that becomes minus one is stored right. -/
theorem addToElement_adds_at_self :
    ∃ f' w', performAll (fun _ _ _ _ => none) twoVariables
        (addToElement 1 (-1) 0xbff0000000000000) (.start 0 100001 100001) hermitage =
        proceed f' w' ∧
      f'.stack = [] ∧ w'.elementOn 100001 "b" (Value.ofInt (-1)).toInt = .ofInt (-1) := by
  have hvar : tableAt? twoVariables.game.variableTable 1 = some ⟨"b", Selector.self, 1, 0, 0⟩ := rfl
  have hself : hermitage.instances.contains (Frame.start 0 100001 100001).self := by decide +kernel
  obtain ⟨f', w', hrun, hstack, helements, -⟩ := addToElement_adds_iff hvar (by decide) hself
    (fun _ _ _ _ => none) (-1) 0xbff0000000000000
  refine ⟨f', w', hrun, hstack, ?_⟩
  exact (helements 100001 _ hself).trans (if_pos (by decide +kernel))

/-- One is added to five under the index zero: the element stays five, and the element under six
becomes minus one. -/
theorem addToElement_misplaced :
    let w := hermitage.storeElementOn 100001 "b" 0 (.ofInt 5)
    (performAll (fun _ _ _ _ => none) twoVariables (addToElement 1 0 0x3ff0000000000000)
        (.start 0 100001 100001) w).map
      (fun outcome => [0, 6].map fun i => (outcome.2.2.elementOn 100001 "b" i).toInt) =
      some [5, -1] := by
  decide +kernel

end Machine

end GameRunner

import GameRunner.Machine.Step
import GameRunner.Proofs.Code.Statements
import GameRunner.Proofs.World.OwnVariables

/-!
# Storing and loading through one address

A value that is stored through some operands is loaded again through the same ones, for every
addressing mode in which storing and loading agree on the place. They do not agree in two cases.
Storing looks for the instance on the stack if the instance field says so, loading if the selector
does, which for an element is the target from the stack and for a plain variable may be the default
of the variable. And storing to other falls back on self if other does not exist, where loading
falls back on the global variables.
-/

namespace GameRunner

namespace Frame

/-- The address among the operands of an access, which are given with the top first. -/
def addressIn (i : Instruction) : List Value → Option Address
  | index :: target :: _ => if i.isArrayAccess then some ⟨index.toInt, target.toInt⟩ else none
  | _ => none

/-- The selector of an access with operands. -/
def selectorIn (i : Instruction) (var : Variable) (operands : List Value) : Int32 :=
  selector i var (addressIn i operands)

/-- The access takes the instance that it means from the stack. -/
def NamesInstance (i : Instruction) (var : Variable) (operands : List Value) : Prop :=
  i.isStackTopAccess = true ∨ selectorIn i var operands = Selector.stackTop

instance (i : Instruction) (var : Variable) (operands : List Value) :
    Decidable (NamesInstance i var operands) := inferInstanceAs (Decidable (_ ∨ _))

/-- The operands of an access are an index and a target if it is an element that is meant, and then
the instance if it is taken from the stack. -/
def AreOperands (i : Instruction) (var : Variable) (operands : List Value) : Prop :=
  operands.length =
    (if i.isArrayAccess then 2 else 0) + if NamesInstance i var operands then 1 else 0

instance (i : Instruction) (var : Variable) (operands : List Value) :
    Decidable (AreOperands i var operands) := inferInstanceAs (Decidable (_ = _))

/-- A store finds some place for the value: the instance on the stack is there, or the object that
is meant has an instance. There is always a place elsewhere. -/
def FindsPlace (g : Game) (w : World) (f : Frame) (i : Instruction) (var : Variable)
    (operands : List Value) : Prop :=
  if NamesInstance i var operands then
    ∃ target ∈ operands.getLast?, (f.dotTarget? g w target.toInt).isSome
  else
    0 ≤ selectorIn i var operands →
      w.select g (selectorIn i var operands) f.self f.other ≠ []

instance (g : Game) (w : World) (f : Frame) (i : Instruction) (var : Variable)
    (operands : List Value) : Decidable (FindsPlace g w f i var operands) :=
  inferInstanceAs (Decidable (if NamesInstance i var operands then
    ∃ target ∈ operands.getLast?, (f.dotTarget? g w target.toInt).isSome else _ → _))

/-- Storing and loading agree on the place. -/
def Agrees (w : World) (f : Frame) (i : Instruction) (var : Variable) (operands : List Value) :
    Prop :=
  i.isStackTopAccess = true ∨ selectorIn i var operands = Selector.frame ∨
    selectorIn i var operands = Selector.global ∨
    (selectorIn i var operands = Selector.stackTop ↔ i.instanceField = Selector.stackTop) ∧
      (selectorIn i var operands = Selector.other →
        w.instances.contains f.other ∨ ¬ w.instances.contains f.self)

instance (w : World) (f : Frame) (i : Instruction) (var : Variable) (operands : List Value) :
    Decidable (Agrees w f i var operands) := inferInstanceAs (Decidable (_ ∨ _))

/-- Where the instance is taken from the stack it is what is left of the operands behind the
address. -/
theorem AreOperands.exists_target {i : Instruction} {var : Variable} {operands : List Value}
    (h : AreOperands i var operands) (hnames : NamesInstance i var operands) :
    ∃ target ∈ operands.getLast?, ∀ (f : Frame) (rest : List Value),
      ({ f with stack := operands ++ rest } : Frame).popAddress i =
        (addressIn i operands, { f with stack := target :: rest }) := by
  unfold AreOperands at h
  rw [if_pos hnames] at h
  split_ifs at h with harray
  · obtain ⟨index, target, t, rfl⟩ := List.length_eq_three.mp h
    exact ⟨t, rfl, fun f rest => by simp [popAddress, addressIn, harray, top, drop]⟩
  · obtain ⟨t, rfl⟩ := List.length_eq_one_iff.mp h
    exact ⟨t, rfl, fun f rest => by simp [popAddress, addressIn, harray]⟩

/-- Elsewhere the operands are just the address. -/
theorem AreOperands.popAddress_eq {i : Instruction} {var : Variable} {operands : List Value}
    (h : AreOperands i var operands) (hnames : ¬ NamesInstance i var operands) (f : Frame)
    (rest : List Value) :
    ({ f with stack := operands ++ rest } : Frame).popAddress i =
      (addressIn i operands, { f with stack := rest }) := by
  unfold AreOperands at h
  rw [if_neg hnames] at h
  split_ifs at h with harray
  · obtain ⟨index, target, rfl⟩ := List.length_eq_two.mp h
    simp [popAddress, addressIn, harray, top, drop]
  · obtain rfl := List.length_eq_zero_iff.mp h
    simp [popAddress, addressIn, harray]

section Places

variable {g : Game} {w : World} {f : Frame} {name : String} {sel : Int32} {a : Option Address}

theorem storeViewElement?_of_not_mem (h : name ∉ viewNames) (w : World) (index : Int32)
    (v : Value) : w.storeViewElement? name index v = none := by
  unfold World.storeViewElement?
  rw [Option.bind_eq_none_iff]
  intro view _
  rw [Option.map_eq_none_iff, Option.eq_none_iff_forall_ne_some]
  exact fun view' hview => h (World.mem_viewNames_of_viewWith? hview)

theorem viewElement?_of_own (h : IsOwnName name) (w : World) (index : Int32) :
    w.viewElement? name index = none :=
  Option.eq_none_iff_forall_ne_some.mpr fun _ hv => h.view (World.mem_viewNames_of_viewElement? hv)

theorem writeThrough_of_not_mem (h : name ∉ viewNames) (w : World) (f : Frame) (sel : Int32)
    (v : Value) (a : Option Address) :
    f.writeThrough g w name sel v a = f.writeInstances g w name sel v a := by
  unfold writeThrough
  have hview : (a.bind fun a => w.storeViewElement? name a.index v) = none := by
    rw [Option.bind_eq_none_iff]
    exact fun a _ => storeViewElement?_of_not_mem h w a.index v
  rw [hview]

theorem readThrough_of_own (h : IsOwnName name) (w : World) (f : Frame) (sel : Int32)
    (a : Option Address) :
    f.readThrough g w name sel a =
      match w.resolve? g sel f.self f.other with
      | some id => readOn g w id name a
      | none => readGlobal w name a := by
  cases a with
  | some a =>
    simp only [readThrough, viewElement?_of_own h]
    rfl
  | none =>
    simp only [readThrough, World.globalValue_of_not_mem h.engine]
    rfl

theorem writeNear_of_own (h : IsOwnName name) (w : World) (f : Frame) (sel : Int32) (v : Value)
    (a : Option Address) :
    f.writeNear g w name sel v a =
      if w.instances.contains ((w.resolve? g sel f.self f.other).getD f.self) then
        writeOn w ((w.resolve? g sel f.self f.other).getD f.self) name v a
      else writeGlobal w name v a := by
  cases a with
  | some a => rfl
  | none =>
    simp only [writeNear, World.storeGlobal_of_not_mem h.engine]
    rfl

/-- Storing through an object reaches the instance from which is loaded. -/
theorem readThrough_writeThrough_of_nonneg (h : IsOwnName name) (hsel : 0 ≤ sel)
    (hplace : w.select g sel f.self f.other ≠ []) (v : Value) :
    f.readThrough g (f.writeThrough g w name sel v a) name sel a = v := by
  obtain ⟨id, rest, hids⟩ := List.exists_cons_of_ne_nil hplace
  have hwrite : f.writeThrough g w name sel v a = w.writeEach (id :: rest) name v a := by
    rw [writeThrough_of_not_mem h.view, writeInstances, if_pos hsel, hids]
    rfl
  have hid : w.instances.contains id := by
    apply World.contains_of_mem_select
    rw [hids]
    exact List.mem_cons_self
  have hresolve : (w.writeEach (id :: rest) name v a).resolve? g sel f.self f.other = some id := by
    rw [World.resolve?_congr (World.tags_writeEach h _ _ _ _), World.resolve?_of_nonneg g w hsel,
      hids, List.head?_cons]
  rw [hwrite, readThrough_of_own h, hresolve]
  exact World.readOn_of_holdsOn h g (World.holdsOn_writeEach_head h hid)

/-- Storing to self or other goes where is loaded from, unless there is a self but no other. -/
theorem readThrough_writeThrough_of_neg (h : IsOwnName name) (hsel : ¬ 0 ≤ sel)
    (hglobal : sel ≠ Selector.global) (hframe : sel ≠ Selector.frame)
    (hother : sel = Selector.other → w.instances.contains f.other ∨ ¬ w.instances.contains f.self)
    (v : Value) :
    f.readThrough g (f.writeThrough g w name sel v a) name sel a = v := by
  have hwrite : f.writeThrough g w name sel v a = f.writeNear g w name sel v a := by
    rw [writeThrough_of_not_mem h.view, writeInstances, if_neg hsel]
  rw [hwrite, writeNear_of_own h, readThrough_of_own h]
  cases hresolve : w.resolve? g sel f.self f.other with
  | some id =>
    have hid := World.contains_of_resolve? hresolve
    rw [Option.getD_some, if_pos hid, World.resolve?_congr (World.tags_writeOn h _ _ _ _), hresolve]
    exact World.readOn_of_holdsOn h g (World.holdsOn_writeOn h hid)
  | none =>
    have hself : ¬ w.instances.contains f.self := by
      have habsent := (World.resolve?_eq_none_iff_of_neg hsel hglobal hframe).mp hresolve
      split_ifs at habsent with hsel'
      · exact (hother hsel').resolve_left habsent
      · exact habsent
    have htags : (writeGlobal w name v a).instances.tags = w.instances.tags := by
      cases a <;> rfl
    rw [Option.getD_none, if_neg hself, World.resolve?_congr htags, hresolve]
    exact readGlobal_writeGlobal w name v a

/-- Without an other, storing to it falls back on self, and loading on the global variables. -/
theorem readThrough_writeThrough_of_no_other (h : IsOwnName name)
    (hother : ¬ w.instances.contains f.other) (hself : w.instances.contains f.self) (v : Value) :
    f.readThrough g (f.writeThrough g w name Selector.other v a) name Selector.other a =
      readGlobal w name a := by
  have habsent : w.resolve? g Selector.other f.self f.other = none :=
    (World.resolve?_eq_none_iff_of_neg (by decide) (by decide) (by decide)).mpr hother
  have hwrite : f.writeThrough g w name Selector.other v a = writeOn w f.self name v a := by
    rw [writeThrough_of_not_mem h.view, writeInstances, if_neg (by decide), writeNear_of_own h,
      habsent, Option.getD_none, if_pos hself]
  rw [hwrite, readThrough_of_own h, World.resolve?_congr (World.tags_writeOn h _ _ _ _), habsent,
    World.writeOn_of_own h]
  cases a <;> rfl

end Places

/-! ### One access -/

section Access

variable {g : Game} {w : World} {f f' : Frame} {i : Instruction} {var : Variable}
  {a : Option Address}

theorem write_of_stackTopAccess (hvar : tableAt? g.variableTable i.variableIndex = some var)
    (hpop : f.popAddress i = (a, f')) (hi : i.isStackTopAccess = true) {id : Int32}
    (hid : f'.dotTarget? g w f'.top.toInt = some id) :
    f.write g w i = (f'.drop.drop, w.storeOn id var.name f'.drop.top) := by
  have hid' : f'.drop.drop.dotTarget? g w f'.top.toInt = some id := hid
  simp only [write, hvar, hpop, hi, if_true, pop, hid']

theorem read_of_stackTopAccess (hvar : tableAt? g.variableTable i.variableIndex = some var)
    (hpop : f.popAddress i = (a, f')) (hop : i.op? = some .push) (hi : i.isStackTopAccess = true)
    {id : Int32} (hid : f'.dotTarget? g w f'.top.toInt = some id) :
    f.read g w i none = (w.valueOn g id var.name, f'.drop) := by
  have hid' : f'.drop.dotTarget? g w f'.top.toInt = some id := hid
  simp [read, hvar, hpop, hop, hi, pop, hid']

/-- A store that is not marked for the top of the stack looks at the selector for local and global
variables, and then at the instance field. -/
theorem write_of_selector (hvar : tableAt? g.variableTable i.variableIndex = some var)
    (hpop : f.popAddress i = (a, f')) (hi : ¬ i.isStackTopAccess = true) :
    f.write g w i =
      if selector i var a = Selector.frame then (f'.drop.writeLocal var f'.top a, w)
      else if selector i var a = Selector.global then (f'.drop, writeGlobal w var.name f'.top a)
      else if i.instanceField = Selector.stackTop then
        (f'.drop.drop, match f'.dotTarget? g w f'.top.toInt with
          | some id => writeOn w id var.name f'.drop.top a
          | none => w)
      else (f'.drop, f'.writeThrough g w var.name (selector i var a) f'.top a) := by
  have hsame : f'.drop.drop.dotTarget? g w f'.top.toInt = f'.dotTarget? g w f'.top.toInt := rfl
  simp only [write, hvar, hpop, pop, if_neg hi, hsame]
  cases f'.dotTarget? g w f'.top.toInt <;> rfl

/-- A load that is not marked for the top of the stack looks at the selector only. -/
theorem read_of_selector (hvar : tableAt? g.variableTable i.variableIndex = some var)
    (hpop : f.popAddress i = (a, f')) (hi : ¬ i.isStackTopAccess = true) :
    f.read g w i none =
      if selector i var a = Selector.frame then (f'.readLocal var a, f')
      else if selector i var a = Selector.global then (readGlobal w var.name a, f')
      else if selector i var a = Selector.stackTop then
        (((f'.dotTarget? g w f'.top.toInt).map fun id => readOn g w id var.name a).getD .zero,
          f'.drop)
      else (f'.readThrough g w var.name (selector i var a) a, f') := by
  have hi' : ¬ (i.op? = some .push && i.isStackTopAccess) = true := by simp [hi]
  simp only [read, hvar, hpop, pop, if_neg hi', Option.getD_none]
  rfl

end Access

theorem exists_ne_value (x : Value) : ∃ v, x ≠ v := by
  cases x with
  | str s => exact ⟨.zero, by simp [Value.zero]⟩
  | _ => exact ⟨.str "", by simp⟩

theorem contains_of_dotTarget? {g : Game} {w : World} {f : Frame} {target id : Int32}
    (h : f.dotTarget? g w target = some id) : w.instances.contains id :=
  World.contains_of_mem_select (List.mem_of_mem_head? h)

theorem readOn_writeOn {name : String} (h : IsOwnName name) (g : Game) {w : World} {id : Int32}
    (hid : w.instances.contains id) (v : Value) (a : Option Address) :
    readOn g (writeOn w id name v a) id name a = v :=
  World.readOn_of_holdsOn h g (World.holdsOn_writeOn h hid)

theorem dotTarget?_writeOn {name : String} (h : IsOwnName name) (g : Game) (w : World) (f : Frame)
    (target id : Int32) (v : Value) (a : Option Address) :
    f.dotTarget? g (writeOn w id name v a) target = f.dotTarget? g w target := by
  unfold dotTarget?
  rw [World.select_congr (World.tags_writeOn h w id v a)]

/-! ### A store and a load -/

/-- A load through the same address as a store. -/
structure SameAccess (store load : Instruction) : Prop where
  pop : store.op? = some .pop
  push : load.op? = some .push
  literal : load.literal = .none
  variableIndex : load.variableIndex = store.variableIndex
  extra : load.extra = store.extra
  refKind : load.refKind = store.refKind

/-- What a store writes is what a load with the same operands reads, and both leave the stack below
the operands alone. -/
def ReadsWritten (g : Game) (w : World) (f : Frame) (store load : Instruction)
    (operands : List Value) (v : Value) (rest rest' : List Value) : Prop :=
  ∃ f' w', ({ f with stack := operands ++ v :: rest } : Frame).write g w store = (f', w') ∧
    f'.stack = rest ∧
    ({ f' with stack := operands ++ rest' } : Frame).read g w' load none =
      (v, { f' with stack := rest' })

theorem eq_of_push_eq {f f' : Frame} {x v : Value} {rest : List Value}
    (h : f.push x = { f' with stack := v :: rest }) : (x, f) = (v, { f' with stack := rest }) := by
  cases f
  cases f'
  simp_all [push]

section Pair

variable {g : Game} {w : World} {f : Frame} {store load : Instruction} {var : Variable}
  {operands : List Value}

namespace SameAccess

variable (same : SameAccess store load)

include same

theorem isStackTopAccess_eq : load.isStackTopAccess = store.isStackTopAccess := by
  unfold Instruction.isStackTopAccess
  rw [same.refKind]

theorem isArrayAccess_eq : load.isArrayAccess = store.isArrayAccess := by
  unfold Instruction.isArrayAccess
  rw [same.refKind]

theorem selector_eq (var : Variable) (a : Option Address) :
    selector load var a = selector store var a := by
  unfold selector Instruction.instanceField
  rw [same.extra]

theorem popAddress_eq (f : Frame) : f.popAddress load = f.popAddress store := by
  unfold popAddress
  rw [same.isArrayAccess_eq]

end SameAccess

/-- An access with a selector of its own takes no instance from the stack. -/
theorem not_namesInstance (hi : ¬ store.isStackTopAccess = true)
    (hsel : selectorIn store var operands ≠ Selector.stackTop) :
    ¬ NamesInstance store var operands := by
  rintro (hi' | hsel')
  · exact hi hi'
  · exact hsel hsel'

/-- The instance on the stack, where a store finds one. -/
theorem FindsPlace.exists_target (h : FindsPlace g w f store var operands)
    (hnames : NamesInstance store var operands) {target : Value}
    (hlast : target ∈ operands.getLast?) : ∃ id, f.dotTarget? g w target.toInt = some id := by
  unfold FindsPlace at h
  rw [if_pos hnames] at h
  obtain ⟨t, ht, hsome⟩ := h
  obtain rfl : t = target := Option.mem_unique ht hlast
  exact Option.isSome_iff_exists.mp hsome

variable (same : SameAccess store load)
  (hvar : tableAt? g.variableTable store.variableIndex = some var)
  (hops : AreOperands store var operands) (hi : ¬ store.isStackTopAccess = true)
  (v : Value) (rest rest' : List Value)

include same hvar hops

theorem readsWritten_of_stackTopAccess (hown : IsOwnName var.name)
    (hi : store.isStackTopAccess = true) (hplace : FindsPlace g w f store var operands) :
    ReadsWritten g w f store load operands v rest rest' := by
  have hnames : NamesInstance store var operands := .inl hi
  obtain ⟨target, hlast, hpop⟩ := hops.exists_target hnames
  obtain ⟨id, hid⟩ := hplace.exists_target hnames hlast
  have hid' : f.dotTarget? g (w.storeOn id var.name v) target.toInt = some id :=
    (dotTarget?_writeOn hown g w f _ id v none).trans hid
  have hread : (w.storeOn id var.name v).valueOn g id var.name = v :=
    readOn_writeOn hown g (contains_of_dotTarget? hid) v none
  refine ⟨{ f with stack := rest }, w.storeOn id var.name v,
    write_of_stackTopAccess hvar (hpop f (v :: rest)) hi hid, rfl, ?_⟩
  rw [read_of_stackTopAccess (same.variableIndex ▸ hvar) ((same.popAddress_eq _).trans (hpop f rest'))
    same.push (same.isStackTopAccess_eq ▸ hi) hid', hread]
  rfl

include hi

theorem readsWritten_of_frame (hsel : selectorIn store var operands = Selector.frame) :
    ReadsWritten g w f store load operands v rest rest' := by
  have hpop := hops.popAddress_eq (not_namesInstance hi (by rw [hsel]; decide))
  unfold selectorIn at hsel
  have hload : ¬ load.isStackTopAccess = true := same.isStackTopAccess_eq ▸ hi
  refine ⟨writeLocal { f with stack := rest } var v (addressIn store operands), w, ?_, ?_, ?_⟩
  · rw [write_of_selector hvar (hpop f (v :: rest)) hi, if_pos hsel]
    rfl
  · cases addressIn store operands <;> rfl
  · rw [read_of_selector (same.variableIndex ▸ hvar) ((same.popAddress_eq _).trans (hpop _ rest'))
      hload, if_pos ((same.selector_eq _ _).trans hsel)]
    congr 1
    exact readLocal_writeLocal _ var v _

theorem readsWritten_of_global (hsel : selectorIn store var operands = Selector.global) :
    ReadsWritten g w f store load operands v rest rest' := by
  have hpop := hops.popAddress_eq (not_namesInstance hi (by rw [hsel]; decide))
  unfold selectorIn at hsel
  have hload : ¬ load.isStackTopAccess = true := same.isStackTopAccess_eq ▸ hi
  refine ⟨{ f with stack := rest }, writeGlobal w var.name v (addressIn store operands), ?_, rfl, ?_⟩
  · rw [write_of_selector hvar (hpop f (v :: rest)) hi, hsel, if_neg (by decide), if_pos rfl]
    rfl
  · rw [read_of_selector (same.variableIndex ▸ hvar) ((same.popAddress_eq _).trans (hpop _ rest'))
      hload, same.selector_eq, hsel, if_neg (by decide), if_pos rfl, readGlobal_writeGlobal]

theorem readsWritten_of_stackTop (hown : IsOwnName var.name)
    (hplace : FindsPlace g w f store var operands)
    (hsel : selectorIn store var operands = Selector.stackTop)
    (hfield : store.instanceField = Selector.stackTop) :
    ReadsWritten g w f store load operands v rest rest' := by
  have hnames : NamesInstance store var operands := .inr hsel
  unfold selectorIn at hsel
  have hload : ¬ load.isStackTopAccess = true := same.isStackTopAccess_eq ▸ hi
  obtain ⟨target, hlast, hpop⟩ := hops.exists_target hnames
  obtain ⟨id, hid⟩ := hplace.exists_target hnames hlast
  refine ⟨{ f with stack := rest }, writeOn w id var.name v (addressIn store operands), ?_, rfl, ?_⟩
  · have hid' : ({ f with stack := target :: v :: rest } : Frame).dotTarget? g w target.toInt =
        some id := hid
    rw [write_of_selector hvar (hpop f (v :: rest)) hi, hsel, if_neg (by decide),
      if_neg (by decide), if_pos hfield]
    simp only [top, List.head?_cons, Option.getD_some, hid']
    rfl
  · have hid' : ({ f with stack := target :: rest' } : Frame).dotTarget? g
        (writeOn w id var.name v (addressIn store operands)) target.toInt = some id :=
      (dotTarget?_writeOn hown g w f _ id v _).trans hid
    rw [read_of_selector (same.variableIndex ▸ hvar) ((same.popAddress_eq _).trans (hpop f rest'))
      hload, same.selector_eq, hsel, if_neg (by decide), if_neg (by decide), if_pos rfl]
    simp only [top, List.head?_cons, Option.getD_some, hid', Option.map_some]
    rw [readOn_writeOn hown g (contains_of_dotTarget? hid)]
    rfl

theorem readsWritten_of_instances (hown : IsOwnName var.name)
    (hplace : FindsPlace g w f store var operands)
    (hframe : selectorIn store var operands ≠ Selector.frame)
    (hglobal : selectorIn store var operands ≠ Selector.global)
    (hsel : selectorIn store var operands ≠ Selector.stackTop)
    (hfield : store.instanceField ≠ Selector.stackTop)
    (hother : selectorIn store var operands = Selector.other →
      w.instances.contains f.other ∨ ¬ w.instances.contains f.self) :
    ReadsWritten g w f store load operands v rest rest' := by
  have hnames := not_namesInstance hi hsel
  have hpop := hops.popAddress_eq hnames
  have hload : ¬ load.isStackTopAccess = true := same.isStackTopAccess_eq ▸ hi
  unfold FindsPlace at hplace
  rw [if_neg hnames] at hplace
  unfold selectorIn at hframe hglobal hsel hother hplace
  refine ⟨{ f with stack := rest },
    f.writeThrough g w var.name (selector store var (addressIn store operands)) v
      (addressIn store operands), ?_, rfl, ?_⟩
  · rw [write_of_selector hvar (hpop f (v :: rest)) hi, if_neg hframe, if_neg hglobal,
      if_neg hfield]
    rfl
  · rw [read_of_selector (same.variableIndex ▸ hvar) ((same.popAddress_eq _).trans (hpop f rest'))
      hload, same.selector_eq, if_neg hframe, if_neg hglobal, if_neg hsel]
    congr 1
    by_cases hnonneg : 0 ≤ selector store var (addressIn store operands)
    · exact readThrough_writeThrough_of_nonneg hown hnonneg (hplace hnonneg) v
    · exact readThrough_writeThrough_of_neg hown hnonneg hglobal hframe hother v

omit same

/-- Storing takes the instance for the value, and leaves the value. -/
theorem not_readsWritten_of_default (hsel : selectorIn store var operands = Selector.stackTop)
    (hfield : store.instanceField ≠ Selector.stackTop) :
    ¬ ReadsWritten g w f store load operands v rest rest' := by
  rintro ⟨f', w', hwrite, hstack, -⟩
  obtain ⟨target, -, hpop⟩ := hops.exists_target (.inr hsel)
  unfold selectorIn at hsel
  rw [write_of_selector hvar (hpop f (v :: rest)) hi, hsel, if_neg (by decide), if_neg (by decide),
    if_neg hfield] at hwrite
  have hleft : v :: rest = f'.stack := congrArg (fun p => p.1.stack) hwrite
  exact List.cons_ne_self v rest (hleft.trans hstack)

/-- Storing takes the value for an instance, and what is below it for the value. -/
theorem not_readsWritten_of_field (hframe : selectorIn store var operands ≠ Selector.frame)
    (hglobal : selectorIn store var operands ≠ Selector.global)
    (hsel : selectorIn store var operands ≠ Selector.stackTop)
    (hfield : store.instanceField = Selector.stackTop) (below : Value) :
    ¬ ReadsWritten g w f store load operands v (below :: rest) rest' := by
  rintro ⟨f', w', hwrite, hstack, -⟩
  have hpop := hops.popAddress_eq (not_namesInstance hi hsel)
  unfold selectorIn at hframe hglobal
  rw [write_of_selector hvar (hpop f (v :: below :: rest)) hi, if_neg hframe, if_neg hglobal,
    if_pos hfield] at hwrite
  have hleft : rest = f'.stack := congrArg (fun p => p.1.stack) hwrite
  exact List.cons_ne_self below rest (hleft.trans hstack).symm

include same

/-- Storing falls back on self, loading on the global variables. -/
theorem not_readsWritten_of_other (hown : IsOwnName var.name)
    (hsel : selectorIn store var operands = Selector.other)
    (hfield : store.instanceField ≠ Selector.stackTop) (hother : ¬ w.instances.contains f.other)
    (hself : w.instances.contains f.self)
    (hv : readGlobal w var.name (addressIn store operands) ≠ v) :
    ¬ ReadsWritten g w f store load operands v rest rest' := by
  rintro ⟨f', w', hwrite, -, hread⟩
  have hpop := hops.popAddress_eq (not_namesInstance hi (by rw [hsel]; decide))
  have hload : ¬ load.isStackTopAccess = true := same.isStackTopAccess_eq ▸ hi
  unfold selectorIn at hsel
  rw [write_of_selector hvar (hpop f (v :: rest)) hi, hsel, if_neg (by decide), if_neg (by decide),
    if_neg hfield] at hwrite
  obtain ⟨rfl, rfl⟩ := Prod.mk.inj hwrite
  rw [read_of_selector (same.variableIndex ▸ hvar) ((same.popAddress_eq _).trans (hpop _ rest'))
    hload, same.selector_eq, hsel, if_neg (by decide), if_neg (by decide),
    if_neg (by decide)] at hread
  have hseen := congrArg Prod.fst hread
  exact hv ((readThrough_writeThrough_of_no_other hown hother hself v).symm.trans hseen)

omit hi

theorem readsWritten_of_agrees (hown : IsOwnName var.name)
    (hplace : FindsPlace g w f store var operands) (hagrees : Agrees w f store var operands) :
    ReadsWritten g w f store load operands v rest rest' := by
  by_cases hi : store.isStackTopAccess = true
  · exact readsWritten_of_stackTopAccess same hvar hops v rest rest' hown hi hplace
  by_cases hframe : selectorIn store var operands = Selector.frame
  · exact readsWritten_of_frame same hvar hops hi v rest rest' hframe
  by_cases hglobal : selectorIn store var operands = Selector.global
  · exact readsWritten_of_global same hvar hops hi v rest rest' hglobal
  obtain ⟨hsame, hother⟩ := ((hagrees.resolve_left hi).resolve_left hframe).resolve_left hglobal
  by_cases hsel : selectorIn store var operands = Selector.stackTop
  · exact readsWritten_of_stackTop same hvar hops hi v rest rest' hown hplace hsel (hsame.mp hsel)
  · exact readsWritten_of_instances same hvar hops hi v rest rest' hown hplace hframe hglobal hsel
      (mt hsame.mpr hsel) hother

omit v rest rest'

theorem agrees_of_readsWritten (hown : IsOwnName var.name)
    (h : ∀ v rest rest', ReadsWritten g w f store load operands v rest rest') :
    Agrees w f store var operands := by
  unfold Agrees
  by_contra! hno
  obtain ⟨hi, hframe, hglobal, hno⟩ := hno
  by_cases hsame : selectorIn store var operands = Selector.stackTop ↔
      store.instanceField = Selector.stackTop
  · obtain ⟨hsel, hother, hself⟩ := hno hsame
    have hne : selectorIn store var operands ≠ Selector.stackTop := by
      rw [hsel]
      decide
    have hfield := mt hsame.mpr hne
    obtain ⟨v, hv⟩ := exists_ne_value (readGlobal w var.name (addressIn store operands))
    exact not_readsWritten_of_other same hvar hops hi v [] [] hown hsel hfield hother hself hv
      (h v [] [])
  · by_cases hsel : selectorIn store var operands = Selector.stackTop
    · have hfield : store.instanceField ≠ Selector.stackTop := fun hfield =>
        hsame (iff_of_true hsel hfield)
      exact not_readsWritten_of_default hvar hops hi .zero [] [] hsel hfield (h _ _ _)
    · have hfield : store.instanceField = Selector.stackTop := by
        by_contra hfield
        exact hsame (iff_of_false hsel hfield)
      exact not_readsWritten_of_field hvar hops hi .zero [] [] hframe hglobal hsel hfield .zero
        (h _ _ _)

end Pair

end Frame

namespace Machine

/-- A value that is stored is loaded again. Storing takes the operands and the value below them from
the stack; loading takes the same operands and leaves the value in their place. -/
def LoadsStored (exec : Exec) (s : Setup) (store load : Instruction) (f : Frame) (w : World)
    (operands : List Value) (v : Value) (rest rest' : List Value) : Prop :=
  ∃ f' w',
    step exec s store { f with stack := operands ++ v :: rest } w = some (.ok .next, f', w') ∧
    f'.stack = rest ∧
    step exec s load { f' with stack := operands ++ rest' } w' =
      some (.ok .next, { f' with stack := v :: rest' }, w')

theorem step_pop {i : Instruction} (h : i.op? = some .pop) (exec : Exec) (s : Setup) (f : Frame)
    (w : World) : step exec s i f w =
      some (.ok .next, (f.write s.game w i).1, (f.write s.game w i).2) := by
  simp only [step, h]
  rfl

theorem loadsStored_iff {store load : Instruction} (same : Frame.SameAccess store load)
    (exec : Exec) (s : Setup) (f : Frame) (w : World) (operands : List Value) (v : Value)
    (rest rest' : List Value) :
    LoadsStored exec s store load f w operands v rest rest' ↔
      f.ReadsWritten s.game w store load operands v rest rest' := by
  have hload (f : Frame) (w : World) : step exec s load f w = some (.ok .next,
      (f.read s.game w load none).2.push (f.read s.game w load none).1, w) := by
    simp only [step, same.push, push, same.literal, constant?]
    rfl
  constructor
  · rintro ⟨f', w', hwrite, hstack, hread⟩
    rw [step_pop same.pop] at hwrite
    rw [hload] at hread
    have hread := (Prod.mk.inj (Prod.mk.inj (Option.some.inj hread)).2).1
    exact ⟨f', w', (Prod.mk.inj (Option.some.inj hwrite)).2, hstack, Frame.eq_of_push_eq hread⟩
  · rintro ⟨f', w', hwrite, hstack, hread⟩
    refine ⟨f', w', ?_, hstack, ?_⟩
    · rw [step_pop same.pop, hwrite]
    · rw [hload, hread]
      rfl

/-- What is stored in a variable of a game's own is loaded again through the same operands, provided
that storing and loading agree on the place, and only then. -/
theorem loadsStored_iff_agrees (exec : Exec) (s : Setup) (f : Frame) (w : World)
    {store load : Instruction} (same : Frame.SameAccess store load) {var : Variable}
    (hvar : tableAt? s.game.variableTable store.variableIndex = some var)
    (hown : IsOwnName var.name) {operands : List Value}
    (hops : Frame.AreOperands store var operands)
    (hplace : Frame.FindsPlace s.game w f store var operands) :
    (∀ v rest rest', LoadsStored exec s store load f w operands v rest rest') ↔
      Frame.Agrees w f store var operands := by
  simp only [loadsStored_iff same]
  constructor
  · exact Frame.agrees_of_readsWritten same hvar hops hown
  · intro hagrees v rest rest'
    exact Frame.readsWritten_of_agrees same hvar hops v rest rest' hown hplace hagrees

/-- A variable whose default is the instance on the stack, and one whose default is self. -/
def twoVariables : Setup where
  game := { variableTable := #[⟨"a", Selector.stackTop, 0, 0, 0⟩, ⟨"b", Selector.self, 1, 0, 0⟩] }
  program := { code := #[], references := ⟨[], []⟩, scripts := .empty }
  settings := {}

/-- A world with one instance. -/
def hermitage : World where
  instances := ⟨[.create 100001 0 0 0], by decide⟩
  nextId := 100002
  generator := .ofSeed 1

/-- An access to a variable of the table. -/
def accessTo (index : Int32) (op : AccessOp) (field : Int32) (kind : UInt8) : Instruction :=
  { (Statement.access op field kind 0).instruction 0 with variableIndex := index }

theorem sameAccess_accessTo (index field : Int32) (kind : UInt8) :
    Frame.SameAccess (accessTo index .pop field kind) (accessTo index .push field kind) := by
  constructor <;>
    simp [accessTo, Statement.instruction, Statement.words, Instruction.ofWords,
      Instruction.withWord, Instruction.op?, AccessOp.opcode]
  rfl

/-- A value that the only instance stores finds a place. -/
def FindsThere (index field : Int32) (kind : UInt8) (other : Int32) (operands : List Value) : Prop :=
  ∃ var ∈ tableAt? twoVariables.game.variableTable index,
    Frame.AreOperands (accessTo index .pop field kind) var operands ∧
      Frame.FindsPlace twoVariables.game hermitage (.start 0 100001 other)
        (accessTo index .pop field kind) var operands

instance (index field : Int32) (kind : UInt8) (other : Int32) (operands : List Value) :
    Decidable (FindsThere index field kind other operands) :=
  inferInstanceAs (Decidable (∃ var ∈ tableAt? twoVariables.game.variableTable index, _ ∧ _))

/-- A value that the only instance stores is loaded again. -/
def LoadsThere (index field : Int32) (kind : UInt8) (other : Int32) (operands : List Value)
    (v : Value) (rest : List Value) : Prop :=
  LoadsStored (fun _ _ _ _ => none) twoVariables (accessTo index .pop field kind)
    (accessTo index .push field kind) (.start 0 100001 other) hermitage operands v rest []

/-- An element of an array on the only instance. -/
theorem loadsStored_iff_agrees_element :
    LoadsThere 1 Selector.self RefKind.array 100001 [.ofInt 2, .ofInt Selector.self] (.str "here")
      [.one] := by
  have hagrees : Frame.Agrees hermitage (.start 0 100001 100001)
      (accessTo 1 .pop Selector.self RefKind.array) ⟨"b", Selector.self, 1, 0, 0⟩
      [.ofInt 2, .ofInt Selector.self] := by
    decide +kernel
  exact (loadsStored_iff_agrees _ _ _ _ (sameAccess_accessTo _ _ _) rfl (by decide)
    (by decide +kernel) (by decide +kernel)).mpr hagrees _ _ _

/-- The value stays on the stack if the default of the variable is the instance there, is taken for
the instance if only the instance field says so, and is not seen again on an other that does not
exist. -/
theorem not_loadsStored_astray :
    (FindsThere 0 0 RefKind.normal 100001 [.ofInt Selector.self] ∧
      ¬ LoadsThere 0 0 RefKind.normal 100001 [.ofInt Selector.self] (.ofInt 7) []) ∧
    (FindsThere 1 Selector.stackTop RefKind.array 100001 [.ofInt 2, .ofInt Selector.self] ∧
      ¬ LoadsThere 1 Selector.stackTop RefKind.array 100001 [.ofInt 2, .ofInt Selector.self]
        (.ofInt Selector.self) [.ofInt 7]) ∧
    (FindsThere 1 Selector.other RefKind.normal 100009 [] ∧
      ¬ LoadsThere 1 Selector.other RefKind.normal 100009 [] (.ofInt 7) []) := by
  have hvar₀ : tableAt? twoVariables.game.variableTable 0 =
      some ⟨"a", Selector.stackTop, 0, 0, 0⟩ := rfl
  have hvar₁ : tableAt? twoVariables.game.variableTable 1 = some ⟨"b", Selector.self, 1, 0, 0⟩ := rfl
  simp only [LoadsThere, loadsStored_iff (sameAccess_accessTo _ _ _)]
  refine ⟨⟨by decide +kernel, ?_⟩, ⟨by decide +kernel, ?_⟩, by decide +kernel, ?_⟩
  · exact Frame.not_readsWritten_of_default hvar₀ (by decide +kernel)
      (by decide +kernel) _ _ _ (by decide +kernel) (by decide +kernel)
  · exact Frame.not_readsWritten_of_field hvar₁ (by decide +kernel)
      (by decide +kernel) _ _ _ (by decide +kernel) (by decide +kernel) (by decide +kernel)
      (by decide +kernel) _
  · refine Frame.not_readsWritten_of_other (sameAccess_accessTo _ _ _) hvar₁
      (by decide +kernel) (by decide +kernel) _ _ _ (by decide)
      (by decide +kernel) (by decide +kernel) (by decide +kernel) (by decide +kernel) ?_
    intro hzero
    exact absurd (congrArg Value.toInt hzero) (by decide +kernel)

end Machine

end GameRunner

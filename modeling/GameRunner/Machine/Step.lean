import GameRunner.Machine.Access
import GameRunner.Machine.Call
import GameRunner.Machine.Operator
import GameRunner.Text.Digits

/-!
# Instructions at work

What one instruction does to a frame and to the world, and where the run goes on. Bytes that are no
operation are passed over.
-/

namespace GameRunner

/-- Where a run goes on after an instruction. A target that lies before the entry is `none`. -/
inductive Signal
  | next
  | branch (target : Option Nat)
  /-- Like a branch, but past a `with` block that ends at the target. -/
  | skip (target : Option Nat)
  | returned (v : Option Value)

namespace Machine

/-- The outcome of an instruction. There is nothing if a call that it makes does not come to an end
or breaks off. -/
abbrev StepResult := Option (Except Fault Signal × Frame × World)

/-- Goes on with the next instruction. -/
def proceed (f : Frame) (w : World) : StepResult := some (.ok .next, f, w)

/-- The value of a constant; none if the instruction reads a variable instead. -/
def constant? (g : Game) : Literal → Option Value
  | .double bits => some (.real (Float.ofBits bits))
  | .float bits => some (.real (Number.widen (Float32.ofBits bits)))
  | .int32 n => some (.ofInt n)
  | .int64 n => some (.real (Number.ofInt64 n))
  | .bool b => some (.ofBool b)
  | .int16 n => some (.ofInt n.toInt32)
  | .str index => some (.str ((tableAt? g.strings index).getD ""))
  | .raw _ => some .zero
  | .none => none

/-- Puts the value of a variable on the stack. -/
def pushVariable (g : Game) (i : Instruction) (given : Option Int32) (f : Frame) (w : World) :
    StepResult :=
  let (v, f) := f.read g w i given
  proceed (f.push v) w

/-- Puts a constant or the value of a variable on the stack. -/
def push (g : Game) (i : Instruction) (f : Frame) (w : World) : StepResult :=
  match constant? g i.literal with
  | some v => proceed (f.push v) w
  | none => pushVariable g i none f w

/-- Branches if a condition on the stack has the given truth value. -/
def branchIf (truth : Bool) (i : Instruction) (f : Frame) (w : World) : StepResult :=
  let (v, f) := f.pop
  if v.toBool = truth then some (.ok (.branch i.branchTarget?), f, w) else proceed f w

/-- Opens a `with` block on the instances that a selector on the stack names; without any the block
is skipped. -/
def pushEnv (g : Game) (i : Instruction) (f : Frame) (w : World) : StepResult :=
  let (selector, f) := f.pop
  match w.select g selector.toInt f.self f.other with
  | [] => some (.ok (.skip i.branchTarget?), f, w)
  | first :: rest => proceed (f.enter first rest) w

/-- Goes on to the next instance of the innermost `with` block that is still live, or closes the
block. -/
def popEnv (i : Instruction) (f : Frame) (w : World) : StepResult :=
  match f.blocks with
  | [] => proceed f w
  | block :: outer =>
    match block.rest.dropWhile fun id => !w.isLive id with
    | next :: rest =>
      let f := { f with blocks := { block with current := next, rest } :: outer, self := next }
      some (.ok (.branch i.branchTarget?), f, w)
    | [] =>
      proceed { f with blocks := outer, self := block.outerSelf, other := block.outerOther } w

/-- Calls a function with arguments from the stack, the first one on top, and puts its value there. -/
def call (exec : Exec) (s : Setup) (i : Instruction) (f : Frame) (w : World) : StepResult :=
  let (args, f) := f.popMany i.argCount
  match tableAt? s.game.functionTable i.functionIndex with
  | none =>
    proceed (f.push .zero) (w.log .debug fun _ =>
      "call at " ++ Text.hex i.offset ++ " has no resolved function")
  | some function =>
    match w.call exec s function.name args f.self f.other with
    | none => none
    | some (.error fault, w) => some (.error fault, f, w)
    | some (.ok v, w) => proceed (f.push v) w

/-- Ends the entry. A value on the stack becomes the returned value of the instance that the entry
was started on. -/
def ret (f : Frame) (w : World) : StepResult :=
  match f.stack with
  | [] => some (.ok (.returned none), f, w)
  | v :: rest =>
    some (.ok (.returned (some v)), { f with stack := rest },
      w.modify f.entrySelf fun i => { i with returned := some v })

/-- Performs one instruction. -/
def step (exec : Exec) (s : Setup) (i : Instruction) (f : Frame) (w : World) : StepResult :=
  match i.op? with
  | none =>
    proceed f (w.log .debug fun _ =>
      "skipping unknown opcode 0x" ++ Text.padZeros 2 (Text.hexDigits i.opcode.toNat) ++ " at " ++
        Text.hex i.offset)
  | some op =>
    match op with
    | .conv => proceed f w
    | .mul => proceed (f.combine (Value.onReals (· * ·))) w
    | .div => proceed (f.combine (Value.onReals Value.quotient)) w
    | .rem => proceed (f.combine (Value.onReals Value.rest)) w
    | .mod => proceed (f.combine (Value.onReals Value.rest)) w
    | .add => proceed (f.combine Value.add) w
    | .sub => proceed (f.combine (Value.onReals (· - ·))) w
    | .and => proceed (f.combine (Value.onLongs (· &&& ·))) w
    | .or => proceed (f.combine (Value.onLongs (· ||| ·))) w
    | .xor => proceed (f.combine (Value.onLongs (· ^^^ ·))) w
    | .neg => proceed (f.apply Value.negate) w
    | .not => proceed (f.apply Value.invert) w
    | .shl => proceed (f.combine (Value.onLongs (· <<< ·))) w
    | .shr => proceed (f.combine (Value.onLongs (· >>> ·))) w
    | .cmp => proceed (f.combine (Value.compareBy i.comparison)) w
    | .pop =>
      let (f, w) := f.write s.game w i
      proceed f w
    | .pushi => proceed (f.push (.ofInt i.extra.toInt32)) w
    | .dup => proceed (f.duplicate (i.dupCount + 1)) w
    | .ret => ret f w
    | .exit => some (.ok (.returned none), f, w)
    | .popz => proceed f.drop w
    | .b => some (.ok (.branch i.branchTarget?), f, w)
    | .bt => branchIf true i f w
    | .bf => branchIf false i f w
    | .pushenv => pushEnv s.game i f w
    | .popenv => popEnv i f w
    | .push => push s.game i f w
    | .pushloc => pushVariable s.game i (some Selector.frame) f w
    | .pushglb => pushVariable s.game i (some Selector.global) f w
    | .pushbltn => pushVariable s.game i none f w
    | .call => call exec s i f w
    | .brk => proceed f w

end Machine

end GameRunner

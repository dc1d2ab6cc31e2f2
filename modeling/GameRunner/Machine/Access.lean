import GameRunner.Machine.Frame
import GameRunner.World.Variables

/-!
# Access to variables

Where a variable is kept depends on a selector: the array target on the stack for an element of an
array, else the instance field of the instruction, else the default of the variable. It can be a
local variable of the frame, a global one, or one of instances; reading looks at the first instance
that is meant, and writing through an object reaches all of its instances. Where no instance is meant
the variable is looked for among the values of the engine and the global variables.
-/

namespace GameRunner

namespace Frame

/-- An index and a target, taken from the stack by an array access. -/
structure Address where
  index : Int32
  target : Int32

/-- Takes what an array access needs from the stack. -/
def popAddress (f : Frame) (i : Instruction) : Option Address × Frame :=
  if i.isArrayAccess then (some ⟨f.top.toInt, f.drop.top.toInt⟩, f.drop.drop) else (none, f)

/-- The selector of an access. -/
def selector (i : Instruction) (var : Variable) : Option Address → Int32
  | some a => a.target
  | none => if i.extra ≠ 0 then i.instanceField else var.instanceType

/-- The first live instance that a number from the stack names. -/
def dotTarget? (g : Game) (w : World) (f : Frame) (selector : Int32) : Option Int32 :=
  (w.select g selector f.self f.other).head?

/-- What an access reads on an instance: an element or a plain variable. -/
def readOn (g : Game) (w : World) (id : Int32) (name : String) : Option Address → Value
  | some a => w.elementOn id name a.index
  | none => w.valueOn g id name

/-- What an access writes on an instance: an element or a plain variable. -/
def writeOn (w : World) (id : Int32) (name : String) (v : Value) : Option Address → World
  | some a => w.storeElementOn id name a.index v
  | none => w.storeOn id name v

/-- Reads a local variable. -/
def readLocal (f : Frame) (var : Variable) : Option Address → Value
  | some a => ((f.locals.get? var.id).map fun v => v.arrayGet a.index).getD .zero
  | none => (f.locals.get? var.id).getD .zero

/-- Writes a local variable. -/
def writeLocal (f : Frame) (var : Variable) (v : Value) : Option Address → Frame
  | some a =>
    let slot := (f.locals.get? var.id).getD .zero
    { f with locals := f.locals.insert var.id (slot.arraySet a.index v) }
  | none => { f with locals := f.locals.insert var.id v }

/-- Reads a global variable. -/
def readGlobal (w : World) (name : String) : Option Address → Value
  | some a => w.globalElement name a.index
  | none => (w.globals.get? name).getD .zero

/-- Writes a global variable. -/
def writeGlobal (w : World) (name : String) (v : Value) : Option Address → World
  | some a => w.storeGlobalElement name a.index v
  | none => { w with globals := w.globals.insert name v }

/-- Reads through a selector that means instances or the engine. -/
def readThrough (g : Game) (w : World) (f : Frame) (name : String) (selector : Int32) :
    Option Address → Value
  | some a =>
    match w.viewElement? name a.index with
    | some v => v
    | none =>
      match w.resolve? g selector f.self f.other with
      | some id => w.elementOn id name a.index
      | none => w.globalElement name a.index
  | none =>
    match w.resolve? g selector f.self f.other with
    | some id => w.valueOn g id name
    | none => w.globalValue g name

/-- Writes to self, to other, or to the engine if there is no such instance. -/
def writeNear (g : Game) (w : World) (f : Frame) (name : String) (selector : Int32) (v : Value)
    (a : Option Address) : World :=
  let target := (w.resolve? g selector f.self f.other).getD f.self
  if w.instances.contains target then writeOn w target name v a
  else
    match a with
    | some a => w.storeGlobalElement name a.index v
    | none => w.storeGlobal name v

/-- Writes through a selector that means instances or the engine. -/
def writeInstances (g : Game) (w : World) (f : Frame) (name : String) (selector : Int32) (v : Value)
    (a : Option Address) : World :=
  if 0 ≤ selector then
    (w.select g selector f.self f.other).foldl (fun w id => writeOn w id name v a) w
  else writeNear g w f name selector v a

/-- Writes to a view array if it is one, else through a selector. -/
def writeThrough (g : Game) (w : World) (f : Frame) (name : String) (selector : Int32) (v : Value)
    (a : Option Address) : World :=
  match a.bind fun a => w.storeViewElement? name a.index v with
  | some w => w
  | none => writeInstances g w f name selector v a

/-- Reads the variable of an instruction. An access through the top of the stack takes the instance
from there. The selector can be given beforehand. -/
def read (g : Game) (w : World) (f : Frame) (i : Instruction) (given : Option Int32) :
    Value × Frame :=
  match tableAt? g.variableTable i.variableIndex with
  | none => (.zero, f)
  | some var =>
    let (a, f) := f.popAddress i
    if i.op? = some .push && i.isStackTopAccess then
      let (target, f) := f.pop
      (((f.dotTarget? g w target.toInt).map fun id => w.valueOn g id var.name).getD .zero, f)
    else
      let selector := given.getD (selector i var a)
      if selector = Selector.frame then (f.readLocal var a, f)
      else if selector = Selector.global then (readGlobal w var.name a, f)
      else if selector = Selector.stackTop then
        let (target, f) := f.pop
        (((f.dotTarget? g w target.toInt).map fun id => readOn g w id var.name a).getD .zero, f)
      else (f.readThrough g w var.name selector a, f)

/-- Writes the variable of an instruction; the value is below what the access itself needs. -/
def write (g : Game) (w : World) (f : Frame) (i : Instruction) : Frame × World :=
  match tableAt? g.variableTable i.variableIndex with
  | none => (f.drop, w)
  | some var =>
    let (a, f) := f.popAddress i
    if i.isStackTopAccess then
      let (target, f) := f.pop
      let (v, f) := f.pop
      match f.dotTarget? g w target.toInt with
      | some id => (f, w.storeOn id var.name v)
      | none => (f, w)
    else
      let (v, f) := f.pop
      let selector := selector i var a
      if selector = Selector.frame then (f.writeLocal var v a, w)
      else if selector = Selector.global then (f, writeGlobal w var.name v a)
      else if i.instanceField = Selector.stackTop then
        -- What was taken from the stack is the target, and the value is below it.
        let (stored, f) := f.pop
        match f.dotTarget? g w v.toInt with
        | some id => (f, writeOn w id var.name stored a)
        | none => (f, w)
      else (f, f.writeThrough g w var.name selector v a)

end Frame

end GameRunner

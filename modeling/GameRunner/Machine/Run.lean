import GameRunner.Machine.Step

/-!
# Running code

A code entry runs until it returns, runs past its end, meets a fault or has taken as many
instructions as the settings allow. A fault ends the entry and is reported; whoever started the entry
does not notice.

Entries start other entries: scripts, and handlers of events that they cause. The definitions here
take the way to run those as an argument. `execute` ties the knot for entries nested up to a given
depth; a run that nests deeper has no result. Nor has one in which a function breaks off.
-/

namespace GameRunner

/-- How a run of a code entry ended. -/
inductive Ending
  | completed
  | returned (v : Option Value)
  | cutOff
  | failed (fault : Fault)

namespace Machine

/-- The number that stands for a target before the entry in reports. -/
def farTarget : Nat := 0xffffffffffffffff

/-- The position of the instruction at a target, or the end of the entry if none starts there. -/
def positionOf (code : Code) (target : Option Nat) : Option Nat := target.bind code.indexOf?

/-- Reports a target at which no instruction starts. -/
def reportTarget (code : Code) (name : String) (target : Option Nat) (w : World) : World :=
  if (positionOf code target).isSome then w
  else w.log .debug fun _ =>
    name ++ ": branch target " ++ Text.hex (target.getD farTarget) ++
      " is not an instruction start, leaving entry"

/-- Where a branch lands. -/
def landing (code : Code) (target : Option Nat) : Nat := (positionOf code target).getD code.size

/-- Where a skipped `with` block is left: behind the instruction that would end it. -/
def landingPast (code : Code) (target : Option Nat) : Nat :=
  let position := landing code target
  match code.instructions[position]? with
  | some i => if i.op? = some .popenv then position + 1 else position
  | none => position

/-- Reports the instruction that comes next, in more detail if the settings ask for it. -/
def reportStep (traced : Bool) (name : String) (i : Instruction) (f : Frame) (w : World) : World :=
  if traced then
    w.log .debug fun _ => s!"[{name}] " ++ i.listing ++ s!" stack={f.stack.length}"
  else w.log .trace fun _ => s!"[{name}] " ++ i.listing

/-- Reports that an entry is cut off. -/
def cutOff (s : Setup) (name : String) (w : World) : World :=
  { w.log .warn fun _ =>
      s!"{name} exceeded {s.settings.maxInstructions} instructions, abandoning this call" with
    cutOff := w.cutOff + 1 }

/-- Runs a frame for at most a number of instructions. -/
def runFrame (exec : Exec) (s : Setup) (code : Code) (name : String) (traced : Bool) :
    Nat → Frame → World → Option (Ending × Frame × World)
  | 0, f, w =>
    if f.pc < code.size then some (.cutOff, f, cutOff s name w) else some (.completed, f, w)
  | n + 1, f, w =>
    match code.instructions[f.pc]? with
    | none => some (.completed, f, w)
    | some i =>
      match step exec s i f (reportStep traced name i f w) with
      | none => none
      | some (.error fault, f, w) => some (.failed fault, f, w)
      | some (.ok .next, f, w) =>
        runFrame exec s code name traced n { f with pc := f.pc + 1 } w
      | some (.ok (.branch target), f, w) =>
        runFrame exec s code name traced n { f with pc := landing code target }
          (reportTarget code name target w)
      | some (.ok (.skip target), f, w) =>
        runFrame exec s code name traced n { f with pc := landingPast code target }
          (reportTarget code name target w)
      | some (.ok (.returned v), f, w) => some (.returned v, f, w)

/-- Reports a fault that has ended an entry. -/
def reportFault (code : Code) (name : String) (fault : Fault) (f : Frame) (w : World) : World :=
  w.log .error fun _ =>
    let op := ((code.instructions[f.pc]?).map (·.name)).getD "?"
    s!"VM error in {name} at pc={f.pc} ({op}): " ++ fault.message

/-- Runs a code entry, with a way to run the entries that it starts. -/
def runEntry (exec : Exec) (s : Setup) : Exec := fun w code self other =>
  match s.program.code? code with
  | none => some (w.log .debug fun _ => (Fault.invalidCodeEntry code).message)
  | some c =>
    if c.isEmpty then some w
    else
      let name := s.game.codeName code
      let traced := s.settings.trace.tracesInstructions name
      match runFrame exec s c name traced s.settings.maxInstructions
          (.start code self (other.getD self)) w with
      | none => none
      | some (.failed fault, f, w) => some (reportFault c name fault f w)
      | some (_, _, w) => some w

/-- Runs a code entry with others nested in it up to a depth. -/
def execute (s : Setup) : (depth : Nat) → Exec
  | 0 => fun _ _ _ _ => none
  | depth + 1 => runEntry (execute s depth) s

end Machine

end GameRunner

/-!
# Faults

A fault ends the code entry in which it arises, and no other.
-/

namespace GameRunner

/-- Why game code could not go on. -/
inductive Fault
  | missingArgument (index given : Nat)
  | invalidCodeEntry (code : Int32)
  | callDepthExceeded (limit : Nat)
  | noSuchInstance (id : Int32)
  deriving Repr, DecidableEq

/-- The wording of a fault. -/
def Fault.message : Fault → String
  | .missingArgument index given => s!"argument {index} missing ({given} given)"
  | .invalidCodeEntry code => s!"code entry {code} does not exist"
  | .callDepthExceeded limit => s!"call depth exceeded {limit} nested calls"
  | .noSuchInstance id => s!"instance {id} does not exist"

end GameRunner

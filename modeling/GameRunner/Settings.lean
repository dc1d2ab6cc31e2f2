import GameRunner.Toml.Document

/-!
# Settings

How a game is run: where it starts, how long code may run, how random numbers are seeded, what is
traced and whether input is recorded or played back. Settings are read from TOML; what is not
mentioned keeps its default, and unknown entries are passed over.
-/

namespace GameRunner

/-- Names whose doings are reported in detail; a star stands for every name. -/
structure TraceSettings where
  calls : List String := []
  events : List String := []
  instructions : List String := []
  ignoreCalls : List String := []
  deriving Repr, DecidableEq, Inhabited

namespace TraceSettings

/-- Whether a list names something. -/
def names (list : List String) (name : String) : Bool :=
  list.any fun n => n == "*" || n == name

/-- Whether the calls of a function from an object's code are traced. -/
def tracesCalls (t : TraceSettings) (object function : String) : Bool :=
  names t.calls object && !t.ignoreCalls.contains function

/-- Whether the events of an object are traced. -/
def tracesEvents (t : TraceSettings) (object : String) : Bool := names t.events object

/-- Whether the instructions of a code entry are traced. -/
def tracesInstructions (t : TraceSettings) (code : String) : Bool := names t.instructions code

end TraceSettings

/-- The files that input is recorded to and played back from. -/
structure InputSettings where
  record : Option String := none
  playback : Option String := none
  deriving Repr, DecidableEq, Inhabited

/-- How a game is run. -/
structure Settings where
  startRoom : Option String := none
  maxInstructions : Nat := 10000000
  rngSeed : Option UInt64 := none
  frames : Nat := 60
  trace : TraceSettings := {}
  input : InputSettings := {}
  deriving Repr, DecidableEq, Inhabited

namespace Settings

/-- What a section holds: entries by name, or the values of its entries in order. -/
def sectionEntries? (names : List String) (v : Toml.Value) : Option Toml.Entries :=
  match v.items? with
  | some items => some (names.zip items)
  | none => v.entries?

/-- The entry under a name, read if it is there and else the default. -/
def entryOr (entries : Toml.Entries) (name : String) (default : α) (read : Toml.Value → Option α) :
    Option α :=
  match entries.lookup name with
  | some v => read v
  | none => some default

/-- The trace section. -/
def traceOf? (v : Toml.Value) : Option TraceSettings := do
  let entries ← sectionEntries? ["calls", "events", "instructions", "ignore_calls"] v
  return { calls := ← entryOr entries "calls" [] (·.texts?)
           events := ← entryOr entries "events" [] (·.texts?)
           instructions := ← entryOr entries "instructions" [] (·.texts?)
           ignoreCalls := ← entryOr entries "ignore_calls" [] (·.texts?) }

/-- The input section. -/
def inputOf? (v : Toml.Value) : Option InputSettings := do
  let entries ← sectionEntries? ["record", "playback"] v
  return { record := ← entryOr entries "record" none fun v => v.text?.map some
           playback := ← entryOr entries "playback" none fun v => v.text?.map some }

/-- Reads settings. -/
def ofToml? (text : String) : Option Settings := do
  let entries ← Toml.parse text
  return { startRoom := ← entryOr entries "start_room" none fun v => v.text?.map some
           maxInstructions := ← entryOr entries "max_instructions" 10000000 fun v =>
             (v.integer? 0 0x7fffffffffffffff).map Int.toNat
           rngSeed := ← entryOr entries "rng_seed" none fun v =>
             (v.integer? 0 0x7fffffffffffffff).map fun n => some (UInt64.ofNat n.toNat)
           frames := ← entryOr entries "frames" 60 fun v =>
             (v.integer? 0 0xffffffff).map Int.toNat
           trace := ← entryOr entries "trace" {} traceOf?
           input := ← entryOr entries "input" {} inputOf? }

end Settings

end GameRunner

import GameRunner.Host.Basic

/-!
# The command line

The program plays a game for a number of frames without showing it, or lists its rooms. Flags are
read first, then the settings, then the archive.
-/

namespace GameRunner

/-- What the command line asks for. -/
structure Options where
  archive : String
  config : Option String := none
  room : Option String := none
  frames : Option Nat := none
  seed : Option UInt64 := none
  listRooms : Bool := false
  deriving Repr, DecidableEq

/-- What is wrong with a command line. -/
inductive OptionsError
  | missingValue (flag : String)
  | invalidFrames (text : String)
  | invalidSeed (text : String)
  deriving Repr, DecidableEq

/-- The wording of an error. -/
def OptionsError.message : OptionsError → String
  | missingValue flag => s!"{flag} needs a value"
  | invalidFrames text => s!"Invalid frame count: {text}"
  | invalidSeed text => s!"Invalid seed: {text}"

/-- A number below a bound in decimal notation. -/
def readBelow? (bound : Nat) (text : String) : Option Nat :=
  match Text.readNat? text with
  | some n => if n < bound then some n else none
  | none => none

namespace Options

/-- Reads flags. What is no flag is passed over. -/
def readFlags (o : Options) : List String → Except OptionsError Options
  | [] => .ok o
  | flag :: rest =>
    if flag = "--list-rooms" then readFlags { o with listRooms := true } rest
    else if ["--config", "--room", "--frames", "--seed"].contains flag then
      match rest with
      | [] => .error (.missingValue flag)
      | value :: rest =>
        if flag = "--config" then readFlags { o with config := some value } rest
        else if flag = "--room" then readFlags { o with room := some value } rest
        else if flag = "--frames" then
          match readBelow? 0x100000000 value with
          | some n => readFlags { o with frames := some n } rest
          | none => .error (.invalidFrames value)
        else
          match readBelow? 0x10000000000000000 value with
          | some n => readFlags { o with seed := some (UInt64.ofNat n) } rest
          | none => .error (.invalidSeed value)
    else readFlags o rest

/-- Settings with what the command line says instead. -/
def override (o : Options) (settings : Settings) : Settings :=
  { settings with
    startRoom := o.room.orElse fun _ => settings.startRoom
    frames := o.frames.getD settings.frames
    rngSeed := o.seed.orElse fun _ => settings.rngSeed }

end Options

/-- What a run of the program leaves: its output, its complaints and its exit code. -/
structure Report where
  out : String := ""
  err : String := ""
  exit : Nat := 0
  deriving Repr, DecidableEq

namespace CommandLine

/-- How the program is used. -/
def usage (program : String) : String :=
  "gmlrun - headless runner for GameMaker data.win archives\n\n" ++
  s!"Usage: {program} <data.win> [--config file.toml] [--room name|index] [--frames n] [--seed n] " ++
  s!"[--list-rooms]\nExamples:\n  {program} game/data.win --list-rooms\n" ++
  s!"  {program} game/data.win --room room_title --frames 300\n\n" ++
  "Settings given on the command line override the config file.\n"

/-- The rooms of a game, one on a line. -/
def roomList (g : Game) : String :=
  String.join (g.rooms.toList.zipIdx.map fun r =>
    s!"{r.2}: {r.1.name} ({r.1.width}x{r.1.height})\n")

/-- Ends with a complaint. -/
def complain (text : String) : Report := { err := "Error: " ++ text ++ "\n", exit := 1 }

/-- The complaint about an archive that cannot be loaded. -/
def loadComplaint (path : String) : LoadError → Report
  | .file .notFound => complain (s!"Archive not found: {path}\n\n" ++
      "Please check the path, usually <game dir>/data.win.")
  | .file .permissionDenied => complain s!"Permission denied reading archive: {path}"
  | .file e => complain (s!"Cannot read archive '{path}': " ++ e.message)
  | .format e => complain (s!"'{path}' is not a readable data.win archive: " ++ e.message)

/-- A run that does not come to an end or breaks off. -/
def neverEnds : Report := { exit := 134 }

variable {m : Type → Type} [Monad m]

/-- Plays and draws frames until there are enough or the game ends itself. -/
def playUntilQuit (host : Host m) (s : Setup) : Nat → World → m (Option World)
  | 0, w => return some w
  | n + 1, w => do
    match (World.step s.exec s { w with clock := ← host.clock }).bind (World.draw s.exec s) with
    | none => return none
    | some w => if w.quit then return some w.endInput else playUntilQuit host s n w.endInput

/-- Plays a game and saves what was recorded. -/
def play (host : Host m) (s : Setup) : m Report := do
  match ← host.prepare s (.ofSetup s (← host.entropy) .silent) with
  | (.error e, _) => return complain e.account
  | (.ok _, w) =>
    match ← playUntilQuit host s s.settings.frames w with
    | none => return neverEnds
    | some w =>
      match ← host.finish s w with
      | (.error e, _) => return complain e.account
      | (.ok _, _) => return {}

/-- Loads the settings that a command line asks for. -/
def settings (host : Host m) (o : Options) : m (Except SettingsError Settings) := do
  match o.config with
  | none => return .ok (o.override {})
  | some path => return (← host.loadSettings path).map o.override

/-- Does what a command line asks for. -/
def perform (host : Host m) (o : Options) : m Report := do
  match ← settings host o with
  | .error e => return complain e.message
  | .ok settings =>
    match ← host.loadGame o.archive .silent with
    | (.error e, _) => return loadComplaint o.archive e
    | (.ok game, _) =>
      if o.listRooms then return { out := roomList game }
      else play host (.ofGame game settings)

/-- Runs the program with the arguments behind its name. -/
def run (host : Host m) (program : String) (args : List String) : m Report := do
  match args with
  | [] => return { out := usage program }
  | first :: flags =>
    if first = "--help" || first = "-h" then return { out := usage program }
    else
      match Options.readFlags { archive := first } flags with
      | .error e => return complain (Text.quoted e.message)
      | .ok o => perform host o

end CommandLine

end GameRunner

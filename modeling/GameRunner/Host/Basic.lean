import GameRunner.Archive.Game
import GameRunner.Host.Files
import GameRunner.Play.Engine

/-!
# The host

A host gives a game the outside world: files, the time and a source of chance. Loading and saving are
written for any host, so that the same code runs on real files and on files in memory.
-/

namespace GameRunner

/-- What a host provides. -/
structure Host (m : Type → Type) where
  read : String → m (Except FileError ByteArray)
  write : String → ByteArray → m (Except FileError Unit)
  clock : m Clock
  entropy : m UInt64

/-- Why a game could not be loaded. -/
inductive LoadError
  | file (e : FileError)
  | format (e : FormatError)

/-- Why settings or a recording could not be loaded or saved. -/
inductive SettingsError
  | file (path : String) (e : FileError)
  | parse (path : String)
  | serialize

namespace SettingsError

/-- The wording of an error. -/
def message : SettingsError → String
  | file path e => s!"cannot read {path}: " ++ e.message
  | parse path => s!"invalid TOML in {path}"
  | serialize => "cannot serialize input recording"

/-- The full account of an error. -/
def account : SettingsError → String
  | file path e =>
    "Io \x7b path: " ++ Text.quoted path ++ ", source: " ++ e.account ++ " \x7d"
  | parse path => "Parse \x7b path: " ++ Text.quoted path ++ " \x7d"
  | serialize => "Serialize"

end SettingsError

/-- Files in memory as a host, where no time passes and nothing is left to chance. -/
def Files.host : Host (StateM Files) where
  read path := do return (← get).read path
  write path bytes := do
    match (← get).write path bytes with
    | .ok files => set files; return .ok ()
    | .error e => return .error e
  clock := return {}
  entropy := return 0

namespace Host

variable {m : Type → Type} [Monad m]

/-- Reads a file as text. -/
def readText (host : Host m) (path : String) : m (Except FileError String) := do
  match ← host.read path with
  | .error e => return .error e
  | .ok bytes =>
    match String.fromUTF8? bytes with
    | some text => return .ok text
    | none => return .error .notText

/-- Loads a game from an archive. -/
def loadGame (host : Host m) (path : String) (journal : Journal) :
    m (Except LoadError Game × Journal) := do
  match ← host.read path with
  | .error e => return (.error (.file e), journal)
  | .ok bytes =>
    let (game, journal) := Game.ofArchive bytes journal
    return (game.mapError .format, journal)

/-- Loads settings. -/
def loadSettings (host : Host m) (path : String) : m (Except SettingsError Settings) := do
  match ← host.readText path with
  | .error e => return .error (.file path e)
  | .ok text =>
    match Settings.ofToml? text with
    | some settings => return .ok settings
    | none => return .error (.parse path)

/-- Loads a recording. -/
def loadRecording (host : Host m) (path : String) (journal : Journal) :
    m (Except SettingsError Recording × Journal) := do
  match ← host.readText path with
  | .error e => return (.error (.file path e), journal)
  | .ok text =>
    match Recording.ofToml? text with
    | some r =>
      return (.ok r, journal.add .info fun _ =>
        s!"Loaded {r.frames.length} recorded input frames from {path}")
    | none => return (.error (.parse path), journal)

/-- Saves a recording. -/
def saveRecording (host : Host m) (path : String) (r : Recording) (journal : Journal) :
    m (Except SettingsError Unit × Journal) := do
  match r.toToml? with
  | none => return (.error .serialize, journal)
  | some text =>
    match ← host.write path text.toUTF8 with
    | .error e => return (.error (.file path e), journal)
    | .ok _ =>
      return (.ok (), journal.add .info fun _ =>
        s!"Wrote {r.frames.length} input frames to {path}")

/-- Loads the recording to be played back, if the settings name one. -/
def loadPlayback (host : Host m) (s : Setup) (w : World) :
    m (Except SettingsError Unit × World) := do
  match s.settings.input.playback with
  | none => return (.ok (), w)
  | some path =>
    match ← host.loadRecording path w.journal with
    | (.error e, journal) => return (.error e, { w with journal })
    | (.ok r, journal) => return (.ok (), { w with journal, playback := some (.ofRecording r) })

/-- Makes a world ready for its first frame: sets up playback and recording and asks for the first
room. -/
def prepare (host : Host m) (s : Setup) (w : World) : m (Except SettingsError Unit × World) := do
  let (room, w) := w.chooseRoom s
  match ← host.loadPlayback s w with
  | (.error e, w) => return (.error e, w)
  | (.ok _, w) =>
    let w := if s.settings.input.record.isSome then { w with recording := some {} } else w
    return (.ok (), w.gotoRoom s.game room)

/-- Saves what has been recorded, if the settings say where. -/
def finish (host : Host m) (s : Setup) (w : World) : m (Except SettingsError Unit × World) := do
  match w.recording, s.settings.input.record with
  | some r, some path =>
    let (result, journal) ← host.saveRecording path r w.journal
    return (result, { w with journal })
  | _, _ => return (.ok (), w)

end Host

end GameRunner

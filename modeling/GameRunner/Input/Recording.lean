import GameRunner.Input.KeyState
import GameRunner.Journal
import GameRunner.Toml.Document

/-!
# Recordings

A recording lists the keys held in each frame in which any were. It is kept as TOML, with one table
per frame, and can be played back.
-/

namespace GameRunner

/-- The keys held in a frame. -/
structure RecordedFrame where
  frame : Nat
  keys : List Int32
  deriving Repr, DecidableEq

/-- Recorded frames in order. -/
structure Recording where
  frames : List RecordedFrame := []
  deriving Repr, DecidableEq

namespace Recording

/-- Records the keys held in a frame, if there are any. -/
def record (r : Recording) (frame : Nat) (s : KeyState) : Recording :=
  if s.held.isEmpty then r else ⟨r.frames ++ [⟨frame, s.held.toList⟩]⟩

/-- The table of one frame. -/
def frameText (f : RecordedFrame) : String :=
  let keys := ", ".intercalate (f.keys.map fun k => toString k)
  s!"[[frames]]\nframe = {f.frame}\nkeys = [" ++ keys ++ "]\n"

/-- The recording as TOML. Frame numbers that do not fit a TOML integer cannot be written. -/
def toToml? (r : Recording) : Option String :=
  if r.frames.isEmpty then some "frames = []\n"
  else if r.frames.any fun f => 0x8000000000000000 ≤ f.frame then none
  else some ("\n".intercalate (r.frames.map frameText))

/-- The keys of a frame. -/
def keysOf? (v : Toml.Value) : Option (List Int32) :=
  v.items?.bind fun items =>
    items.mapM fun k => (k.integer? (-2147483648) 2147483647).map Int32.ofInt

/-- A frame from a table with both entries, or from an array that holds them in order. -/
def frameOf? (v : Toml.Value) : Option RecordedFrame :=
  match v.items? with
  | some (frame :: keys :: _) => do
    return ⟨(← frame.integer? 0 0x7fffffffffffffff).toNat, ← keysOf? keys⟩
  | some _ => none
  | none => do
    let entries ← v.entries?
    let frame ← (← entries.lookup "frame").integer? 0 0x7fffffffffffffff
    let keys ← keysOf? (← entries.lookup "keys")
    return ⟨frame.toNat, keys⟩

/-- Reads a recording; other entries are passed over. -/
def ofToml? (text : String) : Option Recording := do
  let entries ← Toml.parse text
  match entries.lookup "frames" with
  | none => return ⟨[]⟩
  | some v => return ⟨← (← v.items?).mapM frameOf?⟩

end Recording

/-- A recording made ready to be played back. -/
structure Playback where
  frames : List RecordedFrame
  deriving Repr, DecidableEq

namespace Playback

/-- Plays a recording back. -/
def ofRecording (r : Recording) : Playback := ⟨r.frames⟩

/-- The keys held in a frame; of two records of a frame the later counts. -/
def keysAt (p : Playback) (frame : Nat) : List Int32 :=
  match p.frames.findRev? fun f => f.frame == frame with
  | some f => f.keys
  | none => []

/-- The keyboard state at the start of a frame. -/
def apply (p : Playback) (frame : Nat) (s : KeyState) : KeyState :=
  s.holdExactly (p.keysAt frame)

/-- What is reported when keys are pressed by playback. -/
def report (frame : Nat) (s : KeyState) (log : Journal) : Journal :=
  if s.pressed.isEmpty then log
  else log.add .debug fun _ =>
    let keys := ", ".intercalate (s.pressed.toList.map fun k => toString k)
    s!"playback frame {frame}: pressed \x7b" ++ keys ++ "\x7d"

end Playback

end GameRunner

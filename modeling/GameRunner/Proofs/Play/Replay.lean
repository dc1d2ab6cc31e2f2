import GameRunner.Play.Engine
import GameRunner.Proofs.Input.Batches
import GameRunner.Proofs.Machine.FrameLaw
import GameRunner.Proofs.Play.Operations

/-!
# Playback stands in for live input

Frames are played one after the other. Before each of them the host reports a batch of keys, and after
it the keys forget what happened. If the keys are recorded at the start of every frame, the recording
tells for each frame which keys were held. A run that plays it back, without any batches, has the same
keys at the start of every frame: it compares the keys of two frames and so finds out which ones were
pressed and released.
-/

namespace GameRunner

/-! ### What a recording tells of a frame -/

namespace Recording

/-- The keys of a frame in a recording. -/
def keysAt (r : Recording) (n : Nat) : List Int32 := (Playback.ofRecording r).keysAt n

theorem keysAt_concat (frames : List RecordedFrame) (f : RecordedFrame) (n : Nat) :
    keysAt ⟨frames ++ [f]⟩ n = if f.frame = n then f.keys else keysAt ⟨frames⟩ n := by
  unfold keysAt Playback.keysAt Playback.ofRecording
  simp only [List.findRev?_eq_find?_reverse, List.reverse_append, List.reverse_singleton,
    List.singleton_append, List.find?_cons]
  by_cases h : f.frame = n
  · rw [if_pos h, beq_iff_eq.mpr h]
  · rw [if_neg h, beq_eq_false_iff_ne.mpr h]

theorem keysAt_of_not_mem {r : Recording} {n : Nat} (h : ∀ f ∈ r.frames, f.frame ≠ n) :
    r.keysAt n = [] := by
  have hnone : r.frames.findRev? (fun f => f.frame == n) = none := by
    rw [List.findRev?_eq_find?_reverse, List.find?_eq_none]
    intro f hf
    simpa using h f (List.mem_reverse.mp hf)
  unfold keysAt Playback.keysAt Playback.ofRecording
  rw [hnone]

theorem keysAt_record_of_ne (r : Recording) {m n : Nat} (s : KeyState) (h : m ≠ n) :
    (r.record m s).keysAt n = r.keysAt n := by
  unfold record
  split_ifs
  · rfl
  · rw [keysAt_concat, if_neg h]

/-- A frame that is recorded for the first time is found as it was recorded, also if no key was
held and it was left out. -/
theorem keysAt_record_self {r : Recording} {n : Nat} (s : KeyState)
    (h : ∀ f ∈ r.frames, f.frame ≠ n) : (r.record n s).keysAt n = s.held.toList := by
  unfold record
  split_ifs with hempty
  · rw [keysAt_of_not_mem h]
    exact (List.isEmpty_iff.mp hempty).symm
  · rw [keysAt_concat, if_pos rfl]

theorem frame_le_of_mem_record {r : Recording} {m n : Nat} {s : KeyState}
    (h : ∀ f ∈ r.frames, f.frame ≤ m) (hmn : m ≤ n) : ∀ f ∈ (r.record n s).frames, f.frame ≤ n := by
  intro f hf
  unfold record at hf
  split_ifs at hf
  · exact (h f hf).trans hmn
  · rcases List.mem_append.mp hf with hf | hf
    · exact (h f hf).trans hmn
    · rw [List.mem_singleton.mp hf]

end Recording

/-! ### Playing frames -/

/-- A frame that has been played: the world before the batch of keys, the batch, and the world at the
end of the frame, before the keys forget what happened. -/
structure PlayedFrame where
  before : World
  batch : List KeyState.Event
  finish : World

namespace World

/-- The keys of a batch go down and up. -/
def receive (w : World) (batch : List KeyState.Event) : World :=
  { w with keys := w.keys.receiveAll batch }

/-- Plays a frame for each batch. -/
def playBatches (exec : Exec) (s : Setup) : World → List (List KeyState.Event) →
    Option (List PlayedFrame × World)
  | w, [] => some ([], w)
  | w, batch :: rest => do
    let v ← (w.receive batch).step exec s
    let (frames, u) ← playBatches exec s v.endInput rest
    return (⟨w, batch, v⟩ :: frames, u)

end World

/-- The world at the start of a frame, when the keys are known. -/
def PlayedFrame.start (x : PlayedFrame) : World := (x.before.receive x.batch).beginFrame

namespace World

theorem abides_withContext (w : World) (c : Context) : w.Abides (w.withContext c) :=
  .of_eq rfl rfl rfl rfl rfl

theorem keeps_abides (s : Setup) (depth : Nat) : (Machine.execute s depth).Keeps Abides :=
  Machine.keeps_execute (fun _ _ he => he.abides) (fun _ _ _ => .trans) abides_withContext depth

/-- Once a frame has begun, it changes the keys by edits only, and neither the number of the frame nor
what is recorded and played back. -/
theorem abides_of_step {s : Setup} {depth : Nat} {w v : World}
    (h : w.step (Machine.execute s depth) s = some v) : w.beginFrame.Abides v :=
  (activity_frame s w).rel (fun _ _ he => he.abides) (fun _ _ _ => .trans) abides_withContext
    (keeps_abides s depth) h

/-- So does drawing. -/
theorem abides_of_draw {s : Setup} {depth : Nat} {w v : World}
    (h : w.draw (Machine.execute s depth) s = some v) : w.Abides v :=
  (activity_draw s w).rel (fun _ _ he => he.abides) (fun _ _ _ => .trans) abides_withContext
    (keeps_abides s depth) h

theorem playBatches_cons {exec : Exec} {s : Setup} {w u : World} {batch : List KeyState.Event}
    {rest : List (List KeyState.Event)} {played : List PlayedFrame}
    (h : w.playBatches exec s (batch :: rest) = some (played, u)) :
    ∃ v frames, (w.receive batch).step exec s = some v ∧
      v.endInput.playBatches exec s rest = some (frames, u) ∧ played = ⟨w, batch, v⟩ :: frames := by
  obtain ⟨v, hstep, h⟩ := Option.bind_eq_some_iff.mp h
  obtain ⟨⟨frames, u'⟩, hrest, h⟩ := Option.bind_eq_some_iff.mp h
  cases h
  exact ⟨v, frames, hstep, hrest, rfl⟩

/-! ### The live run -/

section Live

variable {s : Setup} {depth : Nat} {w u : World} {batches : List (List KeyState.Event)}
  {frames : List PlayedFrame} {r R : Recording}

theorem beginFrame_of_live (h : w.playback = none) :
    w.beginFrame.keys = w.keys ∧ w.beginFrame.frame = w.frame + 1 ∧
      w.beginFrame.recording = w.recording.map (fun r => r.record (w.frame + 1) w.keys) ∧
      w.beginFrame.playback = w.playback := by
  unfold beginFrame
  rw [h]
  exact ⟨rfl, rfl, rfl, rfl⟩

/-- What is recorded of a frame stays so, and the recording tells of each frame which keys were held
at its start. -/
theorem keysAt_of_playBatches (hlive : w.playback = none) (hrecording : w.recording = some r)
    (hr : ∀ f ∈ r.frames, f.frame ≤ w.frame)
    (h : w.playBatches (Machine.execute s depth) s batches = some (frames, u))
    (hR : u.recording = some R) :
    (∀ n ≤ w.frame, R.keysAt n = r.keysAt n) ∧
      ∀ x ∈ frames, R.keysAt x.start.frame = x.start.keys.held.toList := by
  induction batches generalizing w r frames with
  | nil =>
    cases h
    rw [hrecording] at hR
    cases hR
    exact ⟨fun _ _ => rfl, fun x hx => by cases hx⟩
  | cons batch rest ih =>
    obtain ⟨v, frames, hstep, hrest, rfl⟩ := playBatches_cons h
    obtain ⟨hkeys, hframe, hbegin, hstill⟩ := beginFrame_of_live (w := w.receive batch) hlive
    have habides := abides_of_step hstep
    have hv : v.endInput.recording = some (r.record (w.frame + 1) (w.receive batch).keys) := by
      rw [show v.endInput.recording = v.recording from rfl, habides.recording, hbegin]
      exact congrArg (Option.map _) hrecording
    have hnext : v.endInput.frame = w.frame + 1 := habides.frame.trans hframe
    have hrecorded : ∀ f ∈ (r.record (w.frame + 1) (w.receive batch).keys).frames,
        f.frame ≤ v.endInput.frame := by
      rw [hnext]
      exact Recording.frame_le_of_mem_record hr (Nat.le_succ _)
    obtain ⟨hold, hnew⟩ := ih (w := v.endInput) (habides.playback.trans (hstill.trans hlive)) hv
      hrecorded hrest
    rw [hnext] at hold
    refine ⟨fun n hn => ?_, fun x hx => ?_⟩
    · rw [hold n (hn.trans (Nat.le_succ _))]
      exact Recording.keysAt_record_of_ne r _ (Nat.lt_succ_of_le hn).ne'
    · rcases List.mem_cons.mp hx with rfl | hx
      · change R.keysAt (w.receive batch).beginFrame.frame =
          (w.receive batch).beginFrame.keys.held.toList
        rw [hframe, hkeys]
        rw [show R.keysAt ((w.receive batch).frame + 1) = _ from hold (w.frame + 1) le_rfl]
        apply Recording.keysAt_record_self
        intro f hf
        exact (Nat.lt_succ_of_le (hr f hf)).ne
      · exact hnew x hx

end Live

/-! ### The run that plays back -/

section Playback

variable {s : Setup} {depth : Nat} {w w' u u' : World} {batches : List (List KeyState.Event)}
  {frames frames' : List PlayedFrame} {r R : Recording}

theorem beginFrame_of_playback (h : w.playback = some (.ofRecording R)) :
    w.beginFrame.keys = w.keys.holdExactly (R.keysAt (w.frame + 1)) ∧
      w.beginFrame.frame = w.frame + 1 ∧ w.beginFrame.playback = w.playback := by
  unfold beginFrame
  rw [h]
  exact ⟨rfl, rfl, rfl⟩

/-- The edits that code makes to the keys in two frames are the same. -/
def SameEdits (x y : PlayedFrame) : Prop :=
  ∃ edits, x.finish.keys = x.start.keys.editAll edits ∧ y.finish.keys = y.start.keys.editAll edits

/-- A live run and one that plays a recording back, between two frames: they have like keys and have
come to the same frame. -/
structure InStep (R : Recording) (w w' : World) : Prop where
  rested : w.keys.Rested
  alike : w.keys.Alike w'.keys
  frame : w'.frame = w.frame
  live : w.playback = none
  playback : w'.playback = some (.ofRecording R)

/-- A frame whose keys the recording tells starts with like keys in both runs, and they stay in
step. -/
theorem InStep.step {batch : List KeyState.Event} {v v' : World} (h : InStep R w w')
    (haccepts : w.keys.Accepts [] batch)
    (htold : R.keysAt (PlayedFrame.start ⟨w, batch, v⟩).frame =
      (PlayedFrame.start ⟨w, batch, v⟩).keys.held.toList)
    (hstep : (w.receive batch).step (Machine.execute s depth) s = some v)
    (hstep' : (w'.receive []).step (Machine.execute s depth) s = some v')
    (hedits : SameEdits ⟨w, batch, v⟩ ⟨w', [], v'⟩) :
    (PlayedFrame.start ⟨w, batch, v⟩).keys.Alike (PlayedFrame.start ⟨w', [], v'⟩).keys ∧
      InStep R v.endInput v'.endInput := by
  obtain ⟨edits, hfinish, hfinish'⟩ := hedits
  obtain ⟨hkeys, hnumber, -, hstill⟩ := beginFrame_of_live (w := w.receive batch) h.live
  obtain ⟨hkeys', hnumber', hstill'⟩ := beginFrame_of_playback (w := w'.receive []) h.playback
  unfold PlayedFrame.start at htold hfinish hfinish' ⊢
  have habides := abides_of_step hstep
  have habides' := abides_of_step hstep'
  have hheld : R.keysAt ((w'.receive []).frame + 1) = (w.receive batch).keys.held.toList := by
    rw [hnumber, hkeys] at htold
    change R.keysAt (w'.frame + 1) = _
    rw [h.frame]
    exact htold
  obtain ⟨hstart, hcurrent⟩ := KeyState.alike_of_batch h.rested h.alike haccepts
  have hstarts : (w.receive batch).beginFrame.keys.Alike (w'.receive []).beginFrame.keys := by
    rw [hkeys, hkeys', hheld]
    exact hstart
  have hfinishes : v.keys.Alike v'.keys := by
    rw [hfinish, hfinish']
    exact hstarts.editAll edits
  have hcurrents : v.keys.current = KeyState.currentOf v.keys.held := by
    rw [hfinish]
    apply KeyState.current_editAll
    rw [hkeys]
    exact hcurrent
  have hnext : v'.frame = v.frame := by
    rw [habides'.frame, habides.frame, hnumber, hnumber']
    exact congrArg (· + 1) h.frame
  exact ⟨hstarts, KeyState.rested_nextFrame hcurrents, hfinishes.nextFrame, hnext,
    habides.playback.trans (hstill.trans h.live),
    habides'.playback.trans (hstill'.trans h.playback)⟩

/-- From like keys on, frames that are played back have like keys at their start, if the recording
tells the keys held in the live frames. -/
theorem alike_of_playBatches (hinstep : InStep R w w')
    (h : w.playBatches (Machine.execute s depth) s batches = some (frames, u))
    (haccepts : ∀ x ∈ frames, x.before.keys.Accepts [] x.batch)
    (htold : ∀ x ∈ frames, R.keysAt x.start.frame = x.start.keys.held.toList)
    (h' : w'.playBatches (Machine.execute s depth) s (List.replicate batches.length []) =
      some (frames', u'))
    (hedits : List.Forall₂ SameEdits frames frames') :
    List.Forall₂ (fun x y => x.start.keys.Alike y.start.keys) frames frames' := by
  induction batches generalizing w w' frames frames' with
  | nil =>
    cases h
    cases h'
    exact .nil
  | cons batch rest ih =>
    obtain ⟨v, frames, hstep, hrest, rfl⟩ := playBatches_cons h
    obtain ⟨v', frames', hstep', hrest', rfl⟩ := playBatches_cons h'
    obtain ⟨hedit, hedits⟩ := List.forall₂_cons.mp hedits
    obtain ⟨hstart, hnext⟩ := hinstep.step (haccepts _ List.mem_cons_self)
      (htold _ List.mem_cons_self) hstep hstep' hedit
    refine .cons hstart (ih hnext hrest ?_ ?_ hrest' hedits)
    · intro x hx
      exact haccepts x (List.mem_cons_of_mem _ hx)
    · intro x hx
      exact htold x (List.mem_cons_of_mem _ hx)

/-- Playback reproduces live input. The live run receives a batch of keys before every frame and
records the keys at its start; no key that is held is pressed, and none changes twice in a batch. The
other run starts with the same keys, receives nothing and plays the recording back. If the code of the
frames edits the keys alike in both runs, then at the start of every frame both have the same keys
held and pressed, in the same order, the same ones released, and the same current and last key. -/
theorem playback_reproduces (hrested : w.keys.Rested) (hkeys : w'.keys = w.keys)
    (hframe : w'.frame = w.frame) (hlive : w.playback = none) (hrecording : w.recording = some r)
    (hr : ∀ f ∈ r.frames, f.frame ≤ w.frame)
    (h : w.playBatches (Machine.execute s depth) s batches = some (frames, u))
    (haccepts : ∀ x ∈ frames, x.before.keys.Accepts [] x.batch) (hR : u.recording = some R)
    (hplayback : w'.playback = some (.ofRecording R))
    (h' : w'.playBatches (Machine.execute s depth) s (List.replicate batches.length []) =
      some (frames', u'))
    (hedits : List.Forall₂ SameEdits frames frames') :
    List.Forall₂ (fun x y => x.start.keys.Alike y.start.keys) frames frames' := by
  have halike : w.keys.Alike w'.keys := by
    rw [hkeys]
    exact ⟨rfl, rfl, fun _ => Iff.rfl, rfl, rfl⟩
  have htold := (keysAt_of_playBatches hlive hrecording hr h hR).2
  exact alike_of_playBatches ⟨hrested, halike, hframe, hlive, hplayback⟩ h haccepts htold h' hedits

/-- A world without instances, in which the keys are recorded. -/
def typingWorld : World where
  recording := some {}
  generator := .ofSeed 1

/-- Two keys go down, then one of them goes up and a third one down, and then all go up. -/
def typing : List (List KeyState.Event) :=
  [[.down 37, .down 38], [.up 37, .down 39], [.up 39, .up 38, .up 37]]

/-- What is recorded of it. In the third frame no key is held. -/
def typed : Recording := ⟨[⟨1, [37, 38]⟩, ⟨2, [38, 39]⟩]⟩

/-- The same world, in which the recording is played back. -/
def playbackWorld : World where
  playback := some (.ofRecording typed)
  generator := .ofSeed 1

theorem playback_reproduces_typing : ∃ frames frames' u u',
    typingWorld.playBatches (Machine.execute Machine.farewellSetup 1) Machine.farewellSetup typing =
      some (frames, u) ∧
    playbackWorld.playBatches (Machine.execute Machine.farewellSetup 1) Machine.farewellSetup
      (List.replicate typing.length []) = some (frames', u') ∧
    frames.map (fun x => x.start.keys.pressed.toList) = [[37, 38], [39], []] ∧
    List.Forall₂ (fun x y => x.start.keys.Alike y.start.keys) frames frames' := by
  have hlive : typingWorld.playBatches (Machine.execute Machine.farewellSetup 1)
      Machine.farewellSetup typing = some (_, _) := rfl
  have hplayback : playbackWorld.playBatches (Machine.execute Machine.farewellSetup 1)
      Machine.farewellSetup (List.replicate typing.length []) = some (_, _) := rfl
  refine ⟨_, _, _, _, hlive, hplayback, rfl, ?_⟩
  have hkeys : playbackWorld.keys = typingWorld.keys := rfl
  have htyped : playbackWorld.playback = some (.ofRecording typed) := rfl
  apply playback_reproduces (r := {}) ⟨rfl, rfl, rfl⟩ hkeys rfl rfl rfl (by simp) hlive _ _ htyped
    hplayback
  · exact .cons ⟨[], rfl, rfl⟩ (.cons ⟨[], rfl, rfl⟩ (.cons ⟨[], rfl, rfl⟩ .nil))
  · decide
  · rfl

end Playback

/-- Playing frames without any batches is what playing frames is. -/
theorem playFrames_eq (exec : Exec) (s : Setup) (n : Nat) (w : World) :
    playFrames exec s n w = (w.playBatches exec s (List.replicate n [])).map Prod.snd := by
  induction n generalizing w with
  | zero => rfl
  | succ n ih =>
    change ((w.receive []).step exec s).bind (fun v => playFrames exec s n v.endInput) = _
    rw [List.replicate_succ, playBatches]
    cases (w.receive []).step exec s with
    | none => rfl
    | some v =>
      change playFrames exec s n v.endInput = _
      rw [ih v.endInput]
      cases hrest : v.endInput.playBatches exec s (List.replicate n []) with
      | none => simp [hrest]
      | some played => simp [hrest]

/-- In every frame the edits are such as code makes them. -/
theorem exists_edits {s : Setup} {depth : Nat} {w u : World} {batches : List (List KeyState.Event)}
    {frames : List PlayedFrame}
    (h : w.playBatches (Machine.execute s depth) s batches = some (frames, u)) :
    ∀ x ∈ frames, ∃ edits, x.finish.keys = x.start.keys.editAll edits := by
  induction batches generalizing w frames with
  | nil =>
    cases h
    intro x hx
    cases hx
  | cons batch rest ih =>
    obtain ⟨v, frames, hstep, hrest, rfl⟩ := playBatches_cons h
    intro x hx
    rcases List.mem_cons.mp hx with rfl | hx
    · exact (abides_of_step hstep).keys
    · exact ih hrest x hx

end World

end GameRunner

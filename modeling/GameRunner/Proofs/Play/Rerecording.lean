import GameRunner.Proofs.Play.Replay

/-!
# Recording a playback

Frames that play a recording back can be recorded at the same time. At the start of each of them the
keys that are held are replaced by those of the recording, whatever code and the host have done to
them since the last one, and it is these keys that are recorded. A frame in which none are held is
left out of the recording, and a frame that is left out is played back with none held. So the second
recording is the first one, up to the frame that has been played last.
-/

namespace GameRunner

namespace Recording

/-- A recording as it is made: the numbers of the frames increase and start from one, and the keys
of each are some keys without repetition. -/
structure WellMade (r : Recording) : Prop where
  increasing : r.frames.Pairwise fun a b => a.frame < b.frame
  numbered : ∀ f ∈ r.frames, 1 ≤ f.frame
  keys : ∀ f ∈ r.frames, f.keys ≠ [] ∧ f.keys.Nodup

instance (r : Recording) : Decidable r.WellMade :=
  decidable_of_iff (r.frames.Pairwise (fun a b => a.frame < b.frame) ∧
      (∀ f ∈ r.frames, 1 ≤ f.frame) ∧ ∀ f ∈ r.frames, f.keys ≠ [] ∧ f.keys.Nodup)
    ⟨fun ⟨hi, hn, hk⟩ => ⟨hi, hn, hk⟩, fun h => ⟨h.increasing, h.numbered, h.keys⟩⟩

/-- The frames up to a number. -/
def upTo (r : Recording) (n : Nat) : Recording := ⟨r.frames.filter fun f => f.frame ≤ n⟩

variable {r given : Recording} {n : Nat}

/-- What is recorded of keys that have just been played back. -/
theorem record_holdExactly (r : Recording) (n : Nat) (s : KeyState) {keys : List Int32}
    (h : keys.Nodup) :
    r.record n (s.holdExactly keys) =
      if keys = [] then r else ⟨r.frames ++ [⟨n, keys⟩]⟩ := by
  have hkeys : (s.holdExactly keys).held.toList = keys :=
    KeySet.toList_foldl_insert (s := .empty) h
  unfold record KeySet.isEmpty
  simp only [hkeys, List.isEmpty_iff]

theorem WellMade.upTo_zero (h : given.WellMade) : given.upTo 0 = {} := by
  unfold upTo
  congr 1
  rw [List.filter_eq_nil_iff]
  intro f hf
  have := h.numbered f hf
  simp only [decide_eq_true_eq]
  omega

/-- Where the numbers increase, the frames up to the next number are those up to a number and then
the frame with the next one. -/
theorem filter_frame_le_succ {frames : List RecordedFrame}
    (h : frames.Pairwise fun a b => a.frame < b.frame) (n : Nat) :
    frames.filter (fun f => f.frame ≤ n + 1) =
      frames.filter (fun f => f.frame ≤ n) ++ frames.filter fun f => f.frame = n + 1 := by
  induction frames with
  | nil => rfl
  | cons f rest ih =>
    obtain ⟨hfirst, hrest⟩ := List.pairwise_cons.mp h
    by_cases hf : f.frame ≤ n
    · have hle : f.frame ≤ n + 1 := hf.trans (Nat.le_succ n)
      have hne : f.frame ≠ n + 1 := by omega
      rw [List.filter_cons_of_pos (by simpa using hle), List.filter_cons_of_pos (by simpa using hf),
        List.filter_cons_of_neg (by simpa using hne), ih hrest, List.cons_append]
    · -- after a frame beyond the number there is none up to it
      have hnone : (f :: rest).filter (fun g => g.frame ≤ n) = [] := by
        rw [List.filter_eq_nil_iff]
        intro g hg
        rw [decide_eq_true_eq]
        rcases List.mem_cons.mp hg with rfl | hg
        · exact hf
        · have := hfirst g hg
          omega
      rw [hnone, List.nil_append]
      apply List.filter_congr
      intro g hg
      have hbeyond : g ∉ (f :: rest).filter fun g => g.frame ≤ n := by
        rw [hnone]
        exact List.not_mem_nil
      have : ¬g.frame ≤ n := by simpa [hg] using hbeyond
      rw [decide_eq_decide]
      omega

theorem WellMade.of_concat {frames : List RecordedFrame} {f : RecordedFrame}
    (h : WellMade ⟨frames ++ [f]⟩) : WellMade ⟨frames⟩ where
  increasing := (List.pairwise_append.mp h.increasing).1
  numbered g hg := h.numbered g (List.mem_append_left _ hg)
  keys g hg := h.keys g (List.mem_append_left _ hg)

/-- A recording has a frame with the keys that it tells of it, unless it tells of none. -/
theorem keysAt_eq_nil_or_mem (r : Recording) (n : Nat) :
    r.keysAt n = [] ∨ ⟨n, r.keysAt n⟩ ∈ r.frames := by
  obtain ⟨frames⟩ := r
  induction frames using List.reverseRecOn with
  | nil => exact .inl rfl
  | append_singleton frames f ih =>
    rw [keysAt_concat]
    split_ifs with hf
    · subst hf
      exact .inr (List.mem_append_right _ List.mem_cons_self)
    · exact ih.imp_right (List.mem_append_left _)

/-- The frames with a number are the one with the keys that the recording tells of it. -/
theorem WellMade.filter_frame (h : given.WellMade) (n : Nat) :
    given.frames.filter (fun f => f.frame = n) =
      if given.keysAt n = [] then [] else [⟨n, given.keysAt n⟩] := by
  obtain ⟨frames⟩ := given
  induction frames using List.reverseRecOn with
  | nil => rfl
  | append_singleton frames f ih =>
    rw [keysAt_concat, List.filter_append]
    by_cases hf : f.frame = n
    · subst hf
      have hbefore : frames.filter (fun g => g.frame = f.frame) = [] := by
        rw [List.filter_eq_nil_iff]
        intro g hg
        rw [decide_eq_true_eq]
        exact ((List.pairwise_append.mp h.increasing).2.2 g hg f List.mem_cons_self).ne
      have hkeys : f.keys ≠ [] := (h.keys f (List.mem_append_right _ List.mem_cons_self)).1
      rw [hbefore, if_pos rfl, if_neg hkeys, List.nil_append]
      exact List.filter_cons_of_pos (by simp)
    · rw [ih h.of_concat, if_neg hf, List.filter_cons_of_neg (by simpa using hf), List.filter_nil,
        List.append_nil]

theorem WellMade.nodup_keysAt (h : given.WellMade) (n : Nat) : (given.keysAt n).Nodup := by
  rcases given.keysAt_eq_nil_or_mem n with hnone | hmem
  · rw [hnone]
    exact List.nodup_nil
  · exact (h.keys _ hmem).2

/-- Recording a frame that is played back adds the frame of that number. -/
theorem WellMade.record_keysAt (h : given.WellMade) (n : Nat) (s : KeyState) :
    (given.upTo n).record (n + 1) (s.holdExactly (given.keysAt (n + 1))) = given.upTo (n + 1) := by
  have hframes : (given.upTo (n + 1)).frames = (given.upTo n).frames ++ _ :=
    filter_frame_le_succ h.increasing n
  rw [h.filter_frame] at hframes
  rw [record_holdExactly _ _ _ (h.nodup_keysAt _)]
  split_ifs at hframes ⊢
  · rw [List.append_nil] at hframes
    exact congrArg Recording.mk hframes.symm
  · exact congrArg Recording.mk hframes.symm

end Recording

namespace World

/-- The number of the frame, what is recorded and what is played back stay. -/
structure KeepsTape (w v : World) : Prop where
  frame : v.frame = w.frame
  recording : v.recording = w.recording
  playback : v.playback = w.playback

/-- A number of frames, one after the other. After each of them, and before the first one, anything
may be done that does not touch these: the host may press keys, and the room may be drawn. -/
inductive Plays (exec : Exec) (s : Setup) : Nat → World → World → Prop
  | idle {w v : World} : w.KeepsTape v → Plays exec s 0 w v
  | frame {n : Nat} {w v u x : World} :
    Plays exec s n w v → v.step exec s = some u → u.KeepsTape x → Plays exec s (n + 1) w x

namespace KeepsTape

variable {w v u : World}

theorem refl (w : World) : w.KeepsTape w := ⟨rfl, rfl, rfl⟩

theorem trans (h : w.KeepsTape v) (h' : v.KeepsTape u) : w.KeepsTape u :=
  ⟨h'.frame.trans h.frame, h'.recording.trans h.recording, h'.playback.trans h.playback⟩

theorem receive (w : World) (batch : List KeyState.Event) : w.KeepsTape (w.receive batch) :=
  ⟨rfl, rfl, rfl⟩

theorem endInput (w : World) : w.KeepsTape w.endInput := ⟨rfl, rfl, rfl⟩

theorem draw {s : Setup} {depth : Nat} (h : w.draw (Machine.execute s depth) s = some v) :
    w.KeepsTape v :=
  have habides := abides_of_draw h
  ⟨habides.frame, habides.recording, habides.playback⟩

end KeepsTape

namespace Plays

variable {exec : Exec} {s : Setup} {n : Nat} {w v u : World}

theorem of_keepsTape (hkeeps : w.KeepsTape v) (h : v.Plays exec s n u) : w.Plays exec s n u := by
  induction h with
  | idle hidle => exact .idle (hkeeps.trans hidle)
  | frame _ hstep hlast ih => exact .frame (ih hkeeps) hstep hlast

theorem of_step (hstep : w.step exec s = some v) (h : v.Plays exec s n u) :
    w.Plays exec s (n + 1) u := by
  induction h with
  | idle hidle => exact .frame (.idle (.refl w)) hstep hidle
  | frame _ hnext hlast ih => exact .frame (ih hstep) hnext hlast

end Plays

/-- Frames with a batch of keys before each of them are frames one after the other. -/
theorem plays_of_playBatches {exec : Exec} {s : Setup} {batches : List (List KeyState.Event)}
    {w v : World} {frames : List PlayedFrame}
    (h : w.playBatches exec s batches = some (frames, v)) :
    w.Plays exec s batches.length v := by
  induction batches generalizing w frames with
  | nil =>
    cases h
    exact .idle (.refl _)
  | cons batch rest ih =>
    obtain ⟨u, frames, hstep, hrest, -⟩ := playBatches_cons h
    exact .of_keepsTape (.receive w batch) (.of_step hstep (.of_keepsTape (.endInput u) (ih hrest)))

section Playing

variable {s : Setup} {depth n : Nat} {w v : World} {given : Recording}

theorem recording_beginFrame_of_playback (h : w.playback = some (.ofRecording given)) :
    w.beginFrame.recording = w.recording.map fun r =>
      r.record (w.frame + 1) (w.keys.holdExactly (given.keysAt (w.frame + 1))) := by
  unfold beginFrame
  rw [h]
  rfl

/-- What a frame that is played back leaves in the recording. -/
theorem recording_of_step (hplayback : w.playback = some (.ofRecording given))
    (h : w.step (Machine.execute s depth) s = some v) :
    v.frame = w.frame + 1 ∧ v.playback = w.playback ∧
      v.recording = w.recording.map fun r =>
        r.record (w.frame + 1) (w.keys.holdExactly (given.keysAt (w.frame + 1))) := by
  have habides := abides_of_step h
  obtain ⟨-, hframe, hstill⟩ := beginFrame_of_playback hplayback
  exact ⟨habides.frame.trans hframe, habides.playback.trans hstill,
    habides.recording.trans (recording_beginFrame_of_playback hplayback)⟩

/-- At the end of a number of frames that are played back, what has been recorded is the recording
up to the last of them. -/
theorem upTo_of_plays (hgiven : given.WellMade) (hframe : w.frame = 0)
    (hplayback : w.playback = some (.ofRecording given)) (hrecording : w.recording = some {})
    (h : w.Plays (Machine.execute s depth) s n v) :
    v.frame = n ∧ v.playback = w.playback ∧ v.recording = some (given.upTo n) := by
  induction h with
  | idle hkeeps =>
    refine ⟨hkeeps.frame.trans hframe, hkeeps.playback, ?_⟩
    rw [hkeeps.recording, hrecording, hgiven.upTo_zero]
  | @frame n w v u x _ hstep hkeeps ih =>
    obtain ⟨hv, hvPlayback, hvRecording⟩ := ih hframe hplayback hrecording
    obtain ⟨hu, huPlayback, huRecording⟩ := recording_of_step (hvPlayback.trans hplayback) hstep
    refine ⟨?_, hkeeps.playback.trans (huPlayback.trans hvPlayback), ?_⟩
    · rw [hkeeps.frame, hu, hv]
    · rw [hkeeps.recording, huRecording, hvRecording, hv, Option.map_some,
        hgiven.record_keysAt]

/-- Recording a playback gives the recording back. A recording is played back into a fresh one, from
the first frame on; code may do anything to the keys in a frame, and so may the host between frames.
After a number of frames the fresh recording has the frames of the other one up to that number, in
order. -/
theorem rerecording_gives_back (hgiven : given.WellMade) (hframe : w.frame = 0)
    (hplayback : w.playback = some (.ofRecording given)) (hrecording : w.recording = some {})
    (h : w.Plays (Machine.execute s depth) s n v) :
    v.recording = some ⟨given.frames.filter fun f => f.frame ≤ n⟩ :=
  (upTo_of_plays hgiven hframe hplayback hrecording h).2.2

/-- A world without instances, in which a recording is played back and the keys are recorded. -/
def rerecordingWorld : World where
  playback := some (.ofRecording typed)
  recording := some {}
  generator := .ofSeed 1

theorem rerecording_gives_typed_back : ∃ v,
    rerecordingWorld.Plays (Machine.execute Machine.farewellSetup 1) Machine.farewellSetup 3 v ∧
      v.recording = some typed := by
  have hrun : rerecordingWorld.playBatches (Machine.execute Machine.farewellSetup 1)
      Machine.farewellSetup [[.down 65], [.up 37, .down 37], []] = some (_, _) := rfl
  have hplays := plays_of_playBatches hrun
  have htyped : typed.WellMade := by decide
  exact ⟨_, hplays, rerecording_gives_back htyped rfl rfl rfl hplays⟩

end Playing

end World

end GameRunner

import GameRunner.Proofs.Play.Replay

/-!
# The keys agree with each other

Keys go down and up, code forgets them, frames end, and playback replaces the keys that are held, in
any order: a key may go down twice, go up without being held, or do both within a frame. What becomes
of one key never depends on the others. So the three sets of keys are told key by key, by whether it is
held, pressed and released, and what they have to do with each other is a matter of one key. Only the
current key depends on all of those that are held.
-/

namespace GameRunner

namespace KeySet

theorem mem_foldl_insert {k : Int32} {keys : List Int32} {s : KeySet} :
    k ∈ (keys.foldl insert s).toList ↔ k ∈ s.toList ∨ k ∈ keys := by
  induction keys generalizing s with
  | nil => simp
  | cons first rest ih => rw [List.foldl_cons, ih, mem_insert, List.mem_cons, or_assoc]

theorem mem_ofList {k : Int32} {keys : List Int32} : k ∈ (ofList keys).toList ↔ k ∈ keys := by
  rw [ofList, mem_foldl_insert]
  exact or_iff_right List.not_mem_nil

theorem contains_eq_decide (s : KeySet) (k : Int32) : s.contains k = decide (k ∈ s.toList) :=
  List.contains_eq_mem _ _

end KeySet

namespace KeyState

/-- What is done to the keys. -/
inductive Handling
  /-- The host reports a key. -/
  | report (e : Event)
  /-- Code edits the keys. -/
  | edit (e : Edit)
  /-- The frame ends. -/
  | endFrame
  /-- Playback tells which keys are held. -/
  | hold (keys : List Int32)
  deriving Repr, DecidableEq

def handle (s : KeyState) : Handling → KeyState
  | .report e => s.receive e
  | .edit e => s.edit e
  | .endFrame => s.nextFrame
  | .hold keys => s.holdExactly keys

/-- Whatever is done to the keys, one thing after the other. -/
def handleAll (s : KeyState) (done : List Handling) : KeyState := done.foldl handle s

/-! ### One key -/

/-- How a key stands: whether it is held, and whether it was pressed and released since the last
frame. -/
structure Phase where
  held : Bool
  pressed : Bool
  released : Bool
  deriving Repr, DecidableEq

namespace Phase

/-- A key that has never been touched. -/
def untouched : Phase := ⟨false, false, false⟩

/-- A key that goes down is pressed unless it was held. -/
def goDown (p : Phase) : Phase := ⟨true, p.pressed || !p.held, p.released⟩

/-- A key that goes up is released if it was held. -/
def goUp (p : Phase) : Phase := ⟨false, p.pressed, p.released || p.held⟩

/-- What happened to a key is forgotten. -/
def rest (p : Phase) : Phase := ⟨p.held, false, false⟩

/-- A key is held from now on or not; what differs from before was pressed or released. -/
def become (p : Phase) (held : Bool) : Phase := ⟨held, held && !p.held, p.held && !held⟩

/-- How a key stands after something is done to the keys. -/
def next (k : Int32) (p : Phase) : Handling → Phase
  | .report (.down key) => if key = k then p.goDown else p
  | .report (.up key) => if key = k then p.goUp else p
  | .edit (.clear key) => if key = k then untouched else p
  | .edit (.setLast _) => p
  | .endFrame => p.rest
  | .hold keys => p.become (decide (k ∈ keys))

/-- How a key stands in the end. -/
def after (k : Int32) (p : Phase) (done : List Handling) : Phase := done.foldl (next k) p

/-- A key that was pressed and is not held any more was released, and a key that was released and is
held again was pressed. -/
structure Sound (p : Phase) : Prop where
  released : p.pressed = true → p.held = false → p.released = true
  pressed : p.released = true → p.held = true → p.pressed = true

variable {k : Int32} {p : Phase}

theorem sound_untouched : untouched.Sound := ⟨nofun, nofun⟩

theorem sound_rest (p : Phase) : p.rest.Sound := ⟨nofun, nofun⟩

theorem sound_become (p : Phase) (held : Bool) : (p.become held).Sound where
  released hpressed hheld := by
    rw [(Bool.and_eq_true_iff.mp hpressed).1] at hheld
    cases hheld
  pressed hreleased hheld := by
    have hnot := (Bool.and_eq_true_iff.mp hreleased).2
    rw [show held = true from hheld] at hnot
    cases hnot

theorem Sound.goDown (h : p.Sound) : p.goDown.Sound where
  released _ := nofun
  pressed hreleased _ := by
    cases hheld : p.held with
    | true => exact Bool.or_eq_true_iff.mpr (.inl (h.pressed hreleased hheld))
    | false => exact Bool.or_eq_true_iff.mpr (.inr (by rw [hheld]; rfl))

theorem Sound.goUp (h : p.Sound) : p.goUp.Sound where
  released hpressed _ := by
    cases hheld : p.held with
    | true => exact Bool.or_eq_true_iff.mpr (.inr hheld)
    | false => exact Bool.or_eq_true_iff.mpr (.inl (h.released hpressed hheld))
  pressed _ := nofun

theorem sound_ite {c : Prop} [Decidable c] {q : Phase} (hp : p.Sound) (hq : q.Sound) :
    (if c then p else q).Sound := by
  split_ifs
  · exact hp
  · exact hq

theorem Sound.next (h : p.Sound) (k : Int32) (doing : Handling) : (p.next k doing).Sound := by
  cases doing with
  | report e =>
    cases e with
    | down key => exact sound_ite h.goDown h
    | up key => exact sound_ite h.goUp h
  | edit e =>
    cases e with
    | clear key => exact sound_ite sound_untouched h
    | setLast key => exact h
  | endFrame => exact sound_rest p
  | hold keys => exact sound_become p _

theorem Sound.after (h : p.Sound) (done : List Handling) : (p.after k done).Sound := by
  induction done generalizing p with
  | nil => exact h
  | cons doing rest ih => exact ih (h.next k doing)

end Phase

/-- How a key stands among all keys. -/
def phase (s : KeyState) (k : Int32) : Phase :=
  ⟨decide (k ∈ s.held.toList), decide (k ∈ s.pressed.toList), decide (k ∈ s.released.toList)⟩

theorem phase_keyDown (s : KeyState) (key k : Int32) :
    (s.keyDown key).phase k = (s.phase k).next k (.report (.down key)) := by
  unfold phase keyDown Phase.next Phase.goDown
  by_cases hkey : key = k
  · subst hkey
    by_cases hheld : key ∈ s.held.toList <;> simp [KeySet.contains_eq_decide, hheld]
  · have hne : k ≠ key := fun h => hkey h.symm
    by_cases hheld : key ∈ s.held.toList <;>
      simp [KeySet.contains_eq_decide, hheld, hkey, hne]

theorem phase_keyUp (s : KeyState) (key k : Int32) :
    (s.keyUp key).phase k = (s.phase k).next k (.report (.up key)) := by
  unfold phase keyUp Phase.next Phase.goUp
  by_cases hkey : key = k
  · subst hkey
    by_cases hheld : key ∈ s.held.toList <;> simp [KeySet.contains_eq_decide, hheld]
  · have hne : k ≠ key := fun h => hkey h.symm
    by_cases hheld : key ∈ s.held.toList <;>
      simp [KeySet.contains_eq_decide, hheld, hkey, hne]

theorem phase_clearKey (s : KeyState) (key k : Int32) :
    (s.clearKey key).phase k = (s.phase k).next k (.edit (.clear key)) := by
  unfold phase clearKey Phase.next
  by_cases hkey : key = k
  · subst hkey
    simp [Phase.untouched]
  · have hne : k ≠ key := fun h => hkey h.symm
    simp [hkey, hne]

theorem phase_holdExactly (s : KeyState) (keys : List Int32) (k : Int32) :
    (s.holdExactly keys).phase k = (s.phase k).next k (.hold keys) := by
  unfold phase holdExactly Phase.next Phase.become
  simp [KeySet.mem_ofList]

/-- What becomes of a key does not depend on the others. -/
theorem phase_handle (s : KeyState) (doing : Handling) (k : Int32) :
    (s.handle doing).phase k = (s.phase k).next k doing := by
  cases doing with
  | report e =>
    cases e with
    | down key => exact s.phase_keyDown key k
    | up key => exact s.phase_keyUp key k
  | edit e =>
    cases e with
    | clear key => exact s.phase_clearKey key k
    | setLast key => rfl
  | endFrame => rfl
  | hold keys => exact s.phase_holdExactly keys k

theorem phase_handleAll (s : KeyState) (done : List Handling) (k : Int32) :
    (s.handleAll done).phase k = (s.phase k).after k done := by
  induction done generalizing s with
  | nil => rfl
  | cons doing rest ih =>
    rw [handleAll, List.foldl_cons, ← handleAll, ih, phase_handle]
    rfl

/-! ### The current key -/

/-- The current key is one of those that are held, and no key if there are none. -/
structure HoldsCurrent (s : KeyState) : Prop where
  none : s.held.toList = [] → s.current = noKey
  some : s.held.toList ≠ [] → s.current ∈ s.held.toList

theorem holdsCurrent_of_eq {s : KeyState} (h : s.current = currentOf s.held) : s.HoldsCurrent where
  none hnone := by
    rw [h, currentOf, KeySet.last?, hnone]
    rfl
  some hsome := by
    rw [h, currentOf, KeySet.last?, List.getLast?_eq_some_getLast hsome]
    exact List.getLast_mem hsome

theorem HoldsCurrent.handle {s : KeyState} (h : s.HoldsCurrent) (doing : Handling) :
    (s.handle doing).HoldsCurrent := by
  cases doing with
  | report e =>
    cases e with
    | down key =>
      -- The key that went down is the current one, whether or not it was held before.
      have hmem : key ∈ (s.keyDown key).held.toList := (KeySet.mem_insert s.held key key).mpr (.inr rfl)
      exact ⟨fun hnone => absurd hmem (hnone ▸ List.not_mem_nil), fun _ => hmem⟩
    | up key => exact holdsCurrent_of_eq rfl
  | edit e =>
    cases e with
    | clear key => exact holdsCurrent_of_eq rfl
    | setLast key => exact ⟨h.none, h.some⟩
  | endFrame => exact ⟨h.none, h.some⟩
  | hold keys => exact holdsCurrent_of_eq rfl

theorem HoldsCurrent.handleAll {s : KeyState} (h : s.HoldsCurrent) (done : List Handling) :
    (s.handleAll done).HoldsCurrent := by
  induction done generalizing s with
  | nil => exact h
  | cons doing rest ih => exact ih (h.handle doing)

/-! ### All keys -/

/-- The three sets of keys and the current key agree with each other. -/
structure Consistent (s : KeyState) : Prop where
  current_of_none : s.held.toList = [] → s.current = noKey
  current_of_some : s.held.toList ≠ [] → s.current ∈ s.held.toList
  released_of_pressed : ∀ k ∈ s.pressed.toList, k ∉ s.held.toList → k ∈ s.released.toList
  pressed_of_released : ∀ k ∈ s.released.toList, k ∈ s.held.toList → k ∈ s.pressed.toList

namespace Consistent

variable {s : KeyState}

theorem of_phases (h : s.HoldsCurrent) (hphase : ∀ k, (s.phase k).Sound) : s.Consistent where
  current_of_none := h.none
  current_of_some := h.some
  released_of_pressed k hpressed hheld :=
    of_decide_eq_true ((hphase k).released (decide_eq_true hpressed) (decide_eq_false hheld))
  pressed_of_released k hreleased hheld :=
    of_decide_eq_true ((hphase k).pressed (decide_eq_true hreleased) (decide_eq_true hheld))

theorem sound_phase (h : s.Consistent) (k : Int32) : (s.phase k).Sound where
  released hpressed hheld :=
    decide_eq_true (h.released_of_pressed k (of_decide_eq_true hpressed) (of_decide_eq_false hheld))
  pressed hreleased hheld :=
    decide_eq_true (h.pressed_of_released k (of_decide_eq_true hreleased) (of_decide_eq_true hheld))

theorem new : Consistent {} :=
  .of_phases (holdsCurrent_of_eq rfl) fun _ => Phase.sound_untouched

theorem handleAll (h : s.Consistent) (done : List Handling) : (s.handleAll done).Consistent := by
  have hcurrent : s.HoldsCurrent := ⟨h.current_of_none, h.current_of_some⟩
  refine .of_phases (hcurrent.handleAll done) fun k => ?_
  rw [phase_handleAll]
  exact (h.sound_phase k).after done

end Consistent

/-- Whatever is done to the keys from the start on, they agree with each other: the current key is one
that is held, if there is any; a key that was pressed and is not held was released; and a key that was
released and is held was pressed. And each key is held, pressed and released as what was done to this
one key tells. -/
theorem keys_agree (done : List Handling) :
    (handleAll {} done).Consistent ∧
      ∀ k, (handleAll {} done).phase k = Phase.untouched.after k done :=
  ⟨Consistent.new.handleAll done, phase_handleAll {} done⟩

/-- A key is let go and tapped again within a frame, and another one goes down and up in between. -/
example :
    (handleAll {} [.report (.down 37), .endFrame, .report (.up 37), .report (.down 90),
      .report (.up 90), .report (.down 37)]).phase 37 = ⟨true, true, true⟩ := by decide

end KeyState

/-! ### In a game -/

namespace World

/-- Nothing has been done to the keys but what can be done to them. -/
def HandlesKeys (w v : World) : Prop := ∃ done, v.keys = w.keys.handleAll done

namespace HandlesKeys

variable {w v u : World}

theorem refl (w : World) : w.HandlesKeys w := ⟨[], rfl⟩

theorem trans (h : w.HandlesKeys v) (h' : v.HandlesKeys u) : w.HandlesKeys u := by
  obtain ⟨done, hv⟩ := h
  obtain ⟨more, hu⟩ := h'
  refine ⟨done ++ more, ?_⟩
  rw [hu, hv]
  exact List.foldl_append.symm

theorem abides (h : w.Abides v) : w.HandlesKeys v := by
  obtain ⟨edits, hv⟩ := h.keys
  refine ⟨edits.map .edit, ?_⟩
  rw [hv, KeyState.handleAll, List.foldl_map]
  rfl

theorem receive (w : World) (batch : List KeyState.Event) : w.HandlesKeys (w.receive batch) := by
  refine ⟨batch.map .report, ?_⟩
  rw [KeyState.handleAll, List.foldl_map]
  rfl

theorem endInput (w : World) : w.HandlesKeys w.endInput := ⟨[.endFrame], rfl⟩

theorem beginFrame (w : World) : w.HandlesKeys w.beginFrame := by
  cases h : w.playback with
  | none => exact ⟨[], by simp only [World.beginFrame, h]; rfl⟩
  | some p => exact ⟨[.hold (p.keysAt (w.frame + 1))], by simp only [World.beginFrame, h]; rfl⟩

theorem step {s : Setup} {depth : Nat} (h : w.step (Machine.execute s depth) s = some v) :
    w.HandlesKeys v :=
  (beginFrame w).trans (abides (abides_of_step h))

theorem draw {s : Setup} {depth : Nat} (h : w.draw (Machine.execute s depth) s = some v) :
    w.HandlesKeys v :=
  abides (abides_of_draw h)

/-- So the keys agree with each other all through a game. -/
theorem consistent (h : w.HandlesKeys v) (hw : w.keys.Consistent) : v.keys.Consistent := by
  obtain ⟨done, hv⟩ := h
  rw [hv]
  exact hw.handleAll done

end HandlesKeys

end World

end GameRunner

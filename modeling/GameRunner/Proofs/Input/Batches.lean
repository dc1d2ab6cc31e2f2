import GameRunner.Proofs.World.Abiding

/-!
# Batches of keys

Between two frames the host reports a batch of keys that go down and up. If every key changes at most
once in a batch, and none is pressed that is held already, then the keys held before and after it tell
all that happened: which keys were pressed and in which order, which were released, the current key
and the last one. This is what lets a recording of held keys stand in for the batches.
-/

namespace GameRunner

namespace KeySet

@[ext] theorem ext {s t : KeySet} (h : s.toList = t.toList) : s = t := by
  cases s
  cases t
  cases h
  rfl

theorem toList_insert_of_not_mem {s : KeySet} {k : Int32} (h : k ∉ s.toList) :
    (s.insert k).toList = s.toList ++ [k] := by
  unfold insert
  rw [dif_neg h]

theorem last?_of_concat {s : KeySet} {keys : List Int32} {k : Int32}
    (h : s.toList = keys ++ [k]) : s.last? = some k := by
  rw [last?, h, List.getLast?_concat]

theorem contains_eq_false {s : KeySet} {k : Int32} (h : k ∉ s.toList) : s.contains k = false := by
  simpa [contains] using h

theorem contains_eq_true {s : KeySet} {k : Int32} (h : k ∈ s.toList) : s.contains k = true := by
  simpa [contains] using h

theorem erase_of_not_mem {s : KeySet} {k : Int32} (h : k ∉ s.toList) : s.erase k = s := by
  apply ext
  apply List.filter_eq_self.mpr
  intro a ha
  rw [decide_eq_true_eq]
  rintro rfl
  exact h ha

theorem toList_foldl_insert {s : KeySet} {keys : List Int32} (h : (s.toList ++ keys).Nodup) :
    (keys.foldl insert s).toList = s.toList ++ keys := by
  induction keys generalizing s with
  | nil => exact (List.append_nil _).symm
  | cons k rest ih =>
    have hk : k ∉ s.toList := by
      intro hmem
      exact (List.nodup_append.mp h).2.2 k hmem k List.mem_cons_self rfl
    have hinsert := toList_insert_of_not_mem hk
    have hlist : (s.insert k).toList ++ rest = s.toList ++ k :: rest := by
      rw [hinsert, List.append_assoc, List.singleton_append]
    rw [List.foldl_cons, ih (hlist ▸ h), hlist]

/-- A set is made of its own list. -/
theorem ofList_toList (s : KeySet) : ofList s.toList = s := by
  apply ext
  exact toList_foldl_insert s.nodup

end KeySet

namespace KeyState

/-- What the host reports of a key. -/
inductive Event
  | down (key : Int32)
  | up (key : Int32)
  deriving Repr, DecidableEq

def receive (s : KeyState) : Event → KeyState
  | .down key => s.keyDown key
  | .up key => s.keyUp key

/-- The keys after a batch. -/
def receiveAll (s : KeyState) (batch : List Event) : KeyState := batch.foldl receive s

/-- A batch presses no key that is held, and changes none for a second time; the keys changed already
are listed. A key that goes up without being held does not change. -/
def Accepts (s : KeyState) (changed : List Int32) : List Event → Prop
  | [] => True
  | .down k :: rest =>
    k ∉ s.held.toList ∧ k ∉ changed ∧ (s.keyDown k).Accepts (k :: changed) rest
  | .up k :: rest =>
    if k ∈ s.held.toList then k ∉ changed ∧ (s.keyUp k).Accepts (k :: changed) rest
    else (s.keyUp k).Accepts changed rest

instance decidableAccepts : (batch : List Event) → (s : KeyState) → (changed : List Int32) →
    Decidable (s.Accepts changed batch)
  | [], _, _ => .isTrue trivial
  | .down k :: rest, s, changed =>
    have := decidableAccepts rest (s.keyDown k) (k :: changed)
    inferInstanceAs (Decidable (k ∉ s.held.toList ∧ k ∉ changed ∧
      (s.keyDown k).Accepts (k :: changed) rest))
  | .up k :: rest, s, changed =>
    have := decidableAccepts rest (s.keyUp k) (k :: changed)
    have := decidableAccepts rest (s.keyUp k) changed
    inferInstanceAs (Decidable (if k ∈ s.held.toList then
      k ∉ changed ∧ (s.keyUp k).Accepts (k :: changed) rest else (s.keyUp k).Accepts changed rest))

/-- Nothing has happened since the last frame, and the current key is the one held last. -/
structure Rested (s : KeyState) : Prop where
  pressed : s.pressed = .empty
  released : s.released = .empty
  current : s.current = currentOf s.held

/-- The same keys for all that a game can tell: the order of those released is never seen. -/
structure Alike (s t : KeyState) : Prop where
  held : t.held = s.held
  pressed : t.pressed = s.pressed
  released : ∀ k, k ∈ t.released.toList ↔ k ∈ s.released.toList
  current : t.current = s.current
  last : t.last = s.last

/-! ### Within a batch -/

/-- How the keys in the middle of a batch follow from those before it and from the keys that were
pressed and released since. -/
structure Follows (s₀ : KeyState) (changed : List Int32) (s : KeyState) : Prop where
  held : s.held.toList = s₀.held.toList.filter (· ∉ s.released.toList) ++ s.pressed.toList
  pressed : ∀ k ∈ s.pressed.toList, k ∈ changed ∧ k ∉ s₀.held.toList
  released : ∀ k ∈ s.released.toList, k ∈ changed ∧ k ∈ s₀.held.toList
  current : s.current = currentOf s.held
  last : s.last = s.pressed.last?.getD s₀.last

namespace Follows

variable {s₀ s : KeyState} {changed : List Int32} {k : Int32}

theorem start (h : s₀.Rested) : Follows s₀ [] s₀ where
  held := by simp [h.pressed, h.released, KeySet.empty]
  pressed k hk := by
    rw [h.pressed] at hk
    cases hk
  released k hk := by
    rw [h.released] at hk
    cases hk
  current := h.current
  last := by
    rw [h.pressed]
    rfl

/-- A key that has not been changed is held if it was held before the batch. -/
theorem mem_held_iff (h : Follows s₀ changed s) (hk : k ∉ changed) :
    k ∈ s.held.toList ↔ k ∈ s₀.held.toList := by
  rw [h.held, List.mem_append, List.mem_filter, decide_eq_true_eq]
  constructor
  · rintro (⟨hmem, -⟩ | hmem)
    · exact hmem
    · exact absurd (h.pressed k hmem).1 hk
  · intro hmem
    exact .inl ⟨hmem, fun hreleased => hk (h.released k hreleased).1⟩

theorem down (h : Follows s₀ changed s) (hheld : k ∉ s.held.toList) (hk : k ∉ changed) :
    Follows s₀ (k :: changed) (s.keyDown k) := by
  have hpressed : k ∉ s.pressed.toList := fun hmem => hk (h.pressed k hmem).1
  have hbefore : k ∉ s₀.held.toList := fun hmem => hheld ((h.mem_held_iff hk).mpr hmem)
  have hnew : (s.keyDown k).pressed.toList = s.pressed.toList ++ [k] := by
    simp only [keyDown, KeySet.contains_eq_false hheld, Bool.false_eq_true, if_false]
    exact KeySet.toList_insert_of_not_mem hpressed
  have hnewHeld : (s.keyDown k).held.toList = s.held.toList ++ [k] :=
    KeySet.toList_insert_of_not_mem hheld
  refine ⟨?_, ?_, ?_, ?_, ?_⟩
  · rw [hnewHeld, hnew, h.held, List.append_assoc]
    rfl
  · intro a ha
    rw [hnew, List.mem_append, List.mem_singleton] at ha
    rcases ha with ha | rfl
    · exact ⟨List.mem_cons_of_mem k (h.pressed a ha).1, (h.pressed a ha).2⟩
    · exact ⟨List.mem_cons_self, hbefore⟩
  · intro a ha
    exact ⟨List.mem_cons_of_mem k (h.released a ha).1, (h.released a ha).2⟩
  · rw [currentOf, KeySet.last?_of_concat hnewHeld]
    rfl
  · rw [KeySet.last?_of_concat hnew]
    rfl

theorem up_of_held (h : Follows s₀ changed s) (hheld : k ∈ s.held.toList) (hk : k ∉ changed) :
    Follows s₀ (k :: changed) (s.keyUp k) := by
  have hpressed : k ∉ s.pressed.toList := fun hmem => hk (h.pressed k hmem).1
  have hreleased : k ∉ s.released.toList := fun hmem => hk (h.released k hmem).1
  have hbefore : k ∈ s₀.held.toList := (h.mem_held_iff hk).mp hheld
  have hnew : (s.keyUp k).released.toList = s.released.toList ++ [k] := by
    simp only [keyUp, KeySet.contains_eq_true hheld, if_true]
    exact KeySet.toList_insert_of_not_mem hreleased
  refine ⟨?_, ?_, ?_, rfl, h.last⟩
  · change s.held.toList.filter (· ≠ k) = _
    rw [hnew, h.held, List.filter_append, List.filter_filter]
    congr 1
    · apply List.filter_congr
      intro a _
      simp [not_or, and_comm]
    · exact congrArg KeySet.toList (KeySet.erase_of_not_mem hpressed)
  · intro a ha
    exact ⟨List.mem_cons_of_mem k (h.pressed a ha).1, (h.pressed a ha).2⟩
  · intro a ha
    rw [hnew, List.mem_append, List.mem_singleton] at ha
    rcases ha with ha | rfl
    · exact ⟨List.mem_cons_of_mem k (h.released a ha).1, (h.released a ha).2⟩
    · exact ⟨List.mem_cons_self, hbefore⟩

theorem up_of_not_held (h : Follows s₀ changed s) (hheld : k ∉ s.held.toList) :
    Follows s₀ changed (s.keyUp k) := by
  have hsame : (s.keyUp k).held = s.held := KeySet.erase_of_not_mem hheld
  have hreleased : (s.keyUp k).released = s.released := by
    simp only [keyUp, KeySet.contains_eq_false hheld, Bool.false_eq_true, if_false]
  refine ⟨?_, h.pressed, ?_, rfl, h.last⟩
  · rw [hsame, hreleased]
    exact h.held
  · rw [hreleased]
    exact h.released

theorem receiveAll {batch : List Event} (h : Follows s₀ changed s) (ha : s.Accepts changed batch) :
    ∃ changed', Follows s₀ changed' (s.receiveAll batch) := by
  induction batch generalizing s changed with
  | nil => exact ⟨changed, h⟩
  | cons e rest ih =>
    cases e with
    | down k =>
      obtain ⟨hheld, hk, hrest⟩ := ha
      exact ih (h.down hheld hk) hrest
    | up k =>
      unfold Accepts at ha
      split_ifs at ha with hheld
      · exact ih (h.up_of_held hheld ha.1) ha.2
      · exact ih (h.up_of_not_held hheld) ha

/-- At the end of a batch, the keys that were pressed or released can be told from those held before
and now. -/
theorem alike_holdExactly {t : KeyState} (h : Follows s₀ changed s) (hheld : t.held = s₀.held)
    (hlast : t.last = s₀.last) : Alike s (t.holdExactly s.held.toList) := by
  have hset : KeySet.ofList s.held.toList = s.held := KeySet.ofList_toList s.held
  have hpressed : s.held.difference s₀.held = s.pressed := by
    apply KeySet.ext
    change s.held.toList.filter (fun k => !s₀.held.contains k) = _
    rw [h.held, List.filter_append, List.filter_filter]
    have hold : (s₀.held.toList.filter fun k =>
        (!s₀.held.contains k) && decide (k ∉ s.released.toList)) = [] := by
      apply List.filter_eq_nil_iff.mpr
      intro k hk
      simp [KeySet.contains_eq_true hk]
    have hnew : (s.pressed.toList.filter fun k => !s₀.held.contains k) = s.pressed.toList := by
      apply List.filter_eq_self.mpr
      intro k hk
      simp [KeySet.contains_eq_false (h.pressed k hk).2]
    rw [hold, hnew, List.nil_append]
  refine ⟨hset, ?_, ?_, ?_, ?_⟩
  · change (KeySet.ofList s.held.toList).difference t.held = _
    rw [hset, hheld]
    exact hpressed
  · intro k
    change k ∈ (t.held.difference (KeySet.ofList s.held.toList)).toList ↔ _
    rw [hset, hheld, KeySet.mem_difference, h.held]
    constructor
    · rintro ⟨hbefore, hnow⟩
      by_contra hreleased
      apply hnow
      exact List.mem_append_left _ (List.mem_filter.mpr ⟨hbefore, by simpa using hreleased⟩)
    · intro hreleased
      refine ⟨(h.released k hreleased).2, fun hnow => ?_⟩
      rcases List.mem_append.mp hnow with hnow | hnow
      · simp [hreleased] at hnow
      · exact (h.pressed k hnow).2 (h.released k hreleased).2
  · change currentOf (KeySet.ofList s.held.toList) = _
    rw [hset]
    exact h.current.symm
  · change ((KeySet.ofList s.held.toList).difference t.held).last?.getD t.last = _
    rw [hset, hheld, hpressed, hlast]
    exact h.last.symm

end Follows

/-! ### From frame to frame -/

variable {s t : KeyState}

/-- Holding exactly the keys that are held after a batch comes to the same as receiving the batch. -/
theorem alike_of_batch {batch : List Event} (hs : s.Rested) (hst : Alike s t)
    (ha : s.Accepts [] batch) :
    Alike (s.receiveAll batch) (t.holdExactly (s.receiveAll batch).held.toList) ∧
      (s.receiveAll batch).current = currentOf (s.receiveAll batch).held := by
  obtain ⟨changed, hfollows⟩ := (Follows.start hs).receiveAll ha
  exact ⟨hfollows.alike_holdExactly hst.held hst.last, hfollows.current⟩

theorem Alike.edit (h : Alike s t) (e : Edit) : Alike (s.edit e) (t.edit e) := by
  cases e with
  | clear key =>
    refine ⟨?_, ?_, ?_, ?_, h.last⟩
    · exact congrArg (KeySet.erase · key) h.held
    · exact congrArg (KeySet.erase · key) h.pressed
    · intro k
      change k ∈ (t.released.erase key).toList ↔ k ∈ (s.released.erase key).toList
      rw [KeySet.mem_erase, KeySet.mem_erase, h.released k]
    · exact congrArg (fun held => currentOf (held.erase key)) h.held
  | setLast key => exact ⟨h.held, h.pressed, h.released, h.current, rfl⟩

theorem Alike.editAll (h : Alike s t) (edits : List Edit) :
    Alike (s.editAll edits) (t.editAll edits) := by
  induction edits generalizing s t with
  | nil => exact h
  | cons e rest ih => exact ih (h.edit e)

theorem Alike.nextFrame (h : Alike s t) : Alike s.nextFrame t.nextFrame :=
  ⟨h.held, rfl, fun _ => Iff.rfl, h.current, h.last⟩

theorem current_editAll (h : s.current = currentOf s.held) (edits : List Edit) :
    (s.editAll edits).current = currentOf (s.editAll edits).held := by
  induction edits generalizing s with
  | nil => exact h
  | cons e rest ih =>
    cases e with
    | clear key => exact ih rfl
    | setLast key => exact ih h

theorem rested_nextFrame (h : s.current = currentOf s.held) : s.nextFrame.Rested := ⟨rfl, rfl, h⟩

end KeyState

end GameRunner

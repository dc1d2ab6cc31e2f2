import GameRunner.Proofs.Number.Integers
import GameRunner.Proofs.Play.AlarmCounts
import GameRunner.Proofs.Play.Liveness

/-!
# Pictures of an animation

In each frame there is one pass in which animations advance: the speed is added to the index of the
picture, and where this is beyond the last picture the number of pictures is taken off, once.
Nothing is ever added again below the first picture. So the index stays within the sprite, pass
after pass, if the speed is neither negative nor above the number of pictures. Any other speed leads
out of the sprite as long as the instance is live and no code intervenes.
-/

namespace GameRunner

open Number

/-! ### Indices that are integers -/

section Indices

variable {n v k : Int}

/-- The index of the picture after a pass, with exact numbers. -/
def nextPicture (n v k : Int) : Int := if n ≤ k + v then k + v - n else k + v

/-- From an index within a sprite, a speed leads neither below its first picture nor beyond its last
one in a number of passes. -/
def StaysWithin (n v k : Int) (passes : Nat) : Prop :=
  0 ≤ k + passes * min v 0 ∧ k + passes * max (v - n) 0 < n

theorem staysWithin_zero (h : 0 ≤ k ∧ k < n) : StaysWithin n v k 0 := by
  simpa [StaysWithin] using h

theorem staysWithin_succ_iff (h : 0 ≤ k ∧ k < n) (passes : Nat) :
    StaysWithin n v k (passes + 1) ↔ (0 ≤ nextPicture n v k ∧ nextPicture n v k < n) ∧
      StaysWithin n v (nextPicture n v k) passes := by
  obtain ⟨hlow, hhigh⟩ := h
  have hpasses : (0 : Int) ≤ passes := Int.natCast_nonneg passes
  unfold StaysWithin nextPicture
  push_cast
  rcases lt_or_ge v 0 with hneg | hnonneg
  · -- backwards, the index only falls
    have hfall : passes * v ≤ 0 := Int.mul_nonpos_of_nonneg_of_nonpos hpasses hneg.le
    rw [if_neg (by omega), min_eq_left hneg.le, max_eq_right (by omega), add_mul, one_mul]
    omega
  · rw [min_eq_right hnonneg]
    rcases le_or_gt v n with hslow | hfast
    · rw [max_eq_right (by omega)]
      split_ifs <;> omega
    · -- at more than the number of pictures, each pass goes further beyond the last one
      have hrise : 0 ≤ passes * (v - n) := Int.mul_nonneg hpasses (by omega)
      rw [if_pos (by omega), max_eq_left (by omega), mul_zero, add_mul, one_mul]
      omega

/-- Pass by pass, exact numbers are within a sprite. -/
def RunsWithin (n v k : Int) (passes : Nat) : Prop :=
  ∀ m ≤ passes, 0 ≤ (nextPicture n v)^[m] k ∧ (nextPicture n v)^[m] k < n

theorem runsWithin_iff (h : 0 ≤ k ∧ k < n) (passes : Nat) :
    RunsWithin n v k passes ↔ StaysWithin n v k passes := by
  induction passes generalizing k with
  | zero =>
    refine iff_of_true (fun m hm => ?_) (staysWithin_zero h)
    rwa [Nat.le_zero.mp hm]
  | succ passes ih =>
    rw [staysWithin_succ_iff h]
    constructor
    · intro hall
      have hnext := hall 1 (by omega)
      exact ⟨hnext, (ih hnext).mp fun m hm => hall (m + 1) (by omega)⟩
    · rintro ⟨hnext, hlater⟩ m hm
      cases m with
      | zero => exact h
      | succ m => exact (ih hnext).mpr hlater m (by omega)

/-- The speeds that never lead out of a sprite. -/
theorem forall_staysWithin_iff (h : 0 ≤ k ∧ k < n) :
    (∀ passes, StaysWithin n v k passes) ↔ 0 ≤ v ∧ v ≤ n := by
  constructor
  · intro hall
    -- after as many passes as there are pictures, any other speed has led out
    obtain ⟨hlow, hhigh⟩ := hall n.toNat
    have hn : (n.toNat : Int) = n := by omega
    rw [hn] at hlow hhigh
    constructor
    · by_contra! hneg
      rw [min_eq_left hneg.le] at hlow
      nlinarith
    · by_contra! hfast
      rw [max_eq_left (by omega)] at hhigh
      nlinarith
  · rintro ⟨hnonneg, hslow⟩ passes
    unfold StaysWithin
    rw [min_eq_right hnonneg, max_eq_right (by omega), mul_zero, add_zero]
    exact h

end Indices

/-! ### The animation of an instance -/

/-- What the animation of an instance depends on. -/
structure Animation where
  sprite : Int32
  picture : Float
  speed : Float

namespace Animation

/-- The animation after a pass. -/
def next (pictures : Nat) (a : Animation) : Animation :=
  let next := a.picture + a.speed
  { a with
    picture := if Float.ofNat pictures ≤ next then next - Float.ofNat pictures else next }

/-- The speed and the index of the picture are integers. -/
structure HasValues (a : Animation) (v k : Int) : Prop where
  speed : HasValue a.speed v
  picture : HasValue a.picture k

theorem HasValues.next {a : Animation} {n : Nat} {v k : Int} (h : a.HasValues v k)
    (hk : 0 ≤ k ∧ k < n) (hexact : n + v.natAbs < 2 ^ 53) :
    (a.next n).HasValues v (nextPicture n v k) := by
  have hcount : HasValue (.ofNat n) n := hasValue_ofNat (by omega)
  have hsum : HasValue (a.picture + a.speed) (k + v) := h.picture.add h.speed (by omega)
  refine ⟨h.speed, ?_⟩
  unfold Animation.next nextPicture
  simp only [hcount.le_iff hsum]
  split_ifs
  · exact hsum.sub hcount (by omega)
  · exact hsum

end Animation

namespace Instance

def animation (i : Instance) : Animation := ⟨i.spriteIndex, i.imageIndex, i.imageSpeed⟩

theorem animation_animate (pictures : Nat) (i : Instance) :
    (i.animate pictures).1.animation = i.animation.next pictures := by
  unfold animate Animation.next animation
  dsimp only
  split_ifs <;> rfl

end Instance

namespace World

/-- The animation of an instance that is there. -/
def animation? (w : World) (id : Int32) : Option Animation := (w.instance? id).map (·.animation)

/-- A change that leaves the animation of an instance alone, and does not bring the instance back
once it is destroyed. -/
def KeepsAnimation (self : Int32) (w v : World) : Prop :=
  v.animation? self = w.animation? self ∧ (v.isLive self = true → w.isLive self = true)

namespace KeepsAnimation

variable {self : Int32} {w v u : World}

theorem refl (w : World) : KeepsAnimation self w w := ⟨rfl, fun h => h⟩

theorem trans (h : KeepsAnimation self w v) (h' : KeepsAnimation self v u) :
    KeepsAnimation self w u :=
  ⟨h'.1.trans h.1, fun hlive => h.2 (h'.2 hlive)⟩

theorem of_instance? (h : v.instance? self = w.instance? self) : KeepsAnimation self w v := by
  refine ⟨congrArg _ h, fun hlive => ?_⟩
  obtain ⟨i, hi, hilive⟩ := exists_of_isLive hlive
  rw [isLive_eq (h ▸ hi), hilive]

theorem of_instances (h : v.instances = w.instances) : KeepsAnimation self w v := by
  refine of_instance? ?_
  unfold instance?
  rw [h]

theorem modify_of_ne {k : Int32} (h : self ≠ k) (w : World) (f : Instance → Instance) :
    KeepsAnimation self w (w.modify k f) := by
  refine of_instance? ?_
  rw [instance?_modify, if_neg h]

end KeepsAnimation

/-- The animation of an instance has gone on from `a` to `b`, or the instance is not live any more
and has the animation that it had. -/
structure Advances (id : Int32) (a b : Animation) (w v : World) : Prop where
  live : v.isLive id = true → w.isLive id = true
  animation : v.animation? id = some b ∨ v.isLive id = false ∧ v.animation? id = some a

section Advancing

variable {self : Int32} {a b : Animation} {w v u : World}

theorem KeepsAnimation.advances (h : KeepsAnimation self w v) (h' : Advances self a b v u) :
    Advances self a b w u :=
  ⟨fun hlive => h.2 (h'.live hlive), h'.animation⟩

theorem Advances.keeps (h : Advances self a b w v) (h' : KeepsAnimation self v u) :
    Advances self a b w u := by
  refine ⟨fun hlive => h.live (h'.2 hlive), ?_⟩
  rw [h'.1]
  refine h.animation.imp_right fun hdead => ⟨?_, hdead.2⟩
  exact Bool.eq_false_iff.mpr fun hlive => Bool.eq_false_iff.mp hdead.1 (h'.2 hlive)

theorem KeepsAnimation.advances_of_dead (h : KeepsAnimation self w v)
    (ha : w.animation? self = some a) (hdead : ¬ w.isLive self = true) :
    Advances self a b w v :=
  ⟨h.2, .inr ⟨Bool.eq_false_iff.mpr fun hlive => hdead (h.2 hlive), h.1.trans ha⟩⟩

end Advancing

/-- The index of the picture of an instance is within a number of pictures. -/
def ShowsPicture (self : Int32) (pictures : Nat) (w : World) : Prop :=
  ∃ a ∈ w.animation? self, 0 ≤ a.picture ∧ a.picture < Float.ofNat pictures

instance (self : Int32) (pictures : Nat) (w : World) : Decidable (w.ShowsPicture self pictures) :=
  inferInstanceAs (Decidable (∃ a ∈ w.animation? self, _))

end World

/-! ### One pass -/

namespace Plan

variable {α β : Type} {exec : Exec} {s : Setup} {self : Int32} {w v : World}

/-- Everything that a plan starts leaves the animation of an instance alone if it comes to an end.
-/
def LeavesAnimation (exec : Exec) (s : Setup) (self : Int32) (plan : Plan α) : Prop :=
  ∀ x ∈ plan.trace exec s, ∀ v, x.2.run exec s x.1 = some v → World.KeepsAnimation self x.1 v

theorem LeavesAnimation.left {plan : Plan α} {k : α → Plan β}
    (h : (plan >>= k).LeavesAnimation exec s self) : plan.LeavesAnimation exec s self :=
  fun x hx => h x (mem_trace_bind.mpr (.inl hx))

theorem LeavesAnimation.right {plan : Plan α} {k : α → Plan β} {a : α}
    (h : (plan >>= k).LeavesAnimation exec s self) (ha : plan.run exec s = some a) :
    (k a).LeavesAnimation exec s self :=
  fun x hx => h x (mem_trace_bind.mpr (.inr ⟨a, ha, hx⟩))

/-- Where no code ever touches the animation, nothing that is started does. -/
theorem leavesAnimation_of_keeps (hexec : exec.Keeps (World.KeepsAnimation self)) (plan : Plan α) :
    plan.LeavesAnimation exec s self :=
  fun x _ _ hv => rel_of_start (fun _ _ => .of_instances) (fun _ _ _ => .trans) hexec x.2 hv

theorem keepsAnimation_fire {id subtype : Int32} {type : Nat} {other : Option Int32}
    (hcode : (fire w id type subtype other).LeavesAnimation exec s self)
    (hv : (fire w id type subtype other).run exec s = some v) : w.KeepsAnimation self v :=
  hcode (w, .event id type subtype other) (by simp) v ((run_start ..).symm.trans hv)

/-- The visit to an instance if it is live. -/
def animateLive (g : Game) (w : World) (id : Int32) : Plan World :=
  if w.isLive id then animate g w id else pure w

/-- The animation of one instance is nothing to another one. -/
theorem keepsAnimation_animateLive_of_ne {id : Int32} (h : self ≠ id)
    (hcode : (animateLive s.game w id).LeavesAnimation exec s self)
    (hv : (animateLive s.game w id).run exec s = some v) : w.KeepsAnimation self v := by
  unfold animateLive at hcode hv
  split_ifs at hcode hv
  · unfold animate at hcode hv
    split at hcode
    · next hi =>
      simp only [hi] at hv
      cases hv
      exact .refl _
    · next i hi =>
      simp only [hi] at hv
      dsimp only at hcode hv
      have hmodify := World.KeepsAnimation.modify_of_ne h w
      split_ifs at hcode hv
      · cases hv
        exact .refl _
      · exact (hmodify _).trans (keepsAnimation_fire hcode hv)
      · cases hv
        exact hmodify _
  · cases hv
    exact .refl _

theorem keepsAnimation_foldlM {ids : List Int32} (hself : self ∉ ids)
    (hcode : (ids.foldlM (animateLive s.game) w).LeavesAnimation exec s self)
    (hv : (ids.foldlM (animateLive s.game) w).run exec s = some v) : w.KeepsAnimation self v := by
  induction ids generalizing w with
  | nil =>
    cases hv
    exact .refl _
  | cons id rest ih =>
    obtain ⟨hne, hrest⟩ := not_or.mp (mt List.mem_cons.mpr hself)
    obtain ⟨u, hu, hv⟩ := Option.bind_eq_some_iff.mp ((run_bind ..).symm.trans hv)
    exact (keepsAnimation_animateLive_of_ne hne hcode.left hu).trans (ih hrest (hcode.right hu) hv)

section Turn

variable {sprite : Sprite} {a : Animation} (hsprite : s.game.sprite? a.sprite = some sprite)
  (hmany : 2 ≤ sprite.frames.length) (ha : w.animation? self = some a)
include hsprite hmany ha

theorem advances_animateLive
    (hcode : (animateLive s.game w self).LeavesAnimation exec s self)
    (hv : (animateLive s.game w self).run exec s = some v) :
    World.Advances self a (a.next sprite.frames.length) w v := by
  unfold animateLive at hcode hv
  split_ifs at hcode hv with hlive
  · obtain ⟨i, hi, -⟩ := World.exists_of_isLive hlive
    obtain rfl : i.animation = a := by simpa [World.animation?, hi] using ha
    have hpictures : ((s.game.sprite? i.spriteIndex).map (·.frames.length)).getD 0 =
        sprite.frames.length := by
      have hsprite : s.game.sprite? i.spriteIndex = some sprite := hsprite
      rw [hsprite]
      rfl
    have hmodify : World.Advances self i.animation (i.animation.next sprite.frames.length) w
        (w.modify self fun _ => (i.animate sprite.frames.length).1) := by
      refine ⟨fun _ => hlive, .inl ?_⟩
      rw [World.animation?, World.instance?_modify, if_pos rfl, hi, ← Instance.animation_animate]
      rfl
    unfold animate at hcode hv
    simp only [hi, hpictures, if_neg (show ¬ sprite.frames.length ≤ 1 by omega)] at hcode hv
    split_ifs at hcode hv
    · exact hmodify.keeps (keepsAnimation_fire hcode hv)
    · cases hv
      exact hmodify
  · cases hv
    exact (World.KeepsAnimation.refl w).advances_of_dead ha hlive

/-- Each instance has one turn. -/
theorem advances_foldlM {ids : List Int32} (hids : ids.Nodup) (hself : self ∈ ids)
    (hcode : (ids.foldlM (animateLive s.game) w).LeavesAnimation exec s self)
    (hv : (ids.foldlM (animateLive s.game) w).run exec s = some v) :
    World.Advances self a (a.next sprite.frames.length) w v := by
  induction ids generalizing w with
  | nil => cases hself
  | cons id rest ih =>
    obtain ⟨hfirst, hrest⟩ := List.nodup_cons.mp hids
    obtain ⟨u, hu, hv⟩ := Option.bind_eq_some_iff.mp ((run_bind ..).symm.trans hv)
    by_cases heq : id = self
    · subst heq
      have hturn := advances_animateLive hsprite hmany ha hcode.left hu
      exact hturn.keeps (keepsAnimation_foldlM hfirst (hcode.right hu) hv)
    · have hmem : self ∈ rest := (List.mem_cons.mp hself).resolve_left (Ne.symm heq)
      have hkeeps := keepsAnimation_animateLive_of_ne (Ne.symm heq) hcode.left hu
      exact hkeeps.advances (ih (hkeeps.1.trans ha) hrest hmem (hcode.right hu) hv)

theorem advances_runAnimation (hcode : (runAnimation s.game w).LeavesAnimation exec s self)
    (hv : (runAnimation s.game w).run exec s = some v) :
    World.Advances self a (a.next sprite.frames.length) w v := by
  by_cases hself : self ∈ w.liveIds
  · exact advances_foldlM hsprite hmany ha (World.nodup_liveIds w) hself hcode hv
  · refine (keepsAnimation_foldlM hself hcode hv).advances_of_dead ha fun hlive => hself ?_
    obtain ⟨i, hi, hilive⟩ := World.exists_of_isLive hlive
    exact World.mem_liveIds hi hilive

end Turn

end Plan

/-! ### Pass after pass -/

/-- A number of passes in which animations advance, with the worlds before and after each. All the
time no code touches the animation of an instance, and in between it is left as it is. -/
structure AnimationPasses (exec : Exec) (s : Setup) (id : Int32) (before after : Nat → World)
    (passes : Nat) : Prop where
  runs : ∀ p < passes, (before p).runAnimation exec s = some (after p)
  leavesAnimation : ∀ p < passes,
    (Plan.runAnimation s.game (before p)).LeavesAnimation exec s id
  keepsAnimation : ∀ p, p + 1 < passes → (after p).KeepsAnimation id (before (p + 1))

/-- The animation of an instance is at integers, where exact numbers come to as well in at most a
number of passes. A live instance has taken part in all of them. -/
def World.Tracks (id sprite : Int32) (n v k : Int) (passes : Nat) (w : World) : Prop :=
  ∃ a, w.animation? id = some a ∧ a.sprite = sprite ∧ ∃ m ≤ passes,
    a.HasValues v ((nextPicture n v)^[m] k) ∧ (w.isLive id = true → m = passes)

section Passes

variable {exec : Exec} {s : Setup} {self index : Int32} {w u : World} {sprite : Sprite} {v k : Int}

theorem World.Tracks.keeps {n : Int} {passes : Nat} (h : w.Tracks self index n v k passes)
    (hkeeps : w.KeepsAnimation self u) : u.Tracks self index n v k passes := by
  obtain ⟨a, ha, hindex, m, hm, hvalues, hlive⟩ := h
  exact ⟨a, hkeeps.1.trans ha, hindex, m, hm, hvalues, fun h => hlive (hkeeps.2 h)⟩

theorem World.showsPicture_iff {n : Nat} {a : Animation} (hn : n < 2 ^ 53)
    (ha : w.animation? self = some a) (hvalues : a.HasValues v k) :
    w.ShowsPicture self n ↔ 0 ≤ k ∧ k < n := by
  have hzero : HasValue 0 0 := hasValue_ofNat (by decide : 0 < 2 ^ 53)
  have hvalue : 0 ≤ a.picture ∧ a.picture < Float.ofNat n ↔ 0 ≤ k ∧ k < n := by
    rw [hzero.le_iff hvalues.picture, hvalues.picture.lt_iff (hasValue_ofNat hn)]
  rw [← hvalue]
  constructor
  · rintro ⟨b, hb, hwithin⟩
    cases ha.symm.trans hb
    exact hwithin
  · intro hwithin
    exact ⟨a, ha, hwithin⟩

section Sprite

variable (hsprite : s.game.sprite? index = some sprite) (hmany : 2 ≤ sprite.frames.length)
  (hexact : sprite.frames.length + v.natAbs < 2 ^ 53)
include hsprite hmany hexact

theorem World.Tracks.runAnimation {p : Nat} (h : w.Tracks self index sprite.frames.length v k p)
    (hwithin : RunsWithin sprite.frames.length v k p)
    (hcode : (Plan.runAnimation s.game w).LeavesAnimation exec s self)
    (hu : w.runAnimation exec s = some u) :
    u.Tracks self index sprite.frames.length v k (p + 1) := by
  obtain ⟨a, ha, rfl, m, hm, hvalues, hlive⟩ := h
  have hadvances :=
    Plan.advances_runAnimation hsprite hmany ha hcode ((Plan.run_runAnimation ..).trans hu)
  rcases hadvances.animation with hnext | ⟨hdead, hsame⟩
  · refine ⟨_, hnext, rfl, m + 1, by omega, ?_, fun h => by rw [hlive (hadvances.live h)]⟩
    rw [Function.iterate_succ_apply']
    exact hvalues.next (hwithin m hm) hexact
  · refine ⟨a, hsame, rfl, m, by omega, hvalues, fun h => ?_⟩
    exact absurd h (Bool.eq_false_iff.mp hdead)

/-- As long as exact numbers are within the sprite, the animation is where they are. -/
theorem AnimationPasses.tracks {before after : Nat → World} {passes p : Nat}
    (hplay : AnimationPasses exec s self before after passes)
    (h : (before 0).Tracks self index sprite.frames.length v k 0) (hp : p < passes)
    (hwithin : RunsWithin sprite.frames.length v k p) :
    (after p).Tracks self index sprite.frames.length v k (p + 1) := by
  have hbefore : (before p).Tracks self index sprite.frames.length v k p := by
    induction p with
    | zero => exact h
    | succ p ih =>
      have hearlier : RunsWithin sprite.frames.length v k p := fun m hm => hwithin m (by omega)
      have hafter := (ih (by omega) hearlier).runAnimation hsprite hmany hexact hearlier
        (hplay.leavesAnimation p (by omega)) (hplay.runs p (by omega))
      exact hafter.keeps (hplay.keepsAnimation p hp)
  exact hbefore.runAnimation hsprite hmany hexact hwithin (hplay.leavesAnimation p hp)
    (hplay.runs p hp)

end Sprite

/-- An animation of at least two pictures starts within its sprite, with an index and a speed that
are integers, small enough for exact sums. Then exact numbers tell where it gets to. If they stay
within the sprite, so does the index, in each of a number of passes; if the index does and the
instance is live all the time, so do they. They do in any number of passes if and only if the speed
is neither negative nor above the number of pictures. -/
theorem picture_within_sprite_iff {before after : Nat → World} {passes : Nat}
    (hplay : AnimationPasses exec s self before after passes) {a : Animation}
    (ha : (before 0).animation? self = some a) (hsprite : s.game.sprite? a.sprite = some sprite)
    (hmany : 2 ≤ sprite.frames.length) (hpicture : (a.picture == Float.ofInt k) = true)
    (hspeed : (a.speed == Float.ofInt v) = true) (hk : 0 ≤ k ∧ k < sprite.frames.length)
    (hexact : sprite.frames.length + v.natAbs < 2 ^ 53) :
    (StaysWithin sprite.frames.length v k passes →
        ∀ p < passes, (after p).ShowsPicture self sprite.frames.length) ∧
      ((∀ p < passes, (after p).isLive self = true) →
        (∀ p < passes, (after p).ShowsPicture self sprite.frames.length) →
          StaysWithin sprite.frames.length v k passes) ∧
      ((∀ m, StaysWithin sprite.frames.length v k m) ↔ 0 ≤ v ∧ v ≤ sprite.frames.length) := by
  have hvalues : a.HasValues v k :=
    ⟨(hasValue_ofInt (by omega)).of_beq hspeed, (hasValue_ofInt (by omega)).of_beq hpicture⟩
  have hstart : (before 0).Tracks self a.sprite sprite.frames.length v k 0 :=
    ⟨a, ha, rfl, 0, le_rfl, hvalues, fun _ => rfl⟩
  have htracks {p : Nat} (hp : p < passes) := hplay.tracks hsprite hmany hexact hstart hp
  refine ⟨fun hstays p hp => ?_, fun hlive hshows => ?_, forall_staysWithin_iff hk⟩
  · have hwithin := (runsWithin_iff hk passes).mpr hstays
    obtain ⟨b, hb, -, m, hm, hbvalues, -⟩ := htracks hp fun m hm => hwithin m (by omega)
    exact (World.showsPicture_iff (by omega) hb hbvalues).mpr (hwithin m (by omega))
  · -- pass by pass, what is shown tells that the next index is within the sprite
    have hwithin (p : Nat) (hp : p ≤ passes) : RunsWithin sprite.frames.length v k p := by
      induction p with
      | zero => exact (runsWithin_iff hk 0).mpr (staysWithin_zero hk)
      | succ p ih =>
        have hbefore := ih (by omega)
        obtain ⟨b, hb, -, m, -, hbvalues, hall⟩ := htracks hp hbefore
        obtain rfl := hall (hlive p hp)
        have hnext := (World.showsPicture_iff (by omega) hb hbvalues).mp (hshows p hp)
        intro m hm
        rcases Nat.le_succ_iff.mp hm with hm | rfl
        · exact hbefore m hm
        · exact hnext
    exact (runsWithin_iff hk passes).mp (hwithin passes le_rfl)

end Passes

/-! ### A short film -/

/-- Each piece of code moves its instance to the right. -/
def moveOn : Exec := fun w _ id _ => some (w.modify id fun i => { i with x := i.x + 1 })

/-- There is a sprite with three pictures, and the instances of the only object handle the end of
their animation. -/
def filmSetup : Setup where
  game := {
    sprites := #[{ frames := [0, 0, 0] }]
    objects := #[{ events := [[], [], [], [], [], [], [], [⟨MiscEvent.animationEnd, [0]⟩]] }] }
  program := ⟨#[], ⟨[], []⟩, .empty⟩
  settings := {}

/-- An instance at the second of its three pictures. -/
def film (speed : Float) : World where
  instances := ⟨[{ Instance.create 1 0 0 0 with
    spriteIndex := 0
    imageIndex := 1
    imageSpeed := speed }], List.nodup_singleton _⟩
  generator := .ofSeed 1

/-- The worlds before and after each pass; nothing happens in between. -/
def filmPass (speed : Float) : Nat → World × World
  | 0 => (film speed, ((film speed).runAnimation moveOn filmSetup).getD (film speed))
  | p + 1 =>
    let w := (filmPass speed p).2
    (w, (w.runAnimation moveOn filmSetup).getD w)

theorem World.keepsAnimation_moveOn (self : Int32) : moveOn.Keeps (World.KeepsAnimation self) := by
  intro w code id other v hv
  cases hv
  by_cases hid : self = id
  · subst hid
    cases hi : w.instance? self with
    | none =>
      refine .of_instance? ?_
      rw [World.instance?_modify, if_pos rfl, hi]
      rfl
    | some i =>
      refine ⟨?_, fun hlive => ?_⟩
      · rw [World.animation?, World.animation?, World.instance?_modify, if_pos rfl, hi]
        rfl
      · rwa [World.isLive_modify hi rfl] at hlive
  · exact .modify_of_ne hid w _

theorem animationPasses_film (speed : Float) (passes : Nat) :
    AnimationPasses moveOn filmSetup 1 (fun p => (filmPass speed p).1)
      (fun p => (filmPass speed p).2) passes := by
  have hrun (w v : World) : w.runAnimation moveOn filmSetup =
      some ((w.runAnimation moveOn filmSetup).getD v) := by
    have hsome : ((Plan.runAnimation filmSetup.game w).run moveOn filmSetup).isSome :=
      Plan.isSome_run (fun _ _ _ _ => rfl) (Plan.starts_runAnimation _ w)
    rw [Plan.run_runAnimation] at hsome
    obtain ⟨u, hu⟩ := Option.isSome_iff_exists.mp hsome
    rw [hu]
    rfl
  refine ⟨fun p _ => ?_, fun p _ => ?_, fun p _ => .refl _⟩
  · cases p <;> exact hrun _ _
  · exact Plan.leavesAnimation_of_keeps (World.keepsAnimation_moveOn 1) _

/-- Two pictures forward in each pass, the film never leaves its three pictures. -/
theorem picture_within_sprite_film :
    (film 2).animation? 1 = some ⟨0, 1, 2⟩ ∧ (∀ passes, StaysWithin 3 2 1 passes) ∧
      ∀ p, (filmPass 2 p).2.ShowsPicture 1 3 := by
  have hfilm : (film 2).animation? 1 = some ⟨0, 1, 2⟩ := rfl
  have hsprite : filmSetup.game.sprite? 0 = some { frames := [0, 0, 0] } := rfl
  have hpicture : ((1 : Float) == Float.ofInt 1) = true := by decide +kernel
  have hspeed : ((2 : Float) == Float.ofInt 2) = true := by decide +kernel
  have hwithin (passes : Nat) := picture_within_sprite_iff (animationPasses_film 2 passes) hfilm
    hsprite (by decide) hpicture hspeed (by decide) (by decide)
  have hstays : ∀ passes, StaysWithin 3 2 1 passes := (hwithin 0).2.2.mpr (by decide)
  exact ⟨hfilm, hstays, fun p => (hwithin (p + 1)).1 (hstays _) p (by omega)⟩

/-- Backwards, the film leaves its pictures below the first one, and at more than three pictures in
each pass beyond the last one. -/
theorem picture_outside_sprite_film :
    (∀ speed passes, AnimationPasses moveOn filmSetup 1 (fun p => (filmPass speed p).1)
        (fun p => (filmPass speed p).2) passes) ∧
      (filmPass (-1) 0).1.ShowsPicture 1 3 ∧
      ((filmPass (-1) 1).2.animation? 1).map (·.picture) = some (-1) ∧
      ¬ (filmPass (-1) 1).2.ShowsPicture 1 3 ∧
      (filmPass 5 0).1.ShowsPicture 1 3 ∧
      ((filmPass 5 0).2.animation? 1).map (·.picture) = some 3 ∧
      ¬ (filmPass 5 0).2.ShowsPicture 1 3 := by
  refine ⟨animationPasses_film, ?_⟩
  decide +kernel

end GameRunner

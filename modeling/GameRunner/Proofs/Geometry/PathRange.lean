import GameRunner.Instance.Motion
import Mathlib.Algebra.Order.Archimedean.Basic
import Mathlib.Algebra.Order.Field.Basic
import Mathlib.Tactic

/-!
# Staying on a path

Where a path starts over or the instance turns round at its ends, the position that lies beyond an
end is put back by one length. With exact numbers this keeps the position on the path, frame after
frame, if the speed is at most the length of the path. At any higher speed the position leaves the
path sooner or later, because each frame goes further beyond an end than the last one.
-/

namespace GameRunner

namespace PathProgress

section Frames

variable {R : Type} [Add R] [Sub R] [Neg R] [Div R] [OfNat R 0] [OfNat R 1] [LE R] [DecidableLE R]

/-- One more frame on a path. A path that has been left is not entered again. -/
def frame (action : PathEnd) (length : R) : PathProgress R → PathProgress R
  | .goOn position speed => advancePosition action position speed length
  | .leave atEnd => .leave atEnd

/-- The position lies between the start and the end of the path. -/
def OnPath : PathProgress R → Prop
  | .goOn position _ => 0 ≤ position ∧ position ≤ 1
  | .leave _ => False

/-- A path is left only where it is to be left. -/
theorem exists_advancePosition {action : PathEnd} (haction : action ≠ .stop)
    (position speed length : R) : ∃ position' speed',
      advancePosition action position speed length = .goOn position' speed' := by
  unfold advancePosition
  dsimp only
  cases action with
  | stop => exact absurd rfl haction
  | restart => split_ifs <;> exact ⟨_, _, rfl⟩
  | reverse => split_ifs <;> exact ⟨_, _, rfl⟩

end Frames

section Exact

variable {K : Type} [Field K] [LinearOrder K]

/-- How far an instance has come, seen in the direction in which it moves. -/
def headway : PathProgress K → K
  | .goOn position speed => if 0 < speed then position else 1 - position
  | .leave _ => 0

/-- The speed without its direction. -/
def pace : PathProgress K → K
  | .goOn _ speed => |speed|
  | .leave _ => 0

variable {action : PathEnd} {length position speed : K} {x : PathProgress K}

theorem pace_frame (haction : action ≠ .stop) (h : x.OnPath) :
    (x.frame action length).pace = x.pace := by
  cases x with
  | leave => exact h.elim
  | goOn position speed =>
    unfold frame advancePosition
    dsimp only
    cases action with
    | stop => exact absurd rfl haction
    | restart => split_ifs <;> rfl
    | reverse => split_ifs <;> simp [pace]

variable [IsStrictOrderedRing K]

theorem headway_mem (h : x.OnPath) : 0 ≤ x.headway ∧ x.headway ≤ 1 := by
  cases x with
  | leave => exact h.elim
  | goOn position speed =>
    obtain ⟨hstart, hend⟩ := h
    simp only [headway]
    split_ifs <;> constructor <;> linarith

/-- One length puts a position back onto the path if it lies within one length of it. -/
theorem onPath_advancePosition_iff (haction : action ≠ .stop) :
    (advancePosition action position speed length).OnPath ↔
      -1 ≤ position + speed / length ∧ position + speed / length ≤ 2 := by
  unfold advancePosition
  dsimp only
  cases action with
  | stop => exact absurd rfl haction
  | restart =>
    split_ifs <;> simp only [OnPath] <;> constructor <;> rintro ⟨_, _⟩ <;> constructor <;> linarith
  | reverse =>
    split_ifs <;> simp only [OnPath] <;> constructor <;> rintro ⟨_, _⟩ <;> constructor <;> linarith

variable (haction : action ≠ .stop) (hlength : 0 < length)
include haction hlength

theorem onPath_frame (h : x.OnPath) (hpace : x.pace ≤ length) : (x.frame action length).OnPath := by
  cases x with
  | leave => exact h.elim
  | goOn position speed =>
    obtain ⟨hstart, hend⟩ := h
    obtain ⟨hlow, hhigh⟩ := abs_le.mp hpace
    have hforth : speed / length ≤ 1 := (div_le_one hlength).mpr hhigh
    have hback : -1 ≤ speed / length := by rwa [le_div_iff₀ hlength, neg_one_mul]
    refine (onPath_advancePosition_iff haction).mpr ⟨?_, ?_⟩ <;> linarith

/-- At a speed above the length a frame always goes beyond an end. Put back by one length, the
instance has come further in its direction than before. -/
theorem headway_frame (h : x.OnPath) (hpace : length < x.pace) :
    (x.frame action length).headway = x.headway + (x.pace / length - 1) := by
  cases x with
  | leave => exact h.elim
  | goOn position speed =>
    obtain ⟨hstart, hend⟩ := h
    have hpace : length < |speed| := hpace
    simp only [frame, advancePosition, headway, pace]
    rcases lt_or_ge 0 speed with hspeed | hspeed
    · rw [abs_of_pos hspeed] at hpace ⊢
      have hfar : 1 < speed / length := (one_lt_div hlength).mpr hpace
      rw [if_pos (show 1 ≤ position + speed / length by linarith)]
      cases action with
      | stop => exact absurd rfl haction
      | restart =>
        simp only [if_pos hspeed]
        ring
      | reverse =>
        simp only [if_pos hspeed, if_neg (show ¬ 0 < -speed by linarith)]
        ring
    · rw [abs_of_nonpos hspeed] at hpace ⊢
      have hfar : 1 < -speed / length := (one_lt_div hlength).mpr hpace
      rw [neg_div] at hfar ⊢
      rw [if_neg (show ¬ 1 ≤ position + speed / length by linarith),
        if_pos (show position + speed / length ≤ 0 by linarith)]
      cases action with
      | stop => exact absurd rfl haction
      | restart =>
        simp only [if_neg (show ¬ 0 < speed by linarith)]
        ring
      | reverse =>
        simp only [if_neg (show ¬ 0 < speed by linarith), if_pos (show 0 < -speed by linarith)]
        ring

/-! ### Any number of frames -/

theorem onPath_iterate (h : x.OnPath) (hpace : x.pace ≤ length) (n : ℕ) :
    ((frame action length)^[n] x).OnPath ∧ ((frame action length)^[n] x).pace ≤ length := by
  induction n with
  | zero => exact ⟨h, hpace⟩
  | succ n ih =>
    obtain ⟨hon, hslow⟩ := ih
    rw [Function.iterate_succ_apply']
    exact ⟨onPath_frame haction hlength hon hslow, (pace_frame haction hon).trans_le hslow⟩

theorem headway_iterate (hpace : length < x.pace)
    (h : ∀ n, ((frame action length)^[n] x).OnPath) (n : ℕ) :
    ((frame action length)^[n] x).pace = x.pace ∧
      ((frame action length)^[n] x).headway = x.headway + n * (x.pace / length - 1) := by
  induction n with
  | zero => simp
  | succ n ih =>
    obtain ⟨hsame, hheadway⟩ := ih
    rw [Function.iterate_succ_apply', pace_frame haction (h n),
      headway_frame haction hlength (h n) (hsame ▸ hpace), hheadway, hsame]
    refine ⟨rfl, ?_⟩
    push_cast
    ring

theorem exists_not_onPath [Archimedean K] (hpace : length < x.pace) :
    ∃ n, ¬ ((frame action length)^[n] x).OnPath := by
  by_contra! hall
  have hgain : 0 < x.pace / length - 1 := sub_pos.mpr ((one_lt_div hlength).mpr hpace)
  obtain ⟨n, hn⟩ := exists_nat_gt (1 / (x.pace / length - 1))
  have hfar : 1 < n * (x.pace / length - 1) := (div_lt_iff₀ hgain).mp hn
  have hstart := (headway_mem (hall 0)).1
  have hend := (headway_mem (hall n)).2
  rw [(headway_iterate haction hlength hpace hall n).2] at hend
  rw [Function.iterate_zero_apply] at hstart
  linarith

end Exact

end PathProgress

/-! ### Instances on paths -/

namespace Instance

/-- The place on the path and the speed along it. -/
def progress (i : Instance) : PathProgress Float := .goOn i.pathPosition i.pathSpeed

theorem progress_placeOnPath (i : Instance) (p : Path) (position : Float) :
    (i.placeOnPath p position).progress = i.progress := by
  unfold placeOnPath
  cases p.pointAt? position <;> rfl

theorem progress_advancePath {i : Instance} {p : Path}
    (haction : PathEnd.ofInt i.pathEndAction ≠ .stop) (hlength : ¬ p.length ≤ 0) :
    (i.advancePath p).progress = i.progress.frame (.ofInt i.pathEndAction) p.length := by
  obtain ⟨position, speed, hnext⟩ :=
    PathProgress.exists_advancePosition haction i.pathPosition i.pathSpeed p.length
  simp only [advancePath, if_neg hlength, progress, PathProgress.frame, hnext]
  exact progress_placeOnPath _ p position

end Instance

open PathProgress

/-- Where a path does not end, an instance on it moves by the same rule as a position that is an
exact number. By this rule a position on the path is on it again after a frame if and only if it
goes at most one length beyond either end, and it is on the path after any number of frames if and
only if the speed is at most the length. -/
theorem stays_on_path_iff {K : Type} [Field K] [LinearOrder K] [IsStrictOrderedRing K]
    [Archimedean K] {action : PathEnd} {position speed length : K} (haction : action ≠ .stop)
    (hlength : 0 < length) (hposition : 0 ≤ position ∧ position ≤ 1) :
    (∀ (i : Instance) (p : Path), PathEnd.ofInt i.pathEndAction = action → ¬ p.length ≤ 0 →
        (i.advancePath p).progress = i.progress.frame action p.length) ∧
      ((advancePosition action position speed length).OnPath ↔
        -1 ≤ position + speed / length ∧ position + speed / length ≤ 2) ∧
      ((∀ n, ((frame action length)^[n] (.goOn position speed)).OnPath) ↔ |speed| ≤ length) := by
  refine ⟨?_, onPath_advancePosition_iff haction, fun hall => ?_, fun hslow n => ?_⟩
  · rintro i p rfl hp
    exact Instance.progress_advancePath haction hp
  · by_contra! hfast
    obtain ⟨n, hn⟩ := exists_not_onPath haction hlength (x := .goOn position speed) hfast
    exact hn (hall n)
  · exact (onPath_iterate haction hlength (x := .goOn position speed) hposition hslow n).1

/-- Up and down a path of length 30 at a speed of 12. -/
theorem stays_on_path_to_and_fro :
    PathEnd.reverse ≠ .stop ∧ (0 : ℚ) < 30 ∧ (0 ≤ (9 / 10 : ℚ) ∧ (9 / 10 : ℚ) ≤ 1) ∧
      ∀ n, ((frame .reverse (30 : ℚ))^[n] (.goOn (9 / 10) 12)).OnPath := by
  have hposition : 0 ≤ (9 / 10 : ℚ) ∧ (9 / 10 : ℚ) ≤ 1 := by norm_num
  have hslow : |(12 : ℚ)| ≤ 30 := by norm_num
  have hlength : (0 : ℚ) < 30 := by norm_num
  have haction : PathEnd.reverse ≠ .stop := by decide
  obtain ⟨-, -, hall⟩ := stays_on_path_iff haction hlength hposition
  exact ⟨haction, hlength, hposition, hall.mpr hslow⟩

/-- A straight path of length 30. -/
def straightPath : Path := { points := [⟨0, 0, 100⟩, ⟨30, 0, 100⟩] }

/-- An instance in the middle of a path that is to go on for twice its length in each frame. -/
def racer (endAction : Int32) : Instance :=
  { Instance.create firstInstanceId 0 0 0 with
    pathIndex := 0
    pathPosition := 0.5
    pathSpeed := 60
    pathEndAction := endAction }

/-- At twice the length of the path, an instance in the middle of it is beyond its end after one
frame if the path starts over, and before its start if the instance turns round. -/
theorem beyond_ends_of_straight_path :
    ¬ (advancePosition .restart (1 / 2) 60 (30 : ℚ)).OnPath ∧
      ¬ (advancePosition .reverse (1 / 2) 60 (30 : ℚ)).OnPath ∧
      straightPath.length = 30 ∧
      ((racer 1).advancePath straightPath).pathPosition = 1.5 ∧
      ((racer 3).advancePath straightPath).pathPosition = -0.5 := by
  have hrestart : PathEnd.restart ≠ .stop := by decide
  have hreverse : PathEnd.reverse ≠ .stop := by decide
  refine ⟨?_, ?_, by decide +kernel, by decide +kernel, by decide +kernel⟩
  · rw [onPath_advancePosition_iff hrestart]
    norm_num
  · rw [onPath_advancePosition_iff hreverse]
    norm_num

end GameRunner

import GameRunner.Play.Motion
import GameRunner.Proofs.Geometry.PathRange
import GameRunner.Proofs.Number.Integers

/-!
# Standing still on a path

An instance whose path speed is zero stays where it is between the ends of its path. At an end only
an instance that turns round there stays; where the path starts over it goes from end to end, frame
after frame, and else it leaves the path. For whether an instance has reached an end is told by its
position, not by the direction in which it moves.
-/

namespace GameRunner

open Number

/-! ### The ends of a path -/

/-- A position is the start of a path, as either of the zeros, or its end. -/
def IsEnd (position : Float) : Prop := (position == 0) = true ∨ (position == 1) = true

section Ends

variable {position : Float}

theorem eq_one_of_beq (h : (position == 1) = true) : position = 1 := by
  obtain ⟨-, -, heq | ⟨-, hone⟩ | ⟨-, hone⟩⟩ := Float.beq_iff_ne_nan_and_eq.mp h
  · exact heq
  · exact absurd hone (by decide +kernel)
  · exact absurd hone (by decide +kernel)

theorem IsEnd.eq (h : IsEnd position) : position = 0 ∨ position = -0 ∨ position = 1 := by
  obtain hstart | hend := h
  · obtain ⟨-, -, rfl | ⟨rfl, -⟩ | ⟨rfl, -⟩⟩ := Float.beq_iff_ne_nan_and_eq.mp hstart
    · exact .inl rfl
    · exact .inl rfl
    · exact .inr (.inl rfl)
  · exact .inr (.inr (eq_one_of_beq hend))

theorem IsEnd.of_beq {same : Float} (h : IsEnd position) (hsame : (same == position) = true) :
    IsEnd same :=
  h.imp (BEq.trans hsame) (BEq.trans hsame)

theorem IsEnd.mem (h : IsEnd position) :
    (0 ≤ position ∧ position ≤ 1) ∧ ¬ (0 < position ∧ position < 1) := by
  obtain rfl | rfl | rfl := h.eq <;> decide +kernel

/-- The other end is an end, and another one. -/
theorem IsEnd.other (h : IsEnd position) :
    IsEnd (1 - position) ∧ (1 - position == position) = false := by
  unfold IsEnd
  obtain rfl | rfl | rfl := h.eq <;> decide +kernel

theorem isEnd_of_mem (h : 0 ≤ position ∧ position ≤ 1) (hend : ¬ (0 < position ∧ position < 1)) :
    IsEnd position := by
  by_cases hstart : 0 < position
  · exact .inr (beq_of_le_of_not_lt h.2 fun hlt => hend ⟨hstart, hlt⟩)
  · exact .inl (BEq.symm (beq_of_le_of_not_lt h.1 hstart))

end Ends

/-! ### The position after a frame -/

section Position

variable {position speed length : Float} (hlength : 0 < length) (hspeed : (speed == 0) = true)
include hlength hspeed

theorem advancePosition_inside (action : PathEnd) (hstart : 0 < position) (hend : position < 1) :
    advancePosition action position speed length = .goOn position speed := by
  have hnext : position + speed / length = position :=
    add_zero_of_pos hstart (zero_div_of_pos hspeed hlength)
  simp only [advancePosition, hnext]
  rw [if_neg (not_le_of_lt hend), if_neg (not_le_of_lt hstart)]

/-- At an end of a path that starts over, the position goes to the other end. -/
theorem exists_advancePosition_atEnd (action : PathEnd) (hend : IsEnd position) :
    ∃ (same : Float) (atEnd : Bool), (same == position) = true ∧
      advancePosition action position speed length =
        match action with
        | .restart => .goOn (1 - position) speed
        | .reverse => .goOn same (-speed)
        | .stop => .leave atEnd := by
  have hstep := zero_div_of_pos hspeed hlength
  obtain hstart | hend := hend
  · have hnext := zero_add_zero hstart hstep
    refine ⟨_, false, BEq.trans (neg_zero hnext) (BEq.symm hstart), ?_⟩
    unfold advancePosition
    dsimp only
    generalize position + speed / length = next at hnext
    have hnext : ¬ 1 ≤ next ∧ next ≤ 0 ∧ next + 1 = 1 := by
      obtain ⟨-, -, rfl | ⟨rfl, -⟩ | ⟨rfl, -⟩⟩ := Float.beq_iff_ne_nan_and_eq.mp hnext <;>
        decide +kernel
    have hother : 1 - position = 1 := by
      obtain ⟨-, -, rfl | ⟨rfl, -⟩ | ⟨rfl, -⟩⟩ := Float.beq_iff_ne_nan_and_eq.mp hstart <;>
        decide +kernel
    obtain ⟨hbelow, hreached, hover⟩ := hnext
    cases action <;> simp only [if_neg hbelow, if_pos hreached, hover, hother]
  · obtain rfl := eq_one_of_beq hend
    have hnext : 1 + speed / length = 1 := add_zero_of_pos (by decide +kernel) hstep
    have hreached : (1 : Float) ≤ 1 := by decide +kernel
    have hback : (1 : Float) - (1 - 1) = 1 := by decide +kernel
    refine ⟨1, true, by decide +kernel, ?_⟩
    unfold advancePosition
    dsimp only
    cases action <;> simp only [hnext, if_pos hreached, hback]

end Position

namespace Instance

/-! ### Instances that do not move along their path -/

/-- The instance is on the path, between its ends or at one of them, with a speed of zero. -/
structure HaltsOn (g : Game) (p : Path) (i : Instance) : Prop where
  path : g.path? i.pathIndex = some p
  position : 0 ≤ i.pathPosition ∧ i.pathPosition ≤ 1
  speed : (i.pathSpeed == 0) = true

/-- The instance is at neither end of its path. -/
def IsBetweenEnds (i : Instance) : Prop := 0 < i.pathPosition ∧ i.pathPosition < 1

/-- A later state of the instance has it as far on the same path. -/
def RestsIn (i j : Instance) : Prop :=
  j.pathIndex = i.pathIndex ∧ (j.pathPosition == i.pathPosition) = true

/-- A later state of the instance has it at an end of the same path, with a speed of zero. -/
structure EndsIn (g : Game) (p : Path) (i j : Instance) : Prop where
  haltsOn : j.HaltsOn g p
  atEnd : ¬ j.IsBetweenEnds
  pathIndex : j.pathIndex = i.pathIndex
  pathEndAction : j.pathEndAction = i.pathEndAction

variable {g : Game} {p : Path} {i : Instance}

theorem exists_placeOnPath_eq (i : Instance) (p : Path) (position : Float) :
    ∃ x y, i.placeOnPath p position = { i with x := x, y := y } := by
  unfold placeOnPath
  cases p.pointAt? position with
  | none => exact ⟨i.x, i.y, rfl⟩
  | some point => exact ⟨_, _, rfl⟩

theorem placeOnPath_again (i : Instance) (p : Path) (position : Float) :
    (i.placeOnPath p position).placeOnPath p position = i.placeOnPath p position := by
  unfold placeOnPath
  cases p.pointAt? position <;> rfl

/-- Only the path, the position and the speed matter. -/
theorem HaltsOn.placeOnPath (h : i.HaltsOn g p) (position : Float) :
    (i.placeOnPath p position).HaltsOn g p := by
  obtain ⟨x, y, heq⟩ := exists_placeOnPath_eq i p position
  rw [heq]
  exact ⟨h.path, h.position, h.speed⟩

theorem followPath_of_none (h : g.path? i.pathIndex = none) : i.followPath g = i := by
  simp only [followPath, h]

theorem HaltsOn.followPath_eq (h : i.HaltsOn g p) : i.followPath g = i.advancePath p := by
  simp only [followPath, h.path]

theorem HaltsOn.beq_self (h : i.HaltsOn g p) : (i.pathPosition == i.pathPosition) = true := by
  refine Float.beq_self_iff.mpr fun hnan => ?_
  have hstart := h.position.1
  rw [hnan] at hstart
  exact absurd hstart (by decide +kernel)

theorem HaltsOn.restsIn_placeOnPath (h : i.HaltsOn g p) (position : Float) :
    i.RestsIn (i.placeOnPath p position) := by
  obtain ⟨x, y, heq⟩ := exists_placeOnPath_eq i p position
  rw [heq]
  exact ⟨rfl, h.beq_self⟩

theorem HaltsOn.isEnd (h : i.HaltsOn g p) (hend : ¬ i.IsBetweenEnds) : IsEnd i.pathPosition :=
  isEnd_of_mem h.position hend

section Frames

variable (h : i.HaltsOn g p) (hlength : 0 < p.length)
include h hlength

theorem HaltsOn.followPath_between (hbetween : i.IsBetweenEnds) :
    i.followPath g = i.placeOnPath p i.pathPosition := by
  rw [h.followPath_eq]
  simp only [advancePath, if_neg (not_le_of_lt hlength),
    advancePosition_inside hlength h.speed _ hbetween.1 hbetween.2]

/-- At an end, the end action decides. -/
theorem HaltsOn.exists_followPath_atEnd (hend : ¬ i.IsBetweenEnds) :
    ∃ (same x y : Float), (same == i.pathPosition) = true ∧
      i.followPath g =
        match PathEnd.ofInt i.pathEndAction with
        | .restart => { i with pathPosition := 1 - i.pathPosition, x := x, y := y }
        | .reverse => { i with pathPosition := same, pathSpeed := -i.pathSpeed, x := x, y := y }
        | .stop => { i with x := x, y := y }.stopPath := by
  obtain ⟨same, atEnd, hsame, hnext⟩ :=
    exists_advancePosition_atEnd hlength h.speed (.ofInt i.pathEndAction) (h.isEnd hend)
  rw [h.followPath_eq]
  simp only [advancePath, if_neg (not_le_of_lt hlength), hnext]
  cases PathEnd.ofInt i.pathEndAction with
  | restart =>
    obtain ⟨x, y, heq⟩ := exists_placeOnPath_eq
      { i with pathPosition := 1 - i.pathPosition } p (1 - i.pathPosition)
    exact ⟨same, x, y, hsame, heq⟩
  | reverse =>
    obtain ⟨x, y, heq⟩ := exists_placeOnPath_eq
      { i with pathPosition := same, pathSpeed := -i.pathSpeed } p same
    exact ⟨same, x, y, hsame, heq⟩
  | stop =>
    obtain ⟨x, y, heq⟩ := exists_placeOnPath_eq i p (if atEnd then 1 else 0)
    exact ⟨same, x, y, hsame, congrArg stopPath heq⟩

theorem HaltsOn.followPath_reverse (haction : PathEnd.ofInt i.pathEndAction = .reverse)
    (hend : ¬ i.IsBetweenEnds) : EndsIn g p i (i.followPath g) ∧
      ((i.followPath g).pathPosition == i.pathPosition) = true := by
  obtain ⟨same, x, y, hsame, heq⟩ := h.exists_followPath_atEnd hlength hend
  rw [haction] at heq
  rw [heq]
  have hsameEnd := (h.isEnd hend).of_beq hsame
  exact ⟨⟨⟨h.path, hsameEnd.mem.1, neg_zero h.speed⟩, hsameEnd.mem.2, rfl, rfl⟩, hsame⟩

theorem HaltsOn.followPath_restart (haction : PathEnd.ofInt i.pathEndAction = .restart)
    (hend : ¬ i.IsBetweenEnds) : EndsIn g p i (i.followPath g) ∧
      (i.followPath g).pathPosition = 1 - i.pathPosition := by
  obtain ⟨same, x, y, -, heq⟩ := h.exists_followPath_atEnd hlength hend
  rw [haction] at heq
  rw [heq]
  obtain ⟨hother, -⟩ := (h.isEnd hend).other
  exact ⟨⟨⟨h.path, hother.mem.1, h.speed⟩, hother.mem.2, rfl, rfl⟩, rfl⟩

theorem HaltsOn.followPath_stop (haction : PathEnd.ofInt i.pathEndAction = .stop)
    (hend : ¬ i.IsBetweenEnds) : (i.followPath g).pathIndex = -1 := by
  obtain ⟨same, x, y, -, heq⟩ := h.exists_followPath_atEnd hlength hend
  rw [haction] at heq
  rw [heq]
  rfl

/-- In a frame, an instance rests between the ends of its path, and where it turns round. -/
theorem HaltsOn.restsIn_followPath_iff : i.RestsIn (i.followPath g) ↔
    i.IsBetweenEnds ∨ PathEnd.ofInt i.pathEndAction = .reverse := by
  by_cases hbetween : i.IsBetweenEnds
  · refine iff_of_true ?_ (.inl hbetween)
    rw [h.followPath_between hlength hbetween]
    exact h.restsIn_placeOnPath i.pathPosition
  · cases haction : PathEnd.ofInt i.pathEndAction with
    | reverse =>
      obtain ⟨hends, hsame⟩ := h.followPath_reverse hlength haction hbetween
      exact iff_of_true ⟨hends.pathIndex, hsame⟩ (.inr rfl)
    | restart =>
      refine iff_of_false (fun hrests => ?_) (by simp [hbetween])
      obtain ⟨-, hother⟩ := (h.isEnd hbetween).other
      obtain ⟨-, hposition⟩ := h.followPath_restart hlength haction hbetween
      obtain ⟨-, hsame⟩ := hrests
      rw [hposition, hother] at hsame
      exact Bool.false_ne_true hsame
    | stop =>
      refine iff_of_false (fun hrests => ?_) (by simp [hbetween])
      have hpath := h.path
      rw [← hrests.1, h.followPath_stop hlength haction hbetween] at hpath
      cases hpath

/-! ### Any number of frames -/

theorem HaltsOn.iterate_between (hbetween : i.IsBetweenEnds) (n : ℕ) :
    (followPath g)^[n + 1] i = i.placeOnPath p i.pathPosition := by
  have hagain : (i.placeOnPath p i.pathPosition).followPath g =
      i.placeOnPath p i.pathPosition := by
    have hplaced := h.placeOnPath i.pathPosition
    obtain ⟨x, y, heq⟩ := exists_placeOnPath_eq i p i.pathPosition
    have hsame : (i.placeOnPath p i.pathPosition).pathPosition = i.pathPosition := by rw [heq]
    have hbetween' : (i.placeOnPath p i.pathPosition).IsBetweenEnds := by
      unfold IsBetweenEnds
      rwa [hsame]
    rw [hplaced.followPath_between hlength hbetween', hsame, placeOnPath_again]
  rw [Function.iterate_succ_apply, h.followPath_between hlength hbetween]
  exact Function.iterate_fixed hagain n

/-- Where the path is not left, an instance at an end of it is at one of its ends in all frames. -/
theorem HaltsOn.iterate_atEnd (haction : PathEnd.ofInt i.pathEndAction ≠ .stop)
    (hend : ¬ i.IsBetweenEnds) (n : ℕ) : EndsIn g p i ((followPath g)^[n] i) := by
  induction n with
  | zero => exact ⟨h, hend, rfl, rfl⟩
  | succ n ih =>
    rw [Function.iterate_succ_apply']
    have hstep : EndsIn g p ((followPath g)^[n] i) (((followPath g)^[n] i).followPath g) := by
      cases hnow : PathEnd.ofInt ((followPath g)^[n] i).pathEndAction with
      | stop => exact absurd (ih.pathEndAction ▸ hnow) haction
      | restart => exact (ih.haltsOn.followPath_restart hlength hnow ih.atEnd).1
      | reverse => exact (ih.haltsOn.followPath_reverse hlength hnow ih.atEnd).1
    exact ⟨hstep.haltsOn, hstep.atEnd, hstep.pathIndex.trans ih.pathIndex,
      hstep.pathEndAction.trans ih.pathEndAction⟩

theorem HaltsOn.restsIn_iterate_reverse (haction : PathEnd.ofInt i.pathEndAction = .reverse)
    (hend : ¬ i.IsBetweenEnds) (n : ℕ) : i.RestsIn ((followPath g)^[n] i) := by
  have hends := h.iterate_atEnd hlength (by simp [haction]) hend
  refine ⟨(hends n).pathIndex, ?_⟩
  induction n with
  | zero => exact h.beq_self
  | succ n ih =>
    have hnow := (hends n).pathEndAction ▸ haction
    obtain ⟨-, hsame⟩ := (hends n).haltsOn.followPath_reverse hlength hnow (hends n).atEnd
    rw [Function.iterate_succ_apply']
    exact BEq.trans hsame ih

theorem HaltsOn.restsIn_iterate_between (hbetween : i.IsBetweenEnds) (n : ℕ) :
    i.RestsIn ((followPath g)^[n] i) := by
  cases n with
  | zero => exact ⟨rfl, h.beq_self⟩
  | succ n =>
    rw [h.iterate_between hlength hbetween]
    exact h.restsIn_placeOnPath i.pathPosition

theorem HaltsOn.iterate_stop (haction : PathEnd.ofInt i.pathEndAction = .stop)
    (hend : ¬ i.IsBetweenEnds) (n : ℕ) : (followPath g)^[n + 1] i = i.followPath g := by
  have hnone : g.path? (i.followPath g).pathIndex = none := by
    rw [h.followPath_stop hlength haction hend]
    rfl
  exact Function.iterate_fixed (followPath_of_none hnone) n

end Frames

end Instance

/-- An instance on a path of positive length that has a speed of zero stays where it is on the path,
for a frame as for any number of frames, if and only if it is between the ends or is to turn round
there. Between the ends it is put at its point of the path. At an end of a path that starts over it
goes to the other end in each frame, and from any other path it is taken off at once. -/
theorem rests_at_zero_speed_iff {g : Game} {p : Path} {i : Instance}
    (hpath : g.path? i.pathIndex = some p) (hlength : 0 < p.length)
    (hposition : 0 ≤ i.pathPosition ∧ i.pathPosition ≤ 1) (hspeed : (i.pathSpeed == 0) = true) :
    (i.RestsIn (i.followPath g) ↔
        i.IsBetweenEnds ∨ PathEnd.ofInt i.pathEndAction = .reverse) ∧
      ((∀ n, i.RestsIn ((Instance.followPath g)^[n] i)) ↔
        i.IsBetweenEnds ∨ PathEnd.ofInt i.pathEndAction = .reverse) ∧
      (i.IsBetweenEnds → ∀ n,
        (Instance.followPath g)^[n + 1] i = i.placeOnPath p i.pathPosition) ∧
      (¬ i.IsBetweenEnds → PathEnd.ofInt i.pathEndAction = .restart → ∀ n,
        ((Instance.followPath g)^[n + 1] i).pathIndex = i.pathIndex ∧
          ((Instance.followPath g)^[n + 1] i).pathPosition =
            1 - ((Instance.followPath g)^[n] i).pathPosition) ∧
      (¬ i.IsBetweenEnds → PathEnd.ofInt i.pathEndAction = .stop → ∀ n,
        ((Instance.followPath g)^[n + 1] i).pathIndex = -1) := by
  have h : i.HaltsOn g p := ⟨hpath, hposition, hspeed⟩
  have hone := h.restsIn_followPath_iff hlength
  refine ⟨hone, ⟨fun hall => hone.mp (hall 1), fun hrests n => ?_⟩, h.iterate_between hlength,
    fun hend haction n => ?_, fun hend haction n => ?_⟩
  · by_cases hbetween : i.IsBetweenEnds
    · exact h.restsIn_iterate_between hlength hbetween n
    · exact h.restsIn_iterate_reverse hlength (hrests.resolve_left hbetween) hbetween n
  · have hends := h.iterate_atEnd hlength (by simp [haction]) hend
    refine ⟨(hends (n + 1)).pathIndex, ?_⟩
    have hnow := (hends n).pathEndAction ▸ haction
    rw [Function.iterate_succ_apply']
    exact ((hends n).haltsOn.followPath_restart hlength hnow (hends n).atEnd).2
  · rw [h.iterate_stop hlength haction hend]
    exact h.followPath_stop hlength haction hend

/-- The game with one path, the straight one. -/
def straightGame : Game := { paths := #[straightPath] }

/-- An instance that does not move, at a position on a path. -/
def halted (position : Float) (endAction : Int32) : Instance :=
  { racer endAction with pathPosition := position, pathSpeed := 0 }

/-- At the start of the straight path, an instance that is to turn round there rests for good. -/
theorem rests_at_zero_speed_to_and_fro :
    straightGame.path? 0 = some straightPath ∧ 0 < straightPath.length ∧
      ∀ n, (halted 0 3).RestsIn ((Instance.followPath straightGame)^[n] (halted 0 3)) := by
  have hpath : straightGame.path? (halted 0 3).pathIndex = some straightPath := rfl
  have hlength : 0 < straightPath.length := by decide +kernel
  have hposition : 0 ≤ (halted 0 3).pathPosition ∧ (halted 0 3).pathPosition ≤ 1 := by
    decide +kernel
  obtain ⟨-, hall, -⟩ := rests_at_zero_speed_iff hpath hlength hposition (by decide +kernel)
  exact ⟨hpath, hlength, hall.mpr (.inr rfl)⟩

/-- From the ends of the straight path, an instance without speed jumps to the other end if the path
starts over, and leaves it if it ends. -/
theorem jumps_at_zero_speed :
    0 < straightPath.length ∧
      ((halted 0 1).advancePath straightPath).pathPosition = 1 ∧
      ((halted 1 1).advancePath straightPath).pathPosition = 0 ∧
      ((halted 0 0).advancePath straightPath).pathIndex = -1 ∧
      ((halted 1 0).advancePath straightPath).pathIndex = -1 := by
  decide +kernel

end GameRunner

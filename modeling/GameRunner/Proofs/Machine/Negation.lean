import GameRunner.Code.Decode
import GameRunner.Machine.Step
import GameRunner.Proofs.Number.Truncation

/-!
# Inverting a condition

A branch goes by the truth value of what is on the stack: reals hold from one half in magnitude,
texts unless they are empty, arrays always. Inverting goes by the integer part of the value as a
number. A value and its inverse never both fail. But both hold where the value holds and has no
integer part: reals from one half up to one, texts that do not read as a number from one on, and all
arrays.
-/

namespace GameRunner

namespace Value

@[simp] theorem toBool_ofBool (b : Bool) : (ofBool b).toBool = b := by
  cases b <;> decide +kernel

/-- The inverse of a value holds unless the value is, as a number, at least one in magnitude. -/
theorem toBool_invert_iff (v : Value) : v.invert.toBool = true ↔ ¬ 1 ≤ v.toReal.abs := by
  rw [invert, toBool_ofBool, beq_iff_eq, toLong, Number.toInt64_eq_zero_iff]

/-- What is at least one in magnitude, as a number, holds. -/
theorem toBool_of_one_le {v : Value} (h : 1 ≤ v.toReal.abs) : v.toBool = true := by
  have hzero : ¬ (1 : Float) ≤ (0 : Float).abs := by decide +kernel
  cases v with
  | real x => exact decide_eq_true (Number.half_le_abs_of_one_le_abs h)
  | str t =>
    have hne : t ≠ "" := by
      rintro rfl
      exact hzero h
    simpa [toBool] using hne
  | array rows => rfl
  | undefined => exact absurd h hzero

/-- A value or its inverse holds. -/
theorem toBool_invert_of_not (v : Value) (h : v.toBool = false) : v.invert.toBool = true := by
  rw [toBool_invert_iff]
  intro hone
  rw [toBool_of_one_le hone] at h
  cases h

/-- Inverting a value changes its truth value exactly if it does not hold or is, as a number, at
least one in magnitude. -/
theorem toBool_invert_eq_not_iff (v : Value) :
    v.invert.toBool = !v.toBool ↔ (v.toBool = true → 1 ≤ v.toReal.abs) := by
  cases hv : v.toBool with
  | false => simpa using v.toBool_invert_of_not hv
  | true =>
    rw [Bool.not_true, ← Bool.not_eq_true, toBool_invert_iff, not_not]
    simp

end Value

namespace Machine

/-- An instruction branches. -/
def Branches (exec : Exec) (s : Setup) (i : Instruction) (f : Frame) (w : World) : Prop :=
  ∃ target f' w', step exec s i f w = some (.ok (.branch target), f', w')

section Branch

variable {exec : Exec} {s : Setup} {i : Instruction} {f : Frame} {w : World}

theorem branches_iff_of_step {truth : Bool} (h : step exec s i f w = branchIf truth i f w) :
    Branches exec s i f w ↔ f.top.toBool = truth := by
  unfold Branches
  rw [h, branchIf]
  dsimp only [Frame.pop]
  split_ifs with htruth
  · exact iff_of_true ⟨_, _, _, rfl⟩ htruth
  · refine iff_of_false ?_ htruth
    rintro ⟨target, f', w', hnext⟩
    cases hnext

/-- A conditional branch goes by the truth value on top of the stack. -/
theorem exists_branches_iff (h : i.op? = some .bt ∨ i.op? = some .bf) :
    ∃ truth : Bool, ∀ f w, Branches exec s i f w ↔ f.top.toBool = truth := by
  rcases h with h | h
  · exact ⟨true, fun f w => branches_iff_of_step (by simp only [step, h])⟩
  · exact ⟨false, fun f w => branches_iff_of_step (by simp only [step, h])⟩

theorem step_not (h : i.op? = some .not) (exec : Exec) (s : Setup) (f : Frame) (w : World)
    (v : Value) (rest : List Value) :
    step exec s i { f with stack := v :: rest } w =
      some (.ok .next, { f with stack := v.invert :: rest }, w) := by
  simp only [step, h]
  rfl

end Branch

/-- A conditional branch on the inverse of a value goes the other way than on the value itself
exactly if the value does not hold or is, as a number, at least one in magnitude. -/
theorem branches_on_inverse_iff (exec : Exec) (s : Setup) (f : Frame) (w : World) (v : Value)
    (rest : List Value) (invert branch : Instruction) (hinvert : invert.op? = some .not)
    (hbranch : branch.op? = some .bt ∨ branch.op? = some .bf) :
    ∃ f', step exec s invert { f with stack := v :: rest } w = some (.ok .next, f', w) ∧
      ((Branches exec s branch f' w ↔
          ¬ Branches exec s branch { f with stack := v :: rest } w) ↔
        (v.toBool = true → 1 ≤ v.toReal.abs)) := by
  refine ⟨_, step_not hinvert exec s f w v rest, ?_⟩
  obtain ⟨truth, htruth⟩ := @exists_branches_iff exec s branch hbranch
  rw [htruth, htruth, ← Value.toBool_invert_eq_not_iff]
  change (v.invert.toBool = truth ↔ ¬ v.toBool = truth) ↔ _
  cases v.toBool <;> cases v.invert.toBool <;> cases truth <;> decide

/-- A setup without a game. -/
def blank : Setup where
  game := {}
  program := { code := #[], references := ⟨[], []⟩, scripts := .empty }
  settings := {}

/-- A world without instances. -/
def void : World := { generator := .ofSeed 1 }

/-- A frame with nothing but a value on its stack. -/
def holding (v : Value) : Frame := { Frame.start 0 0 0 with stack := [v] }

/-- Two is at least one in magnitude. -/
theorem branches_on_inverse_of_two :
    ∃ f', step (fun _ _ _ _ => none) blank (.ofWord 0 0x12000000) (holding (.ofInt 2)) void =
        some (.ok .next, f', void) ∧
      ((Branches (fun _ _ _ _ => none) blank (.ofWord 4 0xb8000003) f' void ↔
          ¬ Branches (fun _ _ _ _ => none) blank (.ofWord 4 0xb8000003) (holding (.ofInt 2)) void) ↔
        ((Value.ofInt 2).toBool = true → 1 ≤ (Value.ofInt 2).toReal.abs)) :=
  branches_on_inverse_iff _ blank (.start 0 0 0) void (.ofInt 2) [] (.ofWord 0 0x12000000)
    (.ofWord 4 0xb8000003) rfl (Or.inr rfl)

/-- A branch is taken both on a value and on its inverse. -/
def BranchesOnBoth (v : Value) : Prop :=
  Branches (fun _ _ _ _ => none) blank (.ofWord 4 0xb7000003) (holding v) void ∧
    ∃ f', step (fun _ _ _ _ => none) blank (.ofWord 0 0x12000000) (holding v) void =
        some (.ok .next, f', void) ∧
      Branches (fun _ _ _ _ => none) blank (.ofWord 4 0xb7000003) f' void

theorem branchesOnBoth {v : Value} (hv : v.toBool = true) (hinverse : v.invert.toBool = true) :
    BranchesOnBoth v :=
  ⟨(branches_iff_of_step rfl).mpr hv, holding v.invert, rfl,
    (branches_iff_of_step rfl).mpr hinverse⟩

/-- Seven tenths, a text that is no number and an empty array. -/
theorem branches_on_both_ways :
    BranchesOnBoth (.real 0.7) ∧ BranchesOnBoth (.str "abc") ∧ BranchesOnBoth (.array []) := by
  refine ⟨branchesOnBoth ?_ ?_, branchesOnBoth ?_ ?_, branchesOnBoth ?_ ?_⟩
  all_goals decide +kernel

end Machine

end GameRunner

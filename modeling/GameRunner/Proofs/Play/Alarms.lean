import GameRunner.Proofs.Play.AlarmCounts
import GameRunner.Proofs.Play.Liveness

/-!
# When an alarm is due

In each frame there is one pass in which the alarms of all instances count down. An alarm that is set
to some number goes off in the pass of that number, once, and is off from then on, provided that its
instance stays in play and that no code sets it anew. It does not matter what becomes of the other
alarms of the instance, of other instances, and of the rest of the world in between.
-/

namespace GameRunner

/-! ### The pass of alarms -/

/-- The count of an alarm after it has counted down, if it was set. At the end it is off. -/
def countdown (n : Int) : Int := if n < 0 then n else if n = 1 then -1 else n - 1

theorem toInt_sub_one {a : Int32} (h : 0 ≤ a.toInt) : (a - 1).toInt = a.toInt - 1 := by
  have hlt : a.toInt < 2 ^ 31 := Int32.toInt_lt a
  have hone : (1 : Int32).toInt = 1 := rfl
  rw [Int32.toInt_sub, hone]
  exact Int.bmod_eq_of_le (by omega) (by omega)

namespace Instance

variable {i ticked : Instance} {slot : Fin alarmCount} {expired : Bool}

theorem alarm?_of_get {alarms : Vector Int32 alarmCount} {left : Int32} (hlive : i.live = true)
    (h : alarms.get slot = left) : { i with alarms }.alarm? slot = some left.toInt := by
  unfold alarm? count
  rw [h]
  exact if_pos hlive

/-- An alarm that is set counts down by one, and it runs out at one. -/
theorem exists_tickAlarm? (hlive : i.live = true) (h : 0 ≤ i.count slot) :
    ∃ ticked, ticked.alarm? slot = some (countdown (i.count slot)) ∧
      i.tickAlarm? slot = some (ticked, decide (i.count slot = 1)) := by
  have hset : 0 ≤ i.alarms[slot] := Int32.le_iff_toInt_le.mpr h
  have hcount : (i.alarms[slot] - 1).toInt = i.count slot - 1 := toInt_sub_one h
  have hself (left : Int32) : (i.alarms.set slot left).get slot = left := Vector.getElem_set_self _
  unfold tickAlarm? countdown
  rw [if_pos hset, if_neg (Int.not_lt.mpr h)]
  dsimp only
  by_cases hleft : i.alarms[slot] - 1 = 0
  · have hone : i.count slot = 1 := by
      rw [hleft] at hcount
      exact Int.sub_eq_zero.mp hcount.symm
    rw [if_pos hone, if_pos hleft, decide_eq_true hone]
    exact ⟨_, alarm?_of_get hlive (hself (-1)), rfl⟩
  · have hne : i.count slot ≠ 1 := by
      intro hone
      refine hleft (Int32.toInt_inj.mp ?_)
      rw [hcount, hone]
      rfl
    rw [if_neg hne, if_neg hleft, decide_eq_false hne, ← hcount]
    exact ⟨_, alarm?_of_get hlive (hself _), rfl⟩

theorem tickAlarm?_eq_none (h : i.count slot < 0) : i.tickAlarm? slot = none := by
  have hoff : i.alarms[slot] < 0 := Int32.lt_iff_toInt_lt.mpr h
  exact if_neg (Int32.not_le.mpr hoff)

theorem lt_of_not_hasAlarm (h : ¬i.hasAlarm = true) : i.count slot < 0 := by
  have hoff : ¬0 ≤ i.alarms[slot] := by
    intro hset
    exact h (Vector.any_eq_true.mpr ⟨slot, slot.isLt, decide_eq_true hset⟩)
  exact Int32.lt_iff_toInt_lt.mp (Int32.not_le.mp hoff)

/-- Counting one alarm down is nothing to the others. -/
theorem alarm?_of_tickAlarm? {other : Fin alarmCount} (hne : other ≠ slot)
    (h : i.tickAlarm? slot = some (ticked, expired)) : ticked.alarm? other = i.alarm? other := by
  have hset : ∃ left, ticked = { i with alarms := i.alarms.set slot left } := by
    unfold tickAlarm? at h
    dsimp only at h
    split_ifs at h <;> cases h <;> exact ⟨_, rfl⟩
  obtain ⟨left, rfl⟩ := hset
  have hother : (i.alarms.set slot left).get other = i.alarms.get other :=
    Vector.getElem_set_ne _ _ (Fin.val_ne_of_ne hne.symm)
  unfold alarm? count
  rw [hother]
  rfl

end Instance

namespace Plan

section Ticking

variable {exec : Exec} {s : Setup} {self : Int32} {slot : Fin alarmCount} {w : World}

/-- How often a plan starts the event of an alarm on an instance. -/
def firings (exec : Exec) (s : Setup) (self : Int32) (slot : Fin alarmCount) (plan : Plan World) :
    Nat :=
  (plan.trace exec s).countP fun x => x.2 = .event self EventType.alarm (Int32.ofNat slot) none

/-- While a plan is run, an alarm that no code touches goes from one count to another, and its event is
started a number of times. -/
def Ticks (exec : Exec) (s : Setup) (self : Int32) (slot : Fin alarmCount) (w : World)
    (plan : Plan World) (n m : Int) (times : Nat) : Prop :=
  w.alarm? self slot = some n → plan.LeavesAlarm exec s self slot → ∀ v, plan.run exec s = some v →
    v.alarm? self slot = some m ∧ plan.firings exec s self slot = times

theorem Ticks.finish {v : World} {n m : Int}
    (h : w.alarm? self slot = some n → v.alarm? self slot = some m) :
    (pure v : Plan World).Ticks exec s self slot w n m 0 := by
  rintro hn - u hu
  cases hu
  exact ⟨h hn, rfl⟩

theorem Ticks.idle (w : World) (n : Int) : (pure w : Plan World).Ticks exec s self slot w n n 0 :=
  .finish fun hn => hn

/-- Nothing becomes of an alarm that is off. -/
theorem Ticks.off {n : Int} (h : n < 0) (w : World) :
    (pure w : Plan World).Ticks exec s self slot w n (countdown n) (if n = 1 then 1 else 0) := by
  have hne : ¬n = 1 := by omega
  rw [countdown, if_pos h, if_neg hne]
  exact .idle w n

theorem Ticks.of_live {plan : Plan World} {n m : Int} {times : Nat}
    (h : ∀ i, w.instance? self = some i → i.live = true → i.count slot = n →
      plan.Ticks exec s self slot w n m times) : plan.Ticks exec s self slot w n m times := by
  intro hn
  obtain ⟨i, hi, hlive, hcount⟩ := World.exists_of_alarm? hn
  exact h i hi hlive hcount hn

theorem Ticks.bind {plan : Plan World} {k : World → Plan World} {n m l : Int} {a b : Nat}
    (h : plan.Ticks exec s self slot w n m a) (hk : ∀ v, (k v).Ticks exec s self slot v m l b) :
    (plan >>= k).Ticks exec s self slot w n l (a + b) := by
  intro hn hcode u hu
  obtain ⟨v, hv, hu⟩ := Option.bind_eq_some_iff.mp ((run_bind ..).symm.trans hu)
  obtain ⟨hm, ha⟩ := h hn hcode.left v hv
  obtain ⟨hl, hb⟩ := hk v hm (hcode.right hv) u hu
  refine ⟨hl, ?_⟩
  rw [firings, trace_bind, hv, List.countP_append]
  exact congrArg₂ (· + ·) ha hb

theorem Ticks.foldlM_idle {γ : Type} {visit : World → γ → Plan World} {l : List γ} {n : Int}
    (h : ∀ c ∈ l, ∀ w, (visit w c).Ticks exec s self slot w n n 0) (w : World) :
    (l.foldlM visit w).Ticks exec s self slot w n n 0 := by
  induction l generalizing w with
  | nil => exact .idle w n
  | cons c rest ih =>
    obtain ⟨hfirst, hrest⟩ := List.forall_mem_cons.mp h
    exact (hfirst w).bind (ih hrest)

/-- Where only one of those that are visited has to do with the alarm, the visit to it decides. -/
theorem Ticks.foldlM {γ : Type} {visit : World → γ → Plan World} {l : List γ} {c : γ} {n m : Int}
    {times : Nat} (hl : l.Nodup) (hc : c ∈ l)
    (hvisit : ∀ w, (visit w c).Ticks exec s self slot w n m times)
    (hothers : ∀ c' ≠ c, ∀ w n, (visit w c').Ticks exec s self slot w n n 0) (w : World) :
    (l.foldlM visit w).Ticks exec s self slot w n m times := by
  induction l generalizing w with
  | nil => cases hc
  | cons c' rest ih =>
    obtain ⟨hfirst, hrest⟩ := List.nodup_cons.mp hl
    by_cases heq : c' = c
    · subst heq
      refine (hvisit w).bind (.foldlM_idle fun c hmem w => hothers c ?_ w m)
      rintro rfl
      exact hfirst hmem
    · have hmem : c ∈ rest := (List.mem_cons.mp hc).resolve_left (Ne.symm heq)
      have hticks := (hothers c' heq w n).bind (ih hrest hmem)
      rwa [Nat.zero_add] at hticks

theorem ticks_fire {v : World} {n m : Int} {times : Nat}
    (h : w.alarm? self slot = some n → v.alarm? self slot = some m) (k subtype : Int32)
    (htimes : (if k = self ∧ subtype = Int32.ofNat slot then 1 else 0) = times) :
    (fire v k EventType.alarm subtype none).Ticks exec s self slot w n m times := by
  intro hn hcode u hu
  have hkeeps : World.KeepsAlarm self slot v u :=
    hcode (v, .event k EventType.alarm subtype none) (by simp) u ((run_start ..).symm.trans hu)
  refine ⟨Eq.trans hkeeps (h hn), ?_⟩
  simp [firings, ← htimes]

theorem ofNat_slot_injective : ∀ a b : Fin alarmCount, Int32.ofNat a = Int32.ofNat b → a = b := by
  decide

/-- Counting another alarm down, of the same instance or of another one, is nothing to this one. -/
theorem ticks_tickAlarm_of_ne {k : Int32} {other : Fin alarmCount} (h : k ≠ self ∨ other ≠ slot)
    (w : World) (n : Int) : (tickAlarm k w other).Ticks exec s self slot w n n 0 := by
  unfold tickAlarm
  split
  · exact .idle w n
  · next i hi =>
    split_ifs
    · exact .idle w n
    · split
      · exact .idle w n
      · next ticked expired htick =>
        have hkeeps : World.KeepsAlarm self slot w (w.modify k fun _ => ticked) := by
          by_cases hk : self = k
          · refine World.alarm?_modify hi (Instance.alarm?_of_tickAlarm? ?_ htick)
            exact (h.resolve_left (not_not.mpr hk.symm)).symm
          · exact World.alarm?_modify_of_ne hk _
        have hother : ¬(k = self ∧ Int32.ofNat other = Int32.ofNat slot) := by
          rintro ⟨hk, hslot⟩
          exact h.elim (fun hne => hne hk) fun hne => hne (ofNat_slot_injective _ _ hslot)
        dsimp only
        split_ifs
        · exact ticks_fire (Eq.trans (hkeeps.trans (.log _ _ _))) k _ (if_neg hother)
        · exact .finish (Eq.trans hkeeps)

theorem ticks_tickAlarm (w : World) (n : Int) :
    (tickAlarm self w slot).Ticks exec s self slot w n (countdown n) (if n = 1 then 1 else 0) := by
  refine .of_live ?_
  rintro i hi hlive rfl
  have hdestroyed : ¬i.destroyed = true := by simpa [Instance.live] using hlive
  unfold tickAlarm
  simp only [hi, if_neg hdestroyed]
  by_cases hoff : i.count slot < 0
  · rw [Instance.tickAlarm?_eq_none hoff]
    exact .off hoff w
  · obtain ⟨ticked, hticked, htick⟩ := Instance.exists_tickAlarm? hlive (Int.not_lt.mp hoff)
    have hcount : (w.modify self fun _ => ticked).alarm? self slot =
        some (countdown (i.count slot)) :=
      (World.alarm?_modify_self hi).trans hticked
    simp only [htick, decide_eq_true_eq]
    split_ifs
    · refine ticks_fire (fun _ => ?_) self _ (if_pos ⟨rfl, rfl⟩)
      exact Eq.trans (World.KeepsAlarm.log ..) hcount
    · exact .finish fun _ => hcount

theorem ticks_tickAlarms_of_ne {k : Int32} (hk : k ≠ self) (w : World) (n : Int) :
    (tickAlarms w k).Ticks exec s self slot w n n 0 := by
  unfold tickAlarms
  split_ifs
  · exact .foldlM_idle (fun other _ w => ticks_tickAlarm_of_ne (.inl hk) w n) w
  · exact .idle w n

/-- An instance without any alarm that is set is passed over, which makes no difference. -/
theorem ticks_tickAlarms (w : World) (n : Int) :
    (tickAlarms w self).Ticks exec s self slot w n (countdown n) (if n = 1 then 1 else 0) := by
  refine .of_live ?_
  rintro i hi hlive rfl
  unfold tickAlarms
  rw [hi, Option.map_some, Option.getD_some]
  by_cases hset : i.hasAlarm = true
  · rw [if_pos hset]
    refine .foldlM (List.nodup_finRange _) (List.mem_finRange slot) (ticks_tickAlarm · _) ?_ w
    intro other hother w n
    exact ticks_tickAlarm_of_ne (.inr hother) w n
  · rw [if_neg hset]
    exact .off (Instance.lt_of_not_hasAlarm hset) w

theorem ticks_runAlarms (w : World) (n : Int) :
    (runAlarms w).Ticks exec s self slot w n (countdown n) (if n = 1 then 1 else 0) := by
  refine .of_live ?_
  intro i hi hlive _
  have hmem : self ∈ w.liveIds := World.mem_liveIds hi hlive
  refine .foldlM (World.nodup_liveIds w) hmem (ticks_tickAlarms · n) ?_ w
  intro k hk w n
  exact ticks_tickAlarms_of_ne hk w n

end Ticking

end Plan

/-! ### From pass to pass -/

section Playing

variable (exec : Exec) (s : Setup) (id : Int32) (slot : Fin alarmCount)

/-- What can happen between two frames without touching an alarm: the room may be drawn, and the host
may do anything else. -/
inductive Interlude : World → World → Prop
  | idle (w : World) : Interlude w w
  | drawn {w v u : World} : Interlude w v → (Plan.draw s.game v).LeavesAlarm exec s id slot →
    v.draw exec s = some u → Interlude w u
  | host {w v u : World} : Interlude w v → v.KeepsAlarm id slot u → Interlude w u

/-- What is played from one pass of alarms to the next, while an instance stays in play and no code
touches one of its alarms: the rest of a frame, an interlude, and the next frame up to its pass. -/
inductive PlaysOn : World → World → Prop
  | intro {q v u p : World} :
    (Plan.afterAlarms s.game q).LeavesAlarm exec s id slot →
    (Plan.afterAlarms s.game q).run exec s = some v →
    Interlude exec s id slot v u →
    Plan.StaysInPlay exec s id u.beginFrame →
    (Plan.untilAlarms s.game u).LeavesAlarm exec s id slot →
    (Plan.untilAlarms s.game u).run exec s = some p → PlaysOn q p

/-- A number of passes of alarms, one after the other, with the worlds before and after each. All the
time an instance stays in play and no code touches one of its alarms. -/
structure AlarmPasses (before after : Nat → World) (passes : Nat) : Prop where
  runs : ∀ k < passes, (before k).runAlarms exec s = some (after k)
  leavesAlarm : ∀ k < passes, (Plan.runAlarms (before k)).LeavesAlarm exec s id slot
  playsOn : ∀ k, k + 1 < passes → PlaysOn exec s id slot (after k) (before (k + 1))

end Playing

section Due

variable {exec : Exec} {s : Setup} {self : Int32} {slot : Fin alarmCount} {w v : World}

theorem Interlude.keepsAlarm (h : Interlude exec s self slot w v) : w.KeepsAlarm self slot v := by
  induction h with
  | idle => exact .refl _
  | drawn _ hcode hu ih =>
    exact ih.trans ((Plan.keepsAlarm_draw s.game _).result hcode ((Plan.run_draw ..).trans hu))
  | host _ hu ih => exact ih.trans hu

theorem PlaysOn.keepsAlarm (h : PlaysOn exec s self slot w v) : w.KeepsAlarm self slot v := by
  obtain ⟨hafter, hrest, hinterlude, hstays, huntil, hnext⟩ := h
  have hframe := (Plan.keepsAlarm_afterAlarms s.game w).result hafter hrest
  exact (hframe.trans hinterlude.keepsAlarm).trans (Plan.keepsAlarm_untilAlarms huntil hstays hnext)

theorem countdown_due (n k : Nat) :
    countdown (if k < n then n - k else -1) = if k + 1 < n then (n : Int) - (k + 1) else -1 := by
  unfold countdown
  split_ifs <;> omega

/-- An alarm that is set to `n` counts down to `1` in the first passes and does not go off. In pass `n`
it goes off once, and then it is off for good. -/
theorem alarm_goes_off_when_due {before after : Nat → World} {passes : Nat}
    (hplay : AlarmPasses exec s self slot before after passes) {n : Nat} (hn : 1 ≤ n)
    (hset : (before 0).alarm? self slot = some (n : Int)) {k : Nat} (hk : k < passes) :
    (after k).alarm? self slot = some (if k + 1 < n then (n : Int) - (k + 1) else -1) ∧
      (Plan.runAlarms (before k)).firings exec s self slot = if k + 1 = n then 1 else 0 := by
  have hpass (k : Nat) (hk : k < passes)
      (hbefore : (before k).alarm? self slot = some (if k < n then (n : Int) - k else -1)) :
      (after k).alarm? self slot = some (if k + 1 < n then (n : Int) - (k + 1) else -1) ∧
        (Plan.runAlarms (before k)).firings exec s self slot = if k + 1 = n then 1 else 0 := by
    have hdue : (if k < n then (n : Int) - k else -1) = 1 ↔ k + 1 = n := by
      constructor
      · intro hone
        split_ifs at hone
        omega
      · intro hlast
        rw [if_pos (by omega)]
        omega
    have hticks := Plan.ticks_runAlarms (before k) _ hbefore (hplay.leavesAlarm k hk) (after k)
      ((Plan.run_runAlarms ..).trans (hplay.runs k hk))
    rw [countdown_due] at hticks
    simpa only [hdue] using hticks
  -- the count before a pass is the one that the pass before it has left
  induction k with
  | zero =>
    refine hpass 0 hk ?_
    rw [hset, if_pos (by omega), Nat.cast_zero, Int.sub_zero]
  | succ k ih =>
    refine hpass (k + 1) hk ?_
    rw [(hplay.playsOn k hk).keepsAlarm, (ih (by omega)).1]
    rfl

end Due

/-! ### Alarms that ring again -/

/-- Each piece of code sets the second alarm of its instance so that it goes off in the next pass. -/
def ringAgain : Exec := fun w _ id _ =>
  some (w.modify id fun i => { i with alarms := i.alarms.set 1 1 })

/-- The instances of the only object handle their first two alarms. There are no rooms. -/
def bellSetup : Setup where
  game := { objects := #[{ events := [[], [], [⟨0, [0]⟩, ⟨1, [0]⟩]] }] }
  program := ⟨#[], ⟨[], []⟩, .empty⟩
  settings := {}

/-- Two instances with alarms that are set to different counts. -/
def bells : World where
  instances := ⟨[{ Instance.create 1 0 0 0 with
      alarms := #v[2, 1, -1, -1, -1, -1, -1, -1, -1, -1, -1, 7] },
    { Instance.create 2 0 0 0 with
      alarms := #v[1, 3, -1, -1, -1, -1, -1, -1, -1, -1, -1, -1] }], by decide⟩
  generator := .ofSeed 1

def firstAlarm : Fin alarmCount := ⟨0, by decide⟩

/-- The worlds before and after each pass of alarms. -/
def bellPass : Nat → World × World
  | 0 => (bells, (bells.runAlarms ringAgain bellSetup).getD bells)
  | k + 1 =>
    let v := ((Plan.afterAlarms bellSetup.game (bellPass k).2).run ringAgain bellSetup).getD bells
    let p := ((Plan.untilAlarms bellSetup.game v).run ringAgain bellSetup).getD bells
    (p, (p.runAlarms ringAgain bellSetup).getD bells)

theorem alarmPasses_bells (passes : Nat) :
    AlarmPasses ringAgain bellSetup 1 firstAlarm (fun k => (bellPass k).1)
      (fun k => (bellPass k).2) passes := by
  have hkeeps : ringAgain.Keeps (World.KeepsAlarm 1 firstAlarm) := by
    intro w code id other v hv
    cases hv
    have hset (i : Instance) :
        ({ i with alarms := i.alarms.set 1 1 } : Instance).alarm? firstAlarm =
          i.alarm? firstAlarm := by
      have hfirst : (i.alarms.set 1 1).get firstAlarm = i.alarms.get firstAlarm :=
        Vector.getElem_set_ne _ _ (by decide)
      unfold Instance.alarm? Instance.count
      rw [hfirst]
      rfl
    cases hi : w.instance? id with
    | none =>
      unfold World.KeepsAlarm World.alarm?
      rw [World.instance?_modify]
      split_ifs with hid
      · rw [hid, hi]
        rfl
      · rfl
    | some i => exact World.alarm?_modify hi (hset i)
  have hend {plan : Plan World} (h : plan.Starts Plan.OnLive) :
      plan.run ringAgain bellSetup = some ((plan.run ringAgain bellSetup).getD bells) := by
    have hsome : (plan.run ringAgain bellSetup).isSome := Plan.isSome_run (fun _ _ _ _ => rfl) h
    obtain ⟨b, hb⟩ := Option.isSome_iff_exists.mp hsome
    rw [hb]
    rfl
  have hpass (p : World) : p.runAlarms ringAgain bellSetup =
      some ((p.runAlarms ringAgain bellSetup).getD bells) := by
    rw [← Plan.run_runAlarms]
    exact hend (Plan.starts_runAlarms p)
  refine ⟨fun k _ => ?_, fun k _ => Plan.leavesAlarm_of_keeps hkeeps _, fun k _ => ?_⟩
  · cases k <;> exact hpass _
  · refine .intro (Plan.leavesAlarm_of_keeps hkeeps _) (hend (Plan.starts_afterAlarms _ _)) (.idle _)
      ?_ (Plan.leavesAlarm_of_keeps hkeeps _) (hend (Plan.starts_untilAlarms _ _))
    intro index room v _ hroom
    have hnone : bellSetup.game.room? index = none := by simp [Game.room?, tableAt?, bellSetup]
    simp [hnone] at hroom

/-- The first alarm of the first instance goes off in the second pass only, although other alarms go
off and are set again in each of them. -/
theorem alarm_goes_off_when_due_bells :
    bells.alarm? 1 firstAlarm = some 2 ∧
      [0, 1, 2].map (fun k => ((bellPass k).2.alarm? 1 firstAlarm,
        (Plan.runAlarms (bellPass k).1).firings ringAgain bellSetup 1 firstAlarm)) =
          [(some 1, 0), (some (-1), 1), (some (-1), 0)] := by
  have hset : bells.alarm? 1 firstAlarm = some ((2 : Nat) : Int) := by decide +kernel
  have hdue {k : Nat} (hk : k < 3) :=
    alarm_goes_off_when_due (alarmPasses_bells 3) (by decide : 1 ≤ 2) hset hk
  refine ⟨hset, ?_⟩
  have hfirst := hdue (show 0 < 3 by decide)
  have hsecond := hdue (show 1 < 3 by decide)
  have hthird := hdue (show 2 < 3 by decide)
  simp only [List.map_cons, List.map_nil, hfirst, hsecond, hthird]
  rfl

end GameRunner

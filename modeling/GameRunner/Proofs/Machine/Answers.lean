import GameRunner.Proofs.Machine.Bindings
import GameRunner.Proofs.Machine.Marks

/-!
# The value that a script comes to

A script comes to the value that its own entry returns. If the entry ends without returning one, the
caller should get zero. But the value is passed on through the instance, and an entry that an event
started on the same instance may have returned a value there. If nothing was done about it since, this
is what the caller gets.
-/

namespace GameRunner

namespace Mark

/-- Whether it sets or clears the returned value of an instance. -/
def Settles (id : Int32) : Mark → Prop
  | created id' => id' = id
  | ending _ => False
  | destroyed _ => False
  | called id' => id' = id
  | answered id' => id' = id
  | returned id' _ => id' = id

/-- After all that is noted, a value that was returned for an instance is still there. -/
def LeavesBehind (id : Int32) (v : Value) (l : List Mark) : Prop :=
  ∃ before after, l = before ++ returned id v :: after ∧ ∀ m ∈ after, ¬ m.Settles id

theorem LeavesBehind.concat {id : Int32} {v : Value} {l : List Mark} {m : Mark}
    (h : LeavesBehind id v l) (hm : ¬ m.Settles id) : LeavesBehind id v (l ++ [m]) := by
  obtain ⟨before, after, rfl, hafter⟩ := h
  refine ⟨before, after ++ [m], by simp, ?_⟩
  intro k hk
  rcases List.mem_append.mp hk with hk | hk
  · exact hafter k hk
  · rwa [List.mem_singleton.mp hk]

end Mark

/-- The value that was returned for an instance. -/
def World.returned? (w : World) (id : Int32) : Option Value :=
  (w.standing? id).bind Standing.returned

section Following

variable {g : Game} {w v : World} {m : Mark} {l : List Mark} {id : Int32}

theorem Noted.standing?_id (h : Noted g w m v) :
    v.standing? m.id = m.follow (w.standing? m.id) :=
  (h.standing?_eq m.id).trans (if_pos rfl)

theorem Noted.returned?_eq (h : Noted g w m v) (hm : ¬ m.Settles id) :
    v.returned? id = w.returned? id := by
  unfold World.returned?
  rw [h.standing?_eq id]
  split_ifs with hid
  · subst hid
    cases m with
    | ending id => rfl
    | destroyed id => cases hs : w.standing? id <;> simp [Mark.follow, Mark.id, hs]
    | _ => exact absurd rfl hm
  · rfl

theorem Noted.returned?_of_settles (h : Noted g w m v) (hm : m.Settles id)
    (hreturned : ∀ x, m ≠ .returned id x) : v.returned? id = none := by
  have hfollowed := h.standing?_id
  unfold World.returned?
  cases m with
  | created id' =>
    obtain rfl : id' = id := hm
    exact congrArg (Option.bind · Standing.returned) hfollowed
  | called id' | answered id' =>
    obtain rfl : id' = id := hm
    simp only [Mark.id, Mark.follow] at hfollowed
    rw [hfollowed]
    cases w.standing? id' <;> rfl
  | returned id' x =>
    obtain rfl : id' = id := hm
    exact absurd rfl (hreturned x)
  | ending id' => cases hm
  | destroyed id' => cases hm

theorem Noted.returned?_of_returned {x : Value} (h : Noted g w (.returned id x) v)
    (hv : (v.standing? id).isSome) : v.returned? id = some x := by
  have hfollowed := h.standing?_id
  simp only [Mark.id, Mark.follow] at hfollowed
  unfold World.returned?
  rw [hfollowed] at hv ⊢
  cases hs : w.standing? id with
  | none => simp [hs] at hv
  | some before => rfl

theorem Noted.isSome_standing? (h : Noted g w m v) (hw : (w.standing? id).isSome) :
    (v.standing? id).isSome := by
  rw [h.standing?_eq id]
  split_ifs
  · cases m with
    | created id' => rfl
    | ending id' => exact hw
    | _ => exact Option.isSome_map.trans hw
  · exact hw

namespace Annals

theorem isSome_standing? (h : Annals World.Calm g w l v) (hw : (w.standing? id).isSome) :
    (v.standing? id).isSome := by
  induction h with
  | refl => exact hw
  | between hcalm _ ih => exact ih (hcalm.standing?_eq id ▸ hw)
  | note hnoted _ ih => exact ih (hnoted.isSome_standing? hw)

theorem returned?_eq (h : Annals World.Calm g w l v) (hl : ∀ m ∈ l, ¬ m.Settles id) :
    v.returned? id = w.returned? id := by
  induction h with
  | refl => rfl
  | between hcalm _ ih =>
    rw [ih hl]
    exact congrArg (Option.bind · Standing.returned) (hcalm.standing?_eq id)
  | note hnoted _ ih =>
    rw [ih fun m hm => hl m (List.mem_cons_of_mem _ hm)]
    exact hnoted.returned?_eq (hl _ List.mem_cons_self)

theorem returned?_of_leavesBehind (h : Annals World.Calm g w l v) (hw : (w.standing? id).isSome)
    {x : Value} (hl : Mark.LeavesBehind id x l) : v.returned? id = some x := by
  obtain ⟨before, after, rfl, hafter⟩ := hl
  obtain ⟨u, hbefore, hrest⟩ := h.split
  obtain ⟨u', u'', hu, hnoted, hlater⟩ := hrest.exists_noted
  have hpresent := hu.isSome_standing? (hbefore.isSome_standing? hw)
  rw [hlater.returned?_eq hafter]
  exact hnoted.returned?_of_returned (hnoted.isSome_standing? hpresent)

/-- Where no value is left behind, there is none if there was none before. -/
theorem returned?_eq_none (h : Annals World.Calm g w l v) (hw : w.returned? id = none)
    (hl : ∀ x, ¬ Mark.LeavesBehind id x l) : v.returned? id = none := by
  -- From the end: what is noted last either settles the value or leaves it to what comes before.
  induction l using List.reverseRecOn generalizing v with
  | nil => exact (h.returned?_eq (by simp)).trans hw
  | append_singleton l m ih =>
    obtain ⟨u, hu, hlast⟩ := h.split
    obtain ⟨u', u'', hbetween, hnoted, hend⟩ := hlast.exists_noted
    have hbefore : u'.returned? id = u.returned? id := hbetween.returned?_eq (by simp)
    have hafter : v.returned? id = u''.returned? id := hend.returned?_eq (by simp)
    rw [hafter]
    by_cases hm : m.Settles id
    · apply hnoted.returned?_of_settles hm
      rintro x rfl
      exact hl x ⟨l, [], rfl, by simp⟩
    · rw [hnoted.returned?_eq hm, hbefore]
      exact ih hu fun x hx => hl x (hx.concat hm)

end Annals

end Following

/-! ### The entry of a script -/

/-- The value that a run of a code entry has returned. -/
def Ending.value? : Ending → Option Value
  | returned v => v
  | _ => none

namespace Machine

/-- The value that a code entry returns. There is none if it ends in another way than by returning
one. -/
def entryValue? (exec : Exec) (s : Setup) (w : World) (code self other : Int32) : Option Value :=
  (s.program.code? code).bind fun c =>
    if c.isEmpty then none
    else
      (runFrame exec s c (s.game.codeName code)
        (s.settings.trace.tracesInstructions (s.game.codeName code)) s.settings.maxInstructions
        (.start code self other) w).bind fun r => r.1.value?

/-- Only a return hands over a value. -/
theorem op?_eq_ret_of_step {exec : Exec} {s : Setup} {i : Instruction} {f f' : Frame} {w v : World}
    {y : Value} (h : step exec s i f w = some (.ok (.returned (some y)), f', v)) :
    i.op? = some .ret := by
  unfold step at h
  split at h
  · cases h
  · next op hi =>
    cases op with
    | ret => exact hi
    | bt | bf =>
      dsimp only at h
      unfold branchIf at h
      dsimp only at h
      split_ifs at h <;> cases h
    | pushenv =>
      dsimp only at h
      unfold pushEnv at h
      dsimp only at h
      split at h <;> cases h
    | popenv =>
      dsimp only at h
      unfold popEnv at h
      split at h
      · cases h
      · dsimp only at h
        split at h <;> cases h
    | push =>
      dsimp only at h
      unfold push at h
      split at h <;> cases h
    | call =>
      dsimp only at h
      unfold call at h
      dsimp only at h
      split at h
      · cases h
      · split at h <;> cases h
    | _ => cases h

/-- A frame that returns a value has stopped at a return. The last thing it has done is to pass the
value on through the instance that it was started on. -/
theorem exists_ret_of_runFrame {exec : Exec} {s : Setup} {code : Code} {name : String}
    {traced : Bool} {n : Nat} {f f' : Frame} {w v : World} {y : Value}
    (h : runFrame exec s code name traced n f w = some (.returned (some y), f', v)) :
    (∃ i, code.instructions[f'.pc]? = some i ∧ i.op? = some .ret) ∧
      ∃ u : World, v = u.modify f.entrySelf fun i => { i with returned := some y } := by
  induction n generalizing f w with
  | zero =>
    unfold runFrame at h
    split_ifs at h
    all_goals cases h
  | succ n ih =>
    cases hi : code.instructions[f.pc]? with
    | none =>
      simp only [runFrame, hi] at h
      cases h
    | some i =>
      rw [runFrame_succ hi] at h
      obtain ⟨⟨outcome, g, u⟩, hstep, hrest⟩ := Option.bind_eq_some_iff.mp h
      -- The instance of the entry is the same whatever `with` blocks have been opened on the way.
      have hself : g.entrySelf = f.entrySelf := entrySelf_of_step hstep
      rcases outcome with fault | signal
      · cases hrest
      · cases signal with
        | next | branch target | skip target =>
          unfold continueFrame at hrest
          obtain ⟨hstopped, u', hv⟩ := ih hrest
          exact ⟨hstopped, u', hself ▸ hv⟩
        | returned value =>
          cases hrest
          have hret : i.op? = some .ret := op?_eq_ret_of_step hstep
          rw [step_ret hret] at hstep
          unfold ret at hstep
          split at hstep
          · cases hstep
          · cases hstep
            exact ⟨⟨i, hi, hret⟩, _, rfl⟩

/-- The value that an entry returns is then the one of the instance that it was started on. -/
theorem returned?_of_entryValue? {s : Setup} {depth : Nat} {w v : World} {code self other : Int32}
    {y : Value} (h : entryValue? (execute s depth) s w code self other = some y)
    (hv : execute s (depth + 1) w code self (some other) = some v)
    (hself : (v.standing? self).isSome) : v.returned? self = some y := by
  obtain ⟨c, hc, hentry⟩ := Option.bind_eq_some_iff.mp h
  split_ifs at hentry with hempty
  have hne : c.isEmpty = false := Bool.eq_false_iff.mpr hempty
  obtain ⟨⟨ending, f, u⟩, hrun, hending⟩ := Option.bind_eq_some_iff.mp hentry
  obtain rfl : ending = .returned (some y) := by
    cases ending with
    | returned value => exact congrArg Ending.returned hending
    | _ => cases hending
  have hend : v = u := by
    change runEntry (execute s depth) s w code self (some other) = some v at hv
    rw [runEntry_eq hc hne, Option.getD_some, hrun] at hv
    exact (Option.some_inj.mp hv).symm
  obtain ⟨-, before, hu⟩ := exists_ret_of_runFrame hrun
  subst hend hu
  exact Noted.returned?_of_returned (g := s.game) (.returned self y) hself

end Machine

theorem World.fst_scriptOutcome (self : Int32) (old : List (String × Option Value)) (after : World) :
    (scriptOutcome self old after).1 = .ok ((after.returned? self).getD .zero) := by
  unfold scriptOutcome returned? standing?
  cases after.instance? self <;> rfl

open World in
/-- If the entry of a script returns a value, this is the value that the script comes to, and nothing
else that runs meanwhile makes a difference. But if it ends without returning one, the script comes to
zero only if no value has been left behind on its instance while it ran, by an entry that an event
started. Else it comes to this value. -/
theorem callScript_value {s : Setup} {depth : Nat} {w v : World} {code self other : Int32}
    {args : List Value} {x : Value}
    (h : w.callScript (Machine.execute s (depth + 1)) code args self other = some (.ok x, v)) :
    let start := w.entering self args
    let l := Machine.marks s (depth + 1) start code self (some other)
    (∀ y, Machine.entryValue? (Machine.execute s depth) s start code self other = some y → x = y) ∧
      (∀ y, Mark.LeavesBehind self y l → x = y) ∧
      ((∀ y, ¬ Mark.LeavesBehind self y l) → x = .zero) := by
  intro start l
  obtain ⟨i, after, -, hi, hafter, hout⟩ := callScript_eq_ok h
  have hannals : Annals Calm s.game start l after :=
    (Machine.records_execute s (depth + 1) start code self (some other)).ended after hafter
  have hstart : start.instance? self = some (givenArguments args i) := instance?_modify_self hi rfl
  have hpresent : (start.standing? self).isSome := by
    unfold standing?
    rw [hstart]
    rfl
  have hcleared : start.returned? self = none := by
    unfold returned? standing?
    rw [hstart]
    rfl
  have hx : x = (after.returned? self).getD .zero := by
    have hvalue := fst_scriptOutcome self (saved (argumentNames args.length) i.vars) after.ascend
    rw [hout] at hvalue
    exact Except.ok.inj hvalue
  refine ⟨?_, ?_, ?_⟩
  · intro y hy
    rw [hx, Machine.returned?_of_entryValue? hy hafter (hannals.isSome_standing? hpresent)]
    rfl
  · intro y hy
    rw [hx, hannals.returned?_of_leavesBehind hpresent hy]
    rfl
  · intro hnone
    rw [hx, hannals.returned?_eq_none hcleared hnone]
    rfl

/-- The first script destroys its instance and ends. The second one does the same and then returns a
value of its own. When the instance is destroyed, it handles this with an entry that returns a value. -/
def partingSetup : Setup where
  game :=
    { strings := #["parting", "own"]
      functionTable := #[⟨"instance_destroy", 1, 0⟩]
      objects := #[{}, { events := [[], [⟨0, [2]⟩]] }] }
  program :=
    { code := #[
        ⟨#[{ (Statement.call 0 0).instruction 0 with functionIndex := 0 },
          Statement.popz.instruction 8, Statement.exit.instruction 12]⟩,
        ⟨#[{ (Statement.call 0 0).instruction 0 with functionIndex := 0 },
          Statement.popz.instruction 8, (Statement.pushString 1).instruction 12,
          Statement.ret.instruction 20]⟩,
        ⟨#[(Statement.pushString 0).instruction 0, Statement.ret.instruction 8]⟩]
      references := ⟨[], []⟩
      scripts := .ofList [("leave", 0), ("leave_own", 1)] }
  settings := {}

/-- A single instance. -/
def partingWorld : World where
  instances := ⟨[.create 100001 1 0 0], by decide⟩
  nextId := 100002
  generator := .ofSeed 1

/-- The second script returns a value of its own, and this is what it comes to. -/
theorem callScript_value_own :
    let start := partingWorld.entering 100001 []
    ∃ y v, Machine.entryValue? (Machine.execute partingSetup 1) partingSetup start 1 100001 100001 =
        some y ∧
      y.toText = "own" ∧
      partingWorld.callScript (Machine.execute partingSetup 2) 1 [] 100001 100001 =
        some (.ok y, v) := by
  intro start
  have htext : (Machine.entryValue? (Machine.execute partingSetup 1) partingSetup start 1 100001
      100001).map Value.toText = some "own" := by decide +kernel
  have hends : (partingWorld.callScript (Machine.execute partingSetup 2) 1 [] 100001 100001).map
      (fun r => r.1.isOk) = some true := by decide +kernel
  obtain ⟨y, hy, hown⟩ := Option.map_eq_some_iff.mp htext
  obtain ⟨⟨outcome, v⟩, hcall, hok⟩ := Option.map_eq_some_iff.mp hends
  cases outcome with
  | error fault => cases hok
  | ok x =>
    obtain ⟨hvalue, -, -⟩ := callScript_value hcall
    obtain rfl := hvalue y hy
    exact ⟨x, v, hy, hown, hcall⟩

/-- The first script returns no value, but it does not come to zero. -/
theorem callScript_value_parting :
    let start := partingWorld.entering 100001 []
    (Machine.entryValue? (Machine.execute partingSetup 1) partingSetup start 0 100001
        100001).isNone = true ∧
      ((partingWorld.callScript (Machine.execute partingSetup 2) 0 [] 100001 100001).bind fun r =>
        r.1.toOption.map Value.toText) = some "parting" ∧
      Value.zero.toText = "0" := by
  decide +kernel

end GameRunner

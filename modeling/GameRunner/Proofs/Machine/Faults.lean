import GameRunner.Proofs.Machine.FrameLaw

/-!
# Faults change nothing and go no further

A function reads its arguments before it does anything, and a script is refused before its instance
is touched. So a call that ends in a fault leaves the world as it was, but for the lines reported on
the way, and this carries over to a script that is run by number through any number of calls. The
body of a script is a code entry of its own: a fault in it ends the entry and the caller gets a
value.
-/

namespace GameRunner

namespace World

/-- A later world in which nothing has happened but that lines may have been reported. -/
def OnlyReports (w v : World) : Prop :=
  ∃ lines, v = { w with journal := { w.journal with latest := lines ++ w.journal.latest } }

namespace OnlyReports

theorem refl (w : World) : w.OnlyReports w := ⟨[], rfl⟩

theorem trans {w v u : World} (h : w.OnlyReports v) (h' : v.OnlyReports u) : w.OnlyReports u := by
  obtain ⟨lines, rfl⟩ := h
  obtain ⟨lines', rfl⟩ := h'
  exact ⟨lines' ++ lines, by simp only [List.append_assoc]⟩

theorem log (w : World) (s : Severity) (line : Unit → String) : w.OnlyReports (w.log s line) := by
  unfold World.log Journal.add
  split_ifs
  · exact ⟨[(s, line ())], rfl⟩
  · exact .refl w

theorem reportCall (s : Setup) (w : World) (name : String) (args : List Value) (self : Int32) :
    w.OnlyReports (w.reportCall s name args self) := by
  unfold World.reportCall
  dsimp only
  split_ifs
  · exact .refl w
  · exact .log w _ _
  · exact .refl w

theorem reportStep (traced : Bool) (name : String) (i : Instruction) (f : Frame) (w : World) :
    w.OnlyReports (Machine.reportStep traced name i f w) := by
  unfold Machine.reportStep
  split_ifs <;> exact .log w _ _

theorem reportTarget (code : Code) (name : String) (target : Option Nat) (w : World) :
    w.OnlyReports (Machine.reportTarget code name target w) := by
  unfold Machine.reportTarget
  split_ifs
  · exact .refl w
  · exact .log w _ _

end OnlyReports

variable {exec : Exec} {w v : World} {fault : Fault}

/-- Callers that are set for a while and then put back leave no trace. -/
theorem onlyReports_of_asCaller_eq_error {self other : Int32} {run : World → CallResult}
    (hrun : ∀ u, run { w with self := some self, other := some other } = some (.error fault, u) →
      OnlyReports { w with self := some self, other := some other } u)
    (h : w.asCaller self other run = some (.error fault, v)) : w.OnlyReports v := by
  obtain ⟨⟨outcome, u⟩, hu, hr⟩ := Option.map_eq_some_iff.mp h
  obtain ⟨rfl, rfl⟩ := Prod.mk.inj hr
  obtain ⟨lines, rfl⟩ := hrun u hu
  exact ⟨lines, rfl⟩

/-- Once a function has read its arguments it cannot fail any more. -/
theorem callAction_eq_error {s : Setup} {plan : List Value → Except Fault Action}
    {args : List Value} (h : w.callAction exec s plan args = some (.error fault, v)) :
    plan args = .error fault ∧ v = w := by
  unfold callAction at h
  split at h
  · next hplan =>
    cases h
    exact ⟨hplan, rfl⟩
  · obtain ⟨r, -, hr⟩ := Option.map_eq_some_iff.mp h
    cases hr

/-- A script fails if calls are nested too deep or else if there is no instance to run it on, and in
no other case. -/
theorem callScript_eq_error_iff {code : Int32} {args : List Value} {self other : Int32} :
    w.callScript exec code args self other = some (.error fault, v) ↔
      v = w ∧
        (maxCallDepth ≤ w.callDepth ∧ fault = .callDepthExceeded maxCallDepth ∨
          w.callDepth < maxCallDepth ∧ w.instance? self = none ∧ fault = .noSuchInstance self) := by
  by_cases hdepth : w.callDepth < maxCallDepth
  · cases hi : w.instance? self with
    | none =>
      simp only [callScript, if_neg (Nat.not_le.mpr hdepth), hi]
      constructor
      · intro h
        cases h
        exact ⟨rfl, .inr ⟨hdepth, trivial, rfl⟩⟩
      · rintro ⟨rfl, ⟨hdeep, -⟩ | ⟨-, -, rfl⟩⟩
        · exact absurd hdepth (Nat.not_lt.mpr hdeep)
        · rfl
    | some i =>
      rw [callScript_eq hdepth hi]
      constructor
      · intro h
        obtain ⟨after, -, hout⟩ := Option.map_eq_some_iff.mp h
        unfold scriptOutcome at hout
        split at hout <;> cases hout
      · rintro ⟨-, ⟨hdeep, -⟩ | ⟨-, hnone, -⟩⟩
        · exact absurd hdepth (Nat.not_lt.mpr hdeep)
        · cases hnone
  · simp only [callScript, if_pos (Nat.not_lt.mp hdepth)]
    constructor
    · intro h
      cases h
      exact ⟨rfl, .inl ⟨Nat.not_lt.mp hdepth, rfl⟩⟩
    · rintro ⟨rfl, ⟨-, rfl⟩ | ⟨hlt, -⟩⟩
      · rfl
      · exact absurd hlt hdepth

theorem exists_callScript_eq_error_iff {code : Int32} {args : List Value} {self other : Int32} :
    (∃ fault v, w.callScript exec code args self other = some (.error fault, v)) ↔
      maxCallDepth ≤ w.callDepth ∨ w.instance? self = none := by
  simp only [callScript_eq_error_iff]
  constructor
  · rintro ⟨fault, v, -, ⟨hdeep, -⟩ | ⟨-, hnone, -⟩⟩
    · exact .inl hdeep
    · exact .inr hnone
  · intro h
    by_cases hdepth : w.callDepth < maxCallDepth
    · have hnone := h.resolve_left (Nat.not_le.mpr hdepth)
      exact ⟨.noSuchInstance self, w, rfl, .inr ⟨hdepth, hnone, rfl⟩⟩
    · exact ⟨_, w, rfl, .inl ⟨Nat.not_lt.mp hdepth, rfl⟩⟩

/-- A call that ends in a fault has done nothing but report. -/
theorem onlyReports_of_call_eq_error {s : Setup} {w v : World} {name : String} {args : List Value}
    {self other : Int32} (h : w.call exec s name args self other = some (.error fault, v)) :
    w.OnlyReports v := by
  unfold call at h
  refine (OnlyReports.reportCall s w name args self).trans
    (onlyReports_of_asCaller_eq_error (fun u hrun => ?_) h)
  split at hrun
  · rw [(callAction_eq_error hrun).2]
    exact .refl _
  · cases args with
    | nil =>
      cases hrun
      exact .refl _
    | cons index rest =>
      dsimp only at hrun
      split at hrun
      · exact onlyReports_of_call_eq_error hrun
      · cases hrun
  · split at hrun
    · rw [(callScript_eq_error_iff.mp hrun).1]
      exact .refl _
    · cases hrun
termination_by args.length

end World

namespace Machine

/-- An instruction that neither calls a function nor returns a value does nothing but report or
write. -/
theorem reports_or_strokes_of_step {exec : Exec} {s : Setup} {i : Instruction} {f f' : Frame}
    {w v : World} {outcome : Except Fault Signal} (hcall : i.op? ≠ some .call)
    (hret : i.op? ≠ some .ret) (h : step exec s i f w = some (outcome, f', v)) :
    w.OnlyReports v ∨ Strokes w v := by
  unfold step at h
  split at h
  · cases h
    exact .inl (.log w _ _)
  · next op hi =>
    cases op with
    | call => exact absurd hi hcall
    | ret => exact absurd hi hret
    | pop =>
      cases h
      exact .inr (.write s.game w f i)
    | bt | bf =>
      dsimp only at h
      unfold branchIf at h
      dsimp only at h
      split_ifs at h <;> cases h <;> exact .inl (.refl w)
    | pushenv =>
      dsimp only at h
      unfold pushEnv at h
      dsimp only at h
      split at h <;> cases h <;> exact .inl (.refl w)
    | popenv =>
      dsimp only at h
      unfold popEnv at h
      split at h
      · cases h
        exact .inl (.refl w)
      · dsimp only at h
        split at h <;> cases h <;> exact .inl (.refl w)
    | push =>
      dsimp only at h
      unfold push at h
      split at h <;> cases h <;> exact .inl (.refl w)
    | _ =>
      cases h
      exact .inl (.refl w)

theorem step_ret {i : Instruction} (hop : i.op? = some .ret) (exec : Exec) (s : Setup) (f : Frame)
    (w : World) : step exec s i f w = ret f w := by
  unfold step
  rw [hop]

/-- A code entry that is run meets a fault. -/
def MeetsFault (exec : Exec) (s : Setup) (w : World) (code self other : Int32) : Prop :=
  ∃ c fault f v, s.program.code? code = some c ∧ c.isEmpty = false ∧
    runFrame exec s c (s.game.codeName code)
      (s.settings.trace.tracesInstructions (s.game.codeName code)) s.settings.maxInstructions
      (.start code self other) w = some (.failed fault, f, v)

/-- Whoever has started an entry does not notice that it met a fault. -/
theorem exists_runEntry_of_meetsFault {exec : Exec} {s : Setup} {w : World}
    {code self other : Int32} (h : MeetsFault exec s w code self other) :
    ∃ v, runEntry exec s w code self (some other) = some v := by
  obtain ⟨c, fault, f, v, hc, hne, hrun⟩ := h
  refine ⟨reportFault c (s.game.codeName code) fault f v, ?_⟩
  rw [runEntry_eq hc hne, Option.getD_some, hrun]
  rfl

theorem exists_callScript_of_meetsFault {s : Setup} {depth : Nat} {w : World} {code : Int32}
    {args : List Value} {self other : Int32} (hdepth : w.callDepth < maxCallDepth)
    (hi : (w.instance? self).isSome)
    (h : MeetsFault (execute s depth) s (w.modify self (World.givenArguments args)).descend code
      self other) :
    ∃ x v, w.callScript (execute s (depth + 1)) code args self other = some (.ok x, v) := by
  obtain ⟨i, hi⟩ := Option.isSome_iff_exists.mp hi
  obtain ⟨after, hafter⟩ := exists_runEntry_of_meetsFault h
  have hexec : execute s (depth + 1) (w.modify self (World.givenArguments args)).descend code self
      (some other) = some after := hafter
  rw [World.callScript_eq hdepth hi, hexec, Option.map_some, World.scriptOutcome]
  split
  · exact ⟨_, _, rfl⟩
  · exact ⟨_, _, rfl⟩

end Machine

/-- Faults are atomic and contained. A call by name that ends in a fault leaves everything as it was,
but for what has been reported. A call of a script ends in a fault if and only if calls are nested as
deep as they may be or the calling instance does not exist; in particular a script whose body meets
a fault gives its caller a value. -/
theorem faults_contained (s : Setup) (depth : Nat) (w : World) (args : List Value)
    (self other : Int32) :
    (∀ name fault v, w.call (Machine.execute s depth) s name args self other =
        some (.error fault, v) → w.OnlyReports v) ∧
      (∀ code, (∃ fault v, w.callScript (Machine.execute s depth) code args self other =
        some (.error fault, v)) ↔ maxCallDepth ≤ w.callDepth ∨ w.instance? self = none) ∧
      ∀ code, w.callDepth < maxCallDepth → (w.instance? self).isSome →
        Machine.MeetsFault (Machine.execute s depth) s
          (w.modify self (World.givenArguments args)).descend code self other →
        ∃ x v, w.callScript (Machine.execute s (depth + 1)) code args self other =
          some (.ok x, v) :=
  ⟨fun _ _ _ h => World.onlyReports_of_call_eq_error h,
    fun _ => World.exists_callScript_eq_error_iff,
    fun _ hdepth hi h => Machine.exists_callScript_of_meetsFault hdepth hi h⟩

/-- A script that calls a function without its arguments. -/
def stumblingSetup : Setup where
  game := { functionTable := #[⟨"instance_create", 1, 0⟩] }
  program :=
    { code := #[⟨#[{ (Statement.call 0 0).instruction 0 with functionIndex := 0 }]⟩]
      references := ⟨[], []⟩
      scripts := .empty }
  settings := {}

/-- The function fails, the script does so on an instance that does not exist, and on one that does
its body fails while its caller gets a value. -/
theorem faults_contained_stumbling :
    (∃ v, Machine.farewellWorld.call (Machine.execute stumblingSetup 0) stumblingSetup
        "instance_create" [] 100001 100001 = some (.error (.missingArgument 0 0), v) ∧
      Machine.farewellWorld.OnlyReports v) ∧
      (∃ fault v, Machine.farewellWorld.callScript (Machine.execute stumblingSetup 0) 0 [] 7 7 =
        some (.error fault, v)) ∧
      ∃ x v, Machine.farewellWorld.callScript (Machine.execute stumblingSetup 1) 0 [] 100001 100001 =
        some (.ok x, v) := by
  obtain ⟨hatomic, -, hinside⟩ :=
    faults_contained stumblingSetup 0 Machine.farewellWorld [] 100001 100001
  obtain ⟨-, hscript, -⟩ := faults_contained stumblingSetup 0 Machine.farewellWorld [] 7 7
  refine ⟨⟨_, rfl, hatomic "instance_create" _ _ rfl⟩, (hscript 0).mpr (.inr rfl), ?_⟩
  exact hinside 0 (by decide) rfl ⟨_, .missingArgument 0 0, _, _, rfl, rfl, rfl⟩

end GameRunner

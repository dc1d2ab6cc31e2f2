import GameRunner.Proofs.Machine.FrameLaw
import GameRunner.Proofs.Play.Operations

/-!
# The context is bracketed

Whatever sets the running event, the callers of a function or the number of nested script calls puts
them back, also where code fails or is cut off. And whatever happens while a game is played, code
never runs deeper than script calls may be nested, though it does run as deep as that.
-/

namespace GameRunner

/-- What is done with a game at a time: by its host, or by one instruction of its code. -/
inductive Operation
  | instruction (i : Instruction) (f : Frame)
  | execute (code self : Int32) (other : Option Int32)
  | call (name : String) (args : List Value) (self other : Int32)
  | callScript (code : Int32) (args : List Value) (self other : Int32)
  | callBuiltin (b : Builtin) (args : List Value)
  | fire (id : Int32) (type : Nat) (subtype : Int32) (other : Option Int32)
  | fireInherited (id : Int32) (other : Option Int32)
  | dispatch (type : Nat) (subtype : Int32)
  | spawn (object : Int32) (x y : Float)
  | destroy (id : Int32)
  | step
  | draw

namespace Operation

/-- The world after an operation. -/
def run (exec : Exec) (s : Setup) (w : World) : Operation → Option World
  | .instruction i f => (Machine.step exec s i f w).map Machine.resultWorld
  | .execute code self other => exec w code self other
  | .call name args self other => (w.call exec s name args self other).map Prod.snd
  | .callScript code args self other => (w.callScript exec code args self other).map Prod.snd
  | .callBuiltin b args => (w.callBuiltin exec s b args).map Prod.snd
  | .fire id type subtype other => w.fire exec s id type subtype other
  | .fireInherited id other => w.fireInherited exec s id other
  | .dispatch type subtype => w.dispatch exec s type subtype
  | .spawn object x y => (w.spawn exec s object x y).map Prod.snd
  | .destroy id => w.destroy exec s id
  | .step => w.step exec s
  | .draw => w.draw exec s

/-- Whatever is done, there are only so many kinds of changes, and none of them lowers the number of
entries that were cut off. -/
theorem activity_counting (s : Setup) (w : World) (op : Operation) :
    Activity (fun w v => Change s.game w v ∧ w.cutOff ≤ v.cutOff) id w fun exec =>
      op.run exec s w := by
  have hweaken {w : World} {m : Exec → Option World} (h : Activity (Happening s.game) id w m) :
      Activity (fun w v => Change s.game w v ∧ w.cutOff ≤ v.cutOff) id w m :=
    h.mono fun _ _ he => ⟨he.effect, he.abides.cutOff⟩
  cases op with
  | instruction i f => exact hweaken ((Machine.activity_step s i f w).ofCode.map _ fun _ => rfl)
  | execute code self other => exact .run code self other
  | call name args self other =>
    exact hweaken ((World.activity_call s w name args self other).ofCode.map _ fun _ => rfl)
  | callScript code args self other =>
    exact hweaken ((World.activity_callScript w code args self other).ofCode.map _ fun _ => rfl)
  | callBuiltin b args =>
    have hactivity := World.activity_callBuiltin s w b args
    exact hweaken ((hactivity.mono fun _ _ he => he.mono fun _ _ => .code).map _ fun _ => rfl)
  | fire self type subtype other =>
    exact hweaken (World.activity_fire s w self type subtype other).ofCode
  | fireInherited self other =>
    exact hweaken (World.activity_fireInherited s w self other).ofCode
  | dispatch type subtype => exact hweaken (World.activity_dispatch s w type subtype)
  | spawn object x y =>
    exact hweaken ((World.activity_spawn s w object x y).ofCode.map _ fun _ => rfl)
  | destroy self => exact hweaken (World.activity_destroy s w self).ofCode
  | step =>
    exact .act ⟨World.still_beginFrame s.game w, (World.cutOff_beginFrame w).ge⟩
      (hweaken (World.activity_frame s w))
  | draw => exact hweaken (World.activity_draw s w)

theorem activity_run (s : Setup) (w : World) (op : Operation) :
    Activity (Change s.game) id w fun exec => op.run exec s w :=
  (op.activity_counting s w).mono fun _ _ h => h.1

end Operation

/-- The worlds that occur while a game is played: the first one, those that operations lead to,
those in which an operation runs code, and whatever else has the context of such a world. Since code
is itself made of operations, all worlds are meant that code passes through, however deep it is
nested. -/
inductive Occurs (s : Setup) : World → Prop
  | start (entropy : UInt64) (journal : Journal) : Occurs s (.ofSetup s entropy journal)
  | change {w v : World} : Occurs s w → v.context = w.context → Occurs s v
  | operate {w v : World} {exec : Exec} (op : Operation) :
    Occurs s w → exec.KeepsContext → op.run exec s w = some v → Occurs s v
  | code {w v : World} (op : Operation) :
    Occurs s w → RunsCodeIn (fun exec => op.run exec s w) v → Occurs s v

namespace Occurs

variable {s : Setup} {w : World}

theorem callDepth_le (h : Occurs s w) : w.callDepth ≤ maxCallDepth := by
  induction h with
  | start entropy journal => exact Nat.zero_le _
  | change _ hc ih => exact (congrArg Context.callDepth hc).trans_le ih
  | operate op _ hkeeps hrun ih =>
    have hc := (Operation.activity_run s _ op).context_eq (fun _ _ he => he.context_eq) hkeeps hrun
    exact (congrArg Context.callDepth hc).trans_le ih
  | code op _ hcode ih =>
    exact (Operation.activity_run s _ op).callDepth_le_of_runsCodeIn (fun _ _ he => he.context_eq)
      ih hcode

section Code

variable {exec exec' : Exec} (hexec : exec.KeepsContext) (hexec' : exec'.KeepsContext)
  (hagree : ∀ v, Occurs s v → exec v = exec' v)

include hexec hexec' hagree

theorem step_eq (h : Occurs s w) (i : Instruction) (f : Frame) :
    Machine.step exec s i f w = Machine.step exec' s i f w := by
  apply (Machine.activity_step s i f w).eq_of_runsCodeIn hexec hexec'
  intro v hv
  exact hagree v (.code (.instruction i f) h (hv.map _))

theorem runFrame_eq (h : Occurs s w) (code : Code) (name : String) (traced : Bool) (n : Nat)
    (f : Frame) :
    Machine.runFrame exec s code name traced n f w =
      Machine.runFrame exec' s code name traced n f w := by
  induction n generalizing f w with
  | zero => rfl
  | succ n ih =>
    cases hi : code.instructions[f.pc]? with
    | none => simp only [Machine.runFrame, hi]
    | some i =>
      have hreport := h.change (Machine.quiet_reportStep traced name i f w).context
      rw [Machine.runFrame_succ hi, Machine.runFrame_succ hi,
        ← hreport.step_eq hexec hexec' hagree i f]
      apply Option.bind_congr
      rintro ⟨_ | signal, f', v⟩ hstep
      · rfl
      · have hv : Occurs s v :=
          .operate (.instruction i f) hreport hexec
            (congrArg (Option.map Machine.resultWorld) hstep)
        cases signal with
        | next => exact ih hv _
        | branch target =>
          exact ih (hv.change (Machine.quiet_reportTarget code name target v).context) _
        | skip target =>
          exact ih (hv.change (Machine.quiet_reportTarget code name target v).context) _
        | returned value => rfl

/-- Code that is run in a world that occurs runs code itself only in worlds that occur. -/
theorem runEntry_eq (h : Occurs s w) (code self : Int32) (other : Option Int32) :
    Machine.runEntry exec s w code self other = Machine.runEntry exec' s w code self other := by
  cases hc : s.program.code? code with
  | none => simp only [Machine.runEntry, hc]
  | some c =>
    cases hne : c.isEmpty with
    | true => simp only [Machine.runEntry, hc, hne, if_true]
    | false =>
      rw [Machine.runEntry_eq hc hne, Machine.runEntry_eq hc hne,
        h.runFrame_eq hexec hexec' hagree]

end Code

/-- A script call on an instance runs code one call deeper. -/
theorem descend (h : Occurs s w) (hdepth : w.callDepth < maxCallDepth) :
    ∃ v, Occurs s v ∧ v.callDepth = w.callDepth + 1 := by
  let peopled : World := { w with instances := ⟨[.create 0 0 0 0], by decide⟩ }
  have hpeopled : Occurs s peopled := h.change rfl
  have hinstance : peopled.instance? 0 = some (.create 0 0 0 0) := rfl
  have hcall := World.callScript_eq (w := peopled) hdepth hinstance
  refine ⟨(peopled.modify 0 (World.givenArguments [])).descend,
    .code (.callScript 0 [] 0 0) hpeopled ?_, rfl⟩
  refine ⟨fun w _ _ _ => some w, fun _ _ _ _ _ he => by cases he; rfl, ?_, ?_⟩
  · simp [Operation.run, hcall]
  · simp [Operation.run, hcall]

theorem exists_callDepth (s : Setup) {n : Nat} (hn : n ≤ maxCallDepth) :
    ∃ w, Occurs s w ∧ w.callDepth = n := by
  induction n with
  | zero => exact ⟨.ofSetup s 0 default, .start 0 default, rfl⟩
  | succ n ih =>
    obtain ⟨w, hw, rfl⟩ := ih (Nat.le_of_succ_le hn)
    exact hw.descend hn

end Occurs

/-- A run of code that comes to an end leaves the number of script calls, the callers and the event
as they were, and in all that occurs while a game is played script calls are nested no deeper than
they may be. -/
theorem context_bracketed (s : Setup) :
    (∀ (depth : Nat) (w : World) (code self : Int32) (other : Option Int32) (w' : World),
      Machine.execute s depth w code self other = some w' →
        w'.callDepth = w.callDepth ∧ w'.self = w.self ∧ w'.other = w.other ∧
          w'.event = w.event) ∧
      ∀ w, Occurs s w → w.callDepth ≤ maxCallDepth := by
  refine ⟨fun depth w code self other w' h => ?_, fun w hw => hw.callDepth_le⟩
  have hc := Machine.keepsContext_execute s depth w code self other w' h
  simp only [World.context, Context.mk.injEq] at hc
  obtain ⟨hevent, hself, hother, hdepth⟩ := hc
  exact ⟨hdepth, hself, hother, hevent⟩

/-- A run that comes to an end, and calls that are nested as deep as they may be. -/
theorem context_bracketed_farewell :
    (∃ w', Machine.execute Machine.farewellSetup 1 Machine.farewellWorld 0 100001 none = some w' ∧
      w'.callDepth = 0 ∧ w'.self = none ∧ w'.other = none ∧ w'.event = none) ∧
      ∃ w, Occurs Machine.farewellSetup w ∧ w.callDepth = maxCallDepth ∧
        w.callDepth ≤ maxCallDepth := by
  have hsome :
      (Machine.execute Machine.farewellSetup 1 Machine.farewellWorld 0 100001 none).isSome := by
    decide +kernel
  obtain ⟨w', hw'⟩ := Option.isSome_iff_exists.mp hsome
  obtain ⟨w, hw, hdepth⟩ := Occurs.exists_callDepth Machine.farewellSetup le_rfl
  obtain ⟨hrun, hnested⟩ := context_bracketed Machine.farewellSetup
  exact ⟨⟨w', hw', hrun _ _ _ _ _ _ hw'⟩, w, hw, hdepth, hnested w hw⟩

end GameRunner

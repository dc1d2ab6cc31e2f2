import GameRunner.Proofs.Event.Inheritance
import GameRunner.Proofs.Library.Tame
import GameRunner.Proofs.Play.Context

/-!
# The limit of instructions only guards

An entry that takes more instructions than the settings allow is cut off. This is all that the limit
does: whatever comes of a game without any entry being cut off, also comes of it under any larger
limit, and in the same way. An entry is cut off only if it has instructions left when the limit is
reached; one that ends with its last allowed instruction is not.
-/

namespace GameRunner

/-- Code that is run never lowers the number of entries that were cut off. -/
abbrev Exec.CountsUp (exec : Exec) : Prop := exec.Keeps fun w v => w.cutOff ≤ v.cutOff

/-- A run of code in which no entry is cut off comes out the same in another way to run code. -/
def Exec.AgreesUncut (exec exec' : Exec) : Prop :=
  ∀ w code self other v, exec w code self other = some v → v.cutOff = w.cutOff →
    exec' w code self other = some v

namespace Activity

variable {E : World → World → Prop} {α : Type} {p : α → World} {w : World} {m : Exec → Option α}
  {exec exec' : Exec}

theorem cutOff_le (hE : ∀ w v, E w v → w.cutOff ≤ v.cutOff) (hexec : exec.CountsUp)
    (h : Activity E p w m) {a : α} (ha : m exec = some a) : w.cutOff ≤ (p a).cutOff :=
  h.rel hE (fun _ _ _ => Nat.le_trans) (fun _ _ => le_rfl) hexec ha

/-- An activity in which no entry is cut off comes out the same if the code it runs does. -/
theorem eq_some_of_uncut (hE : ∀ w v, E w v → w.cutOff ≤ v.cutOff) (hexec : exec.CountsUp)
    (hagree : exec.AgreesUncut exec') (h : Activity E p w m) {a : α} (ha : m exec = some a)
    (hcut : (p a).cutOff = w.cutOff) : m exec' = some a := by
  induction h with
  | done b => exact ha
  | stuck => exact ha
  | act he hm ih =>
    have hfirst := hE _ _ he
    have hrest := hm.cutOff_le hE hexec ha
    exact ih ha (by omega)
  | bind hm hk ihm ihk =>
    obtain ⟨b, hb, ha⟩ := Option.bind_eq_some_iff.mp ha
    have hfirst := hm.cutOff_le hE hexec hb
    have hrest := (hk b).cutOff_le hE hexec ha
    exact Option.bind_eq_some_iff.mpr ⟨b, ihm hb (by omega), ihk b ha (by omega)⟩
  | run code self other => exact hagree _ _ _ _ _ ha hcut
  | during event f _ hf ih =>
    obtain ⟨b, hb, rfl⟩ := Option.map_eq_some_iff.mp ha
    rw [hf] at hcut
    exact congrArg (Option.map f) (ih hb hcut)
  | calling self other f _ hf ih =>
    obtain ⟨b, hb, rfl⟩ := Option.map_eq_some_iff.mp ha
    rw [hf] at hcut
    exact congrArg (Option.map f) (ih hb hcut)
  | deeper f _ _ hf ih =>
    obtain ⟨b, hb, rfl⟩ := Option.map_eq_some_iff.mp ha
    rw [hf] at hcut
    exact congrArg (Option.map f) (ih hb hcut)

end Activity

/-! ### Nothing but the count looks at the limit -/

namespace World

variable (exec : Exec) (s : Setup) (limit : Nat)

theorem callAction_withLimit (w : World) {plan : List Value → Except Fault Action}
    (h : (Builtin.action plan).Tame) (args : List Value) :
    w.callAction exec (s.withLimit limit) plan args = w.callAction exec s plan args := by
  unfold callAction
  cases hplan : plan args with
  | error fault => rfl
  | ok action =>
    dsimp only
    rw [action.perform_withLimit (h args action hplan)]

theorem call_withLimit (w : World) (name : String) (args : List Value) (self other : Int32) :
    w.call exec (s.withLimit limit) name args self other = w.call exec s name args self other := by
  unfold call
  apply congrArg (asCaller (w.reportCall s name args self) self other)
  funext v
  cases hnamed : Builtin.named? name with
  | none => rfl
  | some b =>
    cases b with
    | action plan =>
      exact callAction_withLimit exec s limit v (Builtin.tame_of_named? hnamed) args
    | runScript =>
      cases args with
      | nil => rfl
      | cons index rest =>
        dsimp only
        rw [show scriptTarget? (s.withLimit limit) v index.toInt =
          scriptTarget? s v index.toInt from rfl]
        split
        · exact call_withLimit v _ rest _ _
        · rfl
termination_by args.length

theorem callBuiltin_withLimit (w : World) {b : Builtin} (h : b.Tame) (args : List Value) :
    w.callBuiltin exec (s.withLimit limit) b args = w.callBuiltin exec s b args := by
  cases b with
  | action plan => exact callAction_withLimit exec s limit w h args
  | runScript =>
    cases args with
    | nil => rfl
    | cons index rest =>
      unfold callBuiltin
      dsimp only
      rw [show scriptTarget? (s.withLimit limit) w index.toInt =
        scriptTarget? s w index.toInt from rfl]
      split
      · exact call_withLimit exec s limit w _ rest _ _
      · rfl

end World

namespace Machine

theorem step_withLimit (exec : Exec) (s : Setup) (limit : Nat) (i : Instruction) (f : Frame)
    (w : World) : step exec (s.withLimit limit) i f w = step exec s i f w := by
  have hcall : call exec (s.withLimit limit) i f w = call exec s i f w := by
    unfold call
    simp only [World.call_withLimit]
    rfl
  unfold step
  cases i.op? with
  | none => rfl
  | some op =>
    cases op with
    | call => exact hcall
    | _ => rfl

/-! ### How many instructions an entry takes -/

/-- A run of an entry from a frame on ends after a number of instructions, and not because it is cut
off: it runs past the end, or its last instruction fails or returns. -/
inductive Finishes (exec : Exec) (s : Setup) (code : Code) (name : String) (traced : Bool) :
    Nat → Frame → World → Ending × Frame × World → Prop
  | atEnd {f : Frame} {w : World} : code.instructions[f.pc]? = none →
    Finishes exec s code name traced 0 f w (.completed, f, w)
  | failed {f f' : Frame} {w w' : World} {i : Instruction} {fault : Fault} :
    code.instructions[f.pc]? = some i →
    step exec s i f (reportStep traced name i f w) = some (.error fault, f', w') →
      Finishes exec s code name traced 1 f w (.failed fault, f', w')
  | returned {f f' : Frame} {w w' : World} {i : Instruction} {v : Option Value} :
    code.instructions[f.pc]? = some i →
    step exec s i f (reportStep traced name i f w) = some (.ok (.returned v), f', w') →
      Finishes exec s code name traced 1 f w (.returned v, f', w')
  | more {f f' : Frame} {w w' : World} {n : Nat} {r : Ending × Frame × World} :
    advance exec s name traced code f w = some (f', w') →
    Finishes exec s code name traced n f' w' r → Finishes exec s code name traced (n + 1) f w r

section Counting

variable {exec : Exec} {s : Setup} {code : Code} {name : String} {traced : Bool} {n limit : Nat}
  {f : Frame} {w : World} {r : Ending × Frame × World}

theorem Finishes.runFrame_eq (h : Finishes exec s code name traced n f w r) (hn : n ≤ limit) :
    runFrame exec s code name traced limit f w = some r := by
  induction h generalizing limit with
  | @atEnd f w hend =>
    have hpc : ¬ f.pc < code.size := Nat.not_lt.mpr (Array.getElem?_eq_none_iff.mp hend)
    cases limit with
    | zero => rw [runFrame, if_neg hpc]
    | succ limit => rw [runFrame, hend]
  | failed hi hstep =>
    obtain ⟨limit, rfl⟩ := Nat.exists_eq_add_of_le' hn
    rw [runFrame_succ hi, hstep]
    rfl
  | returned hi hstep =>
    obtain ⟨limit, rfl⟩ := Nat.exists_eq_add_of_le' hn
    rw [runFrame_succ hi, hstep]
    rfl
  | more hadvance _ ih =>
    obtain ⟨limit, rfl⟩ := Nat.exists_eq_add_one_of_ne_zero (Nat.ne_zero_of_lt hn)
    rw [runFrame_of_advance hadvance]
    exact ih (Nat.le_of_succ_le_succ hn)

theorem Finishes.ne_cutOff (h : Finishes exec s code name traced n f w r) : r.1 ≠ .cutOff := by
  induction h with
  | atEnd => exact Ending.noConfusion
  | failed => exact Ending.noConfusion
  | returned => exact Ending.noConfusion
  | more _ _ ih => exact ih

/-- A run finishes within the limit, or it goes on for as many instructions as are allowed and is cut
off before the next one. -/
theorem finishes_or_cutOff (h : runFrame exec s code name traced limit f w = some r) :
    (∃ n ≤ limit, Finishes exec s code name traced n f w r) ∨
      ∃ f' w', advances exec s name traced code limit f w = some (f', w') ∧ f'.pc < code.size ∧
        r = (.cutOff, f', cutOff s name w') := by
  induction limit generalizing f w with
  | zero =>
    unfold runFrame at h
    split_ifs at h with hpc
    · cases h
      exact .inr ⟨f, w, rfl, hpc, rfl⟩
    · cases h
      exact .inl ⟨0, le_rfl, .atEnd (Array.getElem?_eq_none_iff.mpr (Nat.not_lt.mp hpc))⟩
  | succ limit ih =>
    cases hi : code.instructions[f.pc]? with
    | none =>
      rw [runFrame, hi] at h
      cases h
      exact .inl ⟨0, Nat.zero_le _, .atEnd hi⟩
    | some i =>
      rw [runFrame_succ hi] at h
      obtain ⟨⟨outcome, f₁, w₁⟩, hstep, hrest⟩ := Option.bind_eq_some_iff.mp h
      have hgoes (pc : Nat) (u : World)
          (hadvance : advance exec s name traced code f w = some ({ f₁ with pc }, u))
          (hrest : runFrame exec s code name traced limit { f₁ with pc } u = some r) :
          (∃ n ≤ limit + 1, Finishes exec s code name traced n f w r) ∨
            ∃ f' w', advances exec s name traced code (limit + 1) f w = some (f', w') ∧
              f'.pc < code.size ∧ r = (.cutOff, f', cutOff s name w') := by
        rcases ih hrest with ⟨n, hn, hfinishes⟩ | ⟨f', w', hadvances, hr⟩
        · exact .inl ⟨n + 1, Nat.succ_le_succ hn, .more hadvance hfinishes⟩
        · exact .inr ⟨f', w', Option.bind_eq_some_iff.mpr ⟨_, hadvance, hadvances⟩, hr⟩
      cases outcome with
      | error fault =>
        cases hrest
        exact .inl ⟨1, Nat.succ_le_succ (Nat.zero_le _), .failed hi hstep⟩
      | ok signal =>
        cases signal with
        | next => exact hgoes _ _ (by simp [advance, hi, hstep]) hrest
        | branch target => exact hgoes _ _ (by simp [advance, hi, hstep]) hrest
        | skip target => exact hgoes _ _ (by simp [advance, hi, hstep]) hrest
        | returned v =>
          cases hrest
          exact .inl ⟨1, Nat.succ_le_succ (Nat.zero_le _), .returned hi hstep⟩

/-- The runs that are not cut off are those that finish within the limit. -/
theorem runFrame_eq_some_iff : runFrame exec s code name traced limit f w = some r ∧ r.1 ≠ .cutOff ↔
    ∃ n ≤ limit, Finishes exec s code name traced n f w r := by
  constructor
  · rintro ⟨h, hr⟩
    rcases finishes_or_cutOff h with hfinishes | ⟨f', w', -, -, rfl⟩
    · exact hfinishes
    · exact absurd rfl hr
  · rintro ⟨n, hn, hfinishes⟩
    exact ⟨hfinishes.runFrame_eq hn, hfinishes.ne_cutOff⟩

end Counting

/-! ### Larger limits -/

section Larger

variable {exec exec' : Exec} {s : Setup} {code : Code} {name : String} {traced : Bool} {n : Nat}
  {f f' : Frame} {w w' : World} {r : Ending × Frame × World}

/-- The number of entries that were cut off never goes down while an instruction is performed. -/
theorem cutOff_le_step (hexec : exec.CountsUp) {i : Instruction}
    {r : Except Fault Signal × Frame × World} (h : step exec s i f w = some r) :
    w.cutOff ≤ (resultWorld r).cutOff :=
  (activity_step s i f w).cutOff_le (fun _ _ he => he.abides.cutOff) hexec h

theorem cutOff_reportTarget (target : Option Nat) :
    (reportTarget code name target w).cutOff = w.cutOff :=
  (mild_reportTarget code name target w).cutOff

theorem cutOff_reportStep (i : Instruction) :
    (reportStep traced name i f w).cutOff = w.cutOff :=
  (mild_reportStep traced name i f w).cutOff

theorem step_of_uncut (hexec : exec.CountsUp) (hagree : exec.AgreesUncut exec') (limit : Nat)
    {i : Instruction} {r : Except Fault Signal × Frame × World} (h : step exec s i f w = some r)
    (hcut : (resultWorld r).cutOff = w.cutOff) :
    step exec' (s.withLimit limit) i f w = some r := by
  rw [step_withLimit]
  exact (activity_step s i f w).eq_some_of_uncut (fun _ _ he => he.abides.cutOff) hexec hagree h hcut

theorem cutOff_le_advance (hexec : exec.CountsUp)
    (h : advance exec s name traced code f w = some (f', w')) : w.cutOff ≤ w'.cutOff := by
  obtain ⟨i, signal, f₁, w₁, pc, hstep, -, lines, rfl⟩ := exists_step_of_advance h
  have hle := cutOff_le_step hexec hstep
  rw [cutOff_reportStep] at hle
  exact hle

theorem advance_of_uncut (hexec : exec.CountsUp) (hagree : exec.AgreesUncut exec') (limit : Nat)
    (h : advance exec s name traced code f w = some (f', w')) (hcut : w'.cutOff = w.cutOff) :
    advance exec' (s.withLimit limit) name traced code f w = some (f', w') := by
  obtain ⟨i, hi, hsignal⟩ := Option.bind_eq_some_iff.mp h
  have hsame {r : Except Fault Signal × Frame × World}
      (hstep : step exec s i f (reportStep traced name i f w) = some r)
      (hr : (resultWorld r).cutOff = w.cutOff) :
      step exec' (s.withLimit limit) i f (reportStep traced name i f w) = some r := by
    apply step_of_uncut hexec hagree limit hstep
    rw [hr, cutOff_reportStep]
  unfold advance
  rw [hi, Option.bind_some]
  split at hsignal
  · next hstep =>
    cases hsignal
    rw [hsame hstep hcut]
  · next hstep =>
    cases hsignal
    rw [cutOff_reportTarget] at hcut
    rw [hsame hstep hcut]
  · next hstep =>
    cases hsignal
    rw [cutOff_reportTarget] at hcut
    rw [hsame hstep hcut]
  · cases hsignal

theorem cutOff_le_advances (hexec : exec.CountsUp)
    (h : advances exec s name traced code n f w = some (f', w')) : w.cutOff ≤ w'.cutOff := by
  induction n generalizing f w with
  | zero =>
    cases h
    exact le_rfl
  | succ n ih =>
    obtain ⟨⟨f₁, w₁⟩, hadvance, hrest⟩ := Option.bind_eq_some_iff.mp h
    exact (cutOff_le_advance hexec hadvance).trans (ih hrest)

theorem Finishes.cutOff_le (hexec : exec.CountsUp)
    (h : Finishes exec s code name traced n f w r) : w.cutOff ≤ (resultWorld r).cutOff := by
  induction h with
  | atEnd => exact le_rfl
  | failed _ hstep =>
    have hle := cutOff_le_step hexec hstep
    rwa [cutOff_reportStep] at hle
  | returned _ hstep =>
    have hle := cutOff_le_step hexec hstep
    rwa [cutOff_reportStep] at hle
  | more hadvance _ ih => exact (cutOff_le_advance hexec hadvance).trans ih

/-- An entry takes as many instructions under another limit, if no entry in it is cut off. -/
theorem Finishes.of_uncut (hexec : exec.CountsUp) (hagree : exec.AgreesUncut exec') (limit : Nat)
    (h : Finishes exec s code name traced n f w r) (hcut : (resultWorld r).cutOff = w.cutOff) :
    Finishes exec' (s.withLimit limit) code name traced n f w r := by
  induction h with
  | atEnd hend => exact .atEnd hend
  | failed hi hstep =>
    apply Finishes.failed hi
    apply step_of_uncut hexec hagree limit hstep
    rw [cutOff_reportStep]
    exact hcut
  | returned hi hstep =>
    apply Finishes.returned hi
    apply step_of_uncut hexec hagree limit hstep
    rw [cutOff_reportStep]
    exact hcut
  | more hadvance hrest ih =>
    have hfirst := cutOff_le_advance hexec hadvance
    have hlast := hrest.cutOff_le hexec
    apply Finishes.more (advance_of_uncut hexec hagree limit hadvance (by omega))
    exact ih (by omega)

/-- A run in which no entry is cut off, also not this one, comes out the same under a larger limit. -/
theorem runFrame_of_uncut (hexec : exec.CountsUp) (hagree : exec.AgreesUncut exec') (limit' : Nat)
    {limit : Nat} (hle : n ≤ limit)
    (h : runFrame exec s code name traced n f w = some r)
    (hcut : (resultWorld r).cutOff = w.cutOff) :
    runFrame exec' (s.withLimit limit') code name traced limit f w = some r := by
  rcases finishes_or_cutOff h with ⟨m, hm, hfinishes⟩ | ⟨f', w', hadvances, -, rfl⟩
  · exact (hfinishes.of_uncut hexec hagree limit' hcut).runFrame_eq (hm.trans hle)
  · have hbefore := cutOff_le_advances hexec hadvances
    change w'.cutOff + 1 = w.cutOff at hcut
    omega

theorem cutOff_endEntry (c : Code) (name : String) (r : Ending × Frame × World) :
    (endEntry c name r).cutOff = (resultWorld r).cutOff := by
  rcases r with ⟨ending, f, v⟩
  cases ending with
  | failed fault => exact (Mild.log v .error _).cutOff
  | _ => rfl

/-- An entry in which none is cut off, also not itself, comes to the same under a larger limit. -/
theorem runEntry_of_uncut (hexec : exec.CountsUp) (hagree : exec.AgreesUncut exec') {limit : Nat}
    (hle : s.settings.maxInstructions ≤ limit) {v : World} {code self : Int32}
    {other : Option Int32} (h : runEntry exec s w code self other = some v)
    (hcut : v.cutOff = w.cutOff) : runEntry exec' (s.withLimit limit) w code self other = some v := by
  cases hc : s.program.code? code with
  | none =>
    simp only [runEntry, hc] at h
    simp only [runEntry, Setup.withLimit, hc]
    exact h
  | some c =>
    cases hne : c.isEmpty with
    | true =>
      simp only [runEntry, hc, hne, if_true] at h
      simp only [runEntry, Setup.withLimit, hc, hne, if_true]
      exact h
    | false =>
      rw [runEntry_eq hc hne] at h
      obtain ⟨r, hr, rfl⟩ := Option.map_eq_some_iff.mp h
      rw [cutOff_endEntry] at hcut
      have hrun := runFrame_of_uncut hexec hagree limit hle hr hcut
      rw [runEntry_eq (s := s.withLimit limit) hc hne]
      exact Option.map_eq_some_iff.mpr ⟨r, hrun, rfl⟩

theorem countsUp_execute (s : Setup) (depth : Nat) : (execute s depth).CountsUp :=
  keeps_execute (fun _ _ he => he.abides.cutOff) (fun _ _ _ => Nat.le_trans) (fun _ _ => le_rfl) depth

/-- Running code in which no entry is cut off comes to the same under a larger limit. -/
theorem agreesUncut_execute {limit : Nat} (hle : s.settings.maxInstructions ≤ limit) (depth : Nat) :
    (execute s depth).AgreesUncut (execute (s.withLimit limit) depth) := by
  induction depth with
  | zero =>
    intro w code self other v h
    cases h
  | succ depth ih =>
    intro w code self other v h hcut
    exact runEntry_of_uncut (countsUp_execute s depth) ih hle h hcut

end Larger

end Machine

namespace Operation

/-- A library function that is called directly is one that the library has. -/
def FromLibrary : Operation → Prop
  | .callBuiltin b _ => ∃ name, (name, b) ∈ Builtin.library
  | _ => True

theorem run_withLimit {op : Operation} (h : op.FromLibrary) (exec : Exec) (s : Setup) (limit : Nat)
    (w : World) : op.run exec (s.withLimit limit) w = op.run exec s w := by
  cases op with
  | instruction i f =>
    exact congrArg (Option.map Machine.resultWorld) (Machine.step_withLimit exec s limit i f w)
  | call name args self other =>
    exact congrArg (Option.map Prod.snd) (World.call_withLimit exec s limit w name args self other)
  | callBuiltin b args =>
    obtain ⟨name, hname⟩ := h
    have hb : b.Tame := Builtin.allTame_library (name, b) hname
    exact congrArg (Option.map Prod.snd) (World.callBuiltin_withLimit exec s limit w hb args)
  | _ => rfl

/-- Whatever is done without any entry being cut off is done in the same way under a larger
limit. -/
theorem run_of_uncut {op : Operation} (hop : op.FromLibrary) {s : Setup} {limit : Nat}
    (hle : s.settings.maxInstructions ≤ limit) {depth : Nat} {w v : World}
    (h : op.run (Machine.execute s depth) s w = some v) (hcut : v.cutOff = w.cutOff) :
    op.run (Machine.execute (s.withLimit limit) depth) (s.withLimit limit) w = some v := by
  rw [run_withLimit hop]
  exact (op.activity_counting s w).eq_some_of_uncut (fun _ _ he => he.2)
    (Machine.countsUp_execute s depth) (Machine.agreesUncut_execute hle depth) h hcut

end Operation

/-- The limit of instructions only guards. What an operation comes to, with all the code that is run
in it, is the same under a larger limit if no entry was cut off under the smaller one. And an entry
goes on to its own end if and only if it takes no more instructions than the limit, so that one which
takes just as many is not cut off. -/
theorem limit_only_guards (s : Setup) {n m : Nat} (hle : n ≤ m) :
    (∀ op : Operation, op.FromLibrary → ∀ (depth : Nat) (w v : World),
      op.run (Machine.execute (s.withLimit n) depth) (s.withLimit n) w = some v →
        v.cutOff = w.cutOff →
          op.run (Machine.execute (s.withLimit m) depth) (s.withLimit m) w = some v) ∧
      ∀ (exec : Exec) (code : Code) (name : String) (traced : Bool) (f : Frame) (w : World)
        (r : Ending × Frame × World),
        Machine.runFrame exec s code name traced n f w = some r ∧ r.1 ≠ .cutOff ↔
          ∃ k ≤ n, Machine.Finishes exec s code name traced k f w r := by
  constructor
  · intro op hop depth w v h hcut
    exact Operation.run_of_uncut (s := s.withLimit n) hop hle h hcut
  · intro exec code name traced f w r
    exact Machine.runFrame_eq_some_iff

/-- An event of three instructions under a limit of three, and of ten. -/
theorem limit_only_guards_farewell :
    3 ≤ 10 ∧ ∃ v,
      Machine.execute (Machine.farewellSetup.withLimit 3) 1 Machine.farewellWorld 0 100001 none =
          some v ∧
        v.cutOff = 0 ∧
        Machine.execute (Machine.farewellSetup.withLimit 10) 1 Machine.farewellWorld 0 100001 none =
          some v := by
  have hsome : (Machine.execute (Machine.farewellSetup.withLimit 3) 1 Machine.farewellWorld 0 100001
      none).isSome := by
    decide +kernel
  have hcut : ∀ v ∈ Machine.execute (Machine.farewellSetup.withLimit 3) 1 Machine.farewellWorld 0
      100001 none, v.cutOff = 0 := by
    decide +kernel
  obtain ⟨v, hv⟩ := Option.isSome_iff_exists.mp hsome
  obtain ⟨hsame, -⟩ := limit_only_guards Machine.farewellSetup (show 3 ≤ 10 by decide)
  exact ⟨by decide, v, hv, hcut v hv, hsame (.execute 0 100001 none) trivial 1 _ v hv (hcut v hv)⟩

end GameRunner

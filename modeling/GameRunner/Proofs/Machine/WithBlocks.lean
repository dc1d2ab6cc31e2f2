import GameRunner.Proofs.Machine.FrameLaw

/-!
# Self and other within `with` blocks

Who is self and who is other while an entry runs is told by the open blocks alone: self is the
instance that the innermost block is at, and other is the self outside of it. An instruction opens a
block, takes the innermost one to a later instance, closes it, or leaves all of them as they are. So
this holds after any sequence of instructions, however they jump into blocks and out of them, and
each open block is at one of the instances that were selected when it was opened.
-/

namespace GameRunner

namespace Frame

/-- What a frame knows of the blocks around it. -/
def surroundings (f : Frame) : List WithBlock × Int32 × Int32 := (f.blocks, f.self, f.other)

theorem blocks_eq {f : Frame} {around : List WithBlock × Int32 × Int32}
    (h : f.surroundings = around) : f.blocks = around.1 := congrArg Prod.fst h

/-- A frame after work on the stack and the local variables. -/
def Works (f f' : Frame) : Prop := ∃ stack locals, f' = { f with stack, locals }

namespace Works

variable {f f' f'' : Frame}

theorem refl (f : Frame) : f.Works f := ⟨f.stack, f.locals, rfl⟩

theorem trans (h : f.Works f') (h' : f'.Works f'') : f.Works f'' := by
  obtain ⟨stack, locals, rfl⟩ := h
  obtain ⟨stack', locals', rfl⟩ := h'
  exact ⟨stack', locals', rfl⟩

theorem of_stack (f : Frame) (stack : List Value) : f.Works { f with stack } :=
  ⟨stack, f.locals, rfl⟩

theorem surroundings (h : f.Works f') : f'.surroundings = f.surroundings := by
  obtain ⟨stack, locals, rfl⟩ := h
  rfl

theorem entrySelf (h : f.Works f') : f'.entrySelf = f.entrySelf := by
  obtain ⟨stack, locals, rfl⟩ := h
  rfl

end Works

theorem works_popMany (n : Nat) (f : Frame) : f.Works (popMany n f).2 := by
  induction n generalizing f with
  | zero => exact .refl f
  | succ n ih => exact (Works.of_stack f f.stack.tail).trans (ih f.drop)

theorem works_popAddress (f : Frame) (i : Instruction) : f.Works (f.popAddress i).2 := by
  unfold popAddress
  split_ifs
  · exact .of_stack f _
  · exact .refl f

theorem works_read (g : Game) (w : World) (f : Frame) (i : Instruction) (given : Option Int32) :
    f.Works (f.read g w i given).2 := by
  unfold read
  split
  · exact .refl f
  · refine (works_popAddress f i).trans ?_
    dsimp only
    split_ifs
    · exact .of_stack _ _
    · exact .refl _
    · exact .refl _
    · exact .of_stack _ _
    · exact .refl _

theorem works_writeLocal (f : Frame) (var : Variable) (v : Value) (a : Option Address) :
    f.Works (f.writeLocal var v a) := by
  cases a with
  | none => exact ⟨_, _, rfl⟩
  | some a => exact ⟨_, _, rfl⟩

theorem works_write (g : Game) (w : World) (f : Frame) (i : Instruction) :
    f.Works (f.write g w i).1 := by
  unfold write
  split
  · exact .of_stack f _
  · refine (works_popAddress f i).trans ?_
    dsimp only
    split_ifs
    · split <;> exact .of_stack _ _
    · exact (Works.of_stack _ _).trans (works_writeLocal ..)
    · exact .of_stack _ _
    · split <;> exact .of_stack _ _
    · exact .of_stack _ _

/-- What an instruction can do to the open blocks. -/
inductive Reframes (g : Game) (i : Instruction) (w : World) (f f' : Frame) : Prop
  | keeps : f'.surroundings = f.surroundings → Reframes g i w f f'
  | opens (first : Int32) (rest : List Int32) :
    i.op? = some .pushenv → w.select g f.top.toInt f.self f.other = first :: rest →
      f'.surroundings = (⟨first, rest, f.self, f.other⟩ :: f.blocks, first, f.self) →
        Reframes g i w f f'
  | moves (block : WithBlock) (outer : List WithBlock) (next : Int32) (rest : List Int32) :
    f.blocks = block :: outer → next :: rest <:+ block.rest →
      f'.surroundings = ({ block with current := next, rest } :: outer, next, f.other) →
        Reframes g i w f f'
  | closes (block : WithBlock) (outer : List WithBlock) :
    f.blocks = block :: outer →
      f'.surroundings = (outer, block.outerSelf, block.outerOther) → Reframes g i w f f'

end Frame

namespace Machine

variable {exec : Exec} {s : Setup} {i : Instruction} {f f' : Frame} {w w' : World}
  {outcome : Except Fault Signal}

theorem reframes_branchIf {g : Game} {truth : Bool}
    (h : branchIf truth i f w = some (outcome, f', w')) : f.Reframes g i w f' := by
  unfold branchIf at h
  dsimp only at h
  split_ifs at h <;> cases h <;> exact .keeps rfl

theorem reframes_pushEnv {g : Game} (hop : i.op? = some .pushenv)
    (h : pushEnv g i f w = some (outcome, f', w')) : f.Reframes g i w f' := by
  unfold pushEnv at h
  dsimp only at h
  split at h
  · cases h
    exact .keeps rfl
  · next first rest hselect =>
    cases h
    exact .opens first rest hop hselect rfl

theorem reframes_popEnv {g : Game} (h : popEnv i f w = some (outcome, f', w')) :
    f.Reframes g i w f' := by
  unfold popEnv at h
  split at h
  · cases h
    exact .keeps rfl
  · next block outer hblocks =>
    dsimp only at h
    split at h
    · next next rest hnext =>
      cases h
      refine .moves block outer next rest hblocks ?_ rfl
      rw [← hnext]
      exact List.dropWhile_suffix _
    · cases h
      exact .closes block outer hblocks rfl

theorem reframes_push {g : Game} (h : push g i f w = some (outcome, f', w')) :
    f.Reframes g i w f' := by
  unfold push at h
  split at h
  · cases h
    exact .keeps rfl
  · cases h
    exact .keeps (Frame.works_read ..).surroundings

theorem reframes_call {g : Game} (h : call exec s i f w = some (outcome, f', w')) :
    f.Reframes g i w f' := by
  have hargs := (Frame.works_popMany i.argCount f).surroundings
  unfold call at h
  dsimp only at h
  split at h
  · cases h
    exact .keeps hargs
  · split at h
    · cases h
    · cases h
      exact .keeps hargs
    · cases h
      exact .keeps hargs

theorem reframes_ret {g : Game} (h : ret f w = some (outcome, f', w')) : f.Reframes g i w f' := by
  unfold ret at h
  split at h <;> cases h <;> exact .keeps rfl

/-- One case for each operation that does more than work on the stack. -/
theorem reframes_step (h : step exec s i f w = some (outcome, f', w')) :
    f.Reframes s.game i w f' := by
  unfold step at h
  split at h
  · cases h
    exact .keeps rfl
  · next op hop =>
    cases op with
    | pop =>
      cases h
      exact .keeps (Frame.works_write ..).surroundings
    | ret => exact reframes_ret h
    | bt => exact reframes_branchIf h
    | bf => exact reframes_branchIf h
    | pushenv => exact reframes_pushEnv hop h
    | popenv => exact reframes_popEnv h
    | push => exact reframes_push h
    | pushloc | pushglb | pushbltn =>
      cases h
      exact .keeps (Frame.works_read ..).surroundings
    | call => exact reframes_call h
    | _ =>
      cases h
      exact .keeps rfl

/-- An instruction leaves alone on which instance the entry was started. -/
theorem entrySelf_of_step (h : step exec s i f w = some (outcome, f', w')) :
    f'.entrySelf = f.entrySelf := by
  unfold step at h
  split at h
  · cases h
    rfl
  · next op _ =>
    cases op with
    | pop =>
      cases h
      exact (Frame.works_write ..).entrySelf
    | ret =>
      dsimp only at h
      unfold ret at h
      split at h <;> cases h <;> rfl
    | bt | bf =>
      dsimp only at h
      unfold branchIf at h
      dsimp only at h
      split_ifs at h <;> cases h <;> rfl
    | pushenv =>
      dsimp only at h
      unfold pushEnv at h
      dsimp only at h
      split at h <;> cases h <;> rfl
    | popenv =>
      dsimp only at h
      unfold popEnv at h
      split at h
      · cases h
        rfl
      · dsimp only at h
        split at h <;> cases h <;> rfl
    | push =>
      dsimp only at h
      unfold push at h
      split at h
      · cases h
        rfl
      · cases h
        exact (Frame.works_read ..).entrySelf
    | pushloc | pushglb | pushbltn =>
      cases h
      exact (Frame.works_read ..).entrySelf
    | call =>
      have hargs := (Frame.works_popMany i.argCount f).entrySelf
      dsimp only at h
      unfold call at h
      dsimp only at h
      split at h
      · cases h
        exact hargs
      · split at h <;> cases h <;> exact hargs
    | _ =>
      cases h
      rfl

end Machine

namespace Frame

/-- Self and other are those that the open blocks tell, in an entry that was started on the given
ones. -/
structure Surrounded (startSelf startOther : Int32) (f : Frame) : Prop where
  outside : f.blocks = [] → f.self = startSelf ∧ f.other = startOther
  innermost : ∀ b ∈ f.blocks.head?, f.self = b.current ∧ f.other = b.outerSelf
  nested : f.blocks.IsChain fun b outer =>
    b.outerSelf = outer.current ∧ b.outerOther = outer.outerSelf
  outermost : ∀ b ∈ f.blocks.getLast?, b.outerSelf = startSelf ∧ b.outerOther = startOther

namespace Surrounded

variable {startSelf startOther : Int32} {f f' : Frame}

theorem start (code self other : Int32) : (start code self other).Surrounded self other where
  outside _ := ⟨rfl, rfl⟩
  innermost := by simp [Frame.start]
  nested := by simp [Frame.start]
  outermost := by simp [Frame.start]

theorem congr (h : f.Surrounded startSelf startOther) (hf : f'.surroundings = f.surroundings) :
    f'.Surrounded startSelf startOther := by
  simp only [surroundings, Prod.mk.injEq] at hf
  obtain ⟨hblocks, hself, hother⟩ := hf
  constructor
  · rw [hblocks, hself, hother]
    exact h.outside
  · rw [hblocks, hself, hother]
    exact h.innermost
  · rw [hblocks]
    exact h.nested
  · rw [hblocks]
    exact h.outermost

theorem opens (h : f.Surrounded startSelf startOther) {first : Int32} {rest : List Int32}
    (hf' : f'.surroundings = (⟨first, rest, f.self, f.other⟩ :: f.blocks, first, f.self)) :
    f'.Surrounded startSelf startOther := by
  simp only [surroundings, Prod.mk.injEq] at hf'
  obtain ⟨hblocks, hself, hother⟩ := hf'
  obtain ⟨houtside, hinnermost, hnested, houtermost⟩ := h
  constructor
  · simp [hblocks]
  · simp [hblocks, hself, hother]
  · rw [hblocks]
    cases hf : f.blocks with
    | nil => simp
    | cons b outer =>
      rw [hf] at hinnermost hnested
      exact .cons_cons (hinnermost b rfl) hnested
  · rw [hblocks]
    cases hf : f.blocks with
    | nil => simpa using houtside hf
    | cons b outer =>
      rw [hf] at houtermost
      simpa [List.getLast?_cons] using houtermost

theorem moves (h : f.Surrounded startSelf startOther) {block : WithBlock} {outer : List WithBlock}
    {next : Int32} {rest : List Int32} (hf : f.blocks = block :: outer)
    (hf' : f'.surroundings = ({ block with current := next, rest } :: outer, next, f.other)) :
    f'.Surrounded startSelf startOther := by
  simp only [surroundings, Prod.mk.injEq] at hf'
  obtain ⟨hblocks, hself, hother⟩ := hf'
  obtain ⟨-, hinnermost, hnested, houtermost⟩ := h
  rw [hf] at hinnermost hnested houtermost
  constructor
  · simp [hblocks]
  · simpa [hblocks, hself, hother] using (hinnermost block rfl).2
  · rw [hblocks]
    cases outer with
    | nil => simp
    | cons b outer =>
      obtain ⟨hb, hnested⟩ := List.isChain_cons_cons.mp hnested
      exact .cons_cons hb hnested
  · rw [hblocks]
    cases outer with
    | nil => simpa using houtermost
    | cons b outer => simpa [List.getLast?_cons] using houtermost

theorem closes (h : f.Surrounded startSelf startOther) {block : WithBlock} {outer : List WithBlock}
    (hf : f.blocks = block :: outer)
    (hf' : f'.surroundings = (outer, block.outerSelf, block.outerOther)) :
    f'.Surrounded startSelf startOther := by
  simp only [surroundings, Prod.mk.injEq] at hf'
  obtain ⟨hblocks, hself, hother⟩ := hf'
  obtain ⟨-, -, hnested, houtermost⟩ := h
  rw [hf] at hnested houtermost
  cases outer with
  | nil =>
    constructor
    · intro _
      simpa [hself, hother] using houtermost
    · simp [hblocks]
    · simp [hblocks]
    · simp [hblocks]
  | cons b outer =>
    obtain ⟨hb, hnested⟩ := List.isChain_cons_cons.mp hnested
    constructor
    · simp [hblocks]
    · simpa [hblocks, hself, hother] using hb
    · rwa [hblocks]
    · simpa [hblocks, List.getLast?_cons] using houtermost

/-- What one instruction can do keeps self and other in line with the blocks. -/
theorem reframes {g : Game} {i : Instruction} {w : World} (h : f.Surrounded startSelf startOther)
    (hf : f.Reframes g i w f') : f'.Surrounded startSelf startOther := by
  cases hf with
  | keeps hsame => exact h.congr hsame
  | opens first rest _ _ hnew => exact h.opens hnew
  | moves block outer next rest hblocks _ hnew => exact h.moves hblocks hnew
  | closes block outer hblocks hnew => exact h.closes hblocks hnew

end Surrounded

/-! ### Sequences of instructions -/

/-- An instruction that is performed, with the frame and the world it finds. -/
structure Moment where
  instruction : Instruction
  frame : Frame
  world : World

/-- The instances that the `with` block of a moment is to visit. -/
def Moment.selection (g : Game) (m : Moment) : List Int32 :=
  m.world.select g m.frame.top.toInt m.frame.self m.frame.other

/-- A block that was opened at a moment is at one of the instances selected then, and those behind
it are still to come. -/
structure OpenedAt (g : Game) (m : Moment) (b : WithBlock) : Prop where
  op : m.instruction.op? = some .pushenv
  outerSelf : b.outerSelf = m.frame.self
  outerOther : b.outerOther = m.frame.other
  place : ∃ index < (m.selection g).length, (m.selection g).drop index = b.current :: b.rest

/-- The frames that instructions can lead to, with what has been performed, the latest first. What
comes next may be any instruction at any position, and in the meantime the world may have become any
other. -/
inductive Reached (s : Setup) (start : Frame) : List Moment → Frame → Prop
  | start : Reached s start [] start
  | step {exec : Exec} {history : List Moment} {i : Instruction} {f f' : Frame} {w w' : World}
    {outcome : Except Fault Signal} (pc : Nat) : Reached s start history f →
      Machine.step exec s i f w = some (outcome, f', w') →
        Reached s start (⟨i, f, w⟩ :: history) { f' with pc }

theorem OpenedAt.moves {g : Game} {m : Moment} {b : WithBlock} (h : OpenedAt g m b) {next : Int32}
    {rest : List Int32} (hrest : next :: rest <:+ b.rest) :
    OpenedAt g m { b with current := next, rest } := by
  obtain ⟨index, -, hindex⟩ := h.place
  obtain ⟨passed, hpassed⟩ := hrest
  have hdrop : (m.selection g).drop (index + (1 + passed.length)) = next :: rest := by
    rw [← List.drop_drop, hindex, ← hpassed, Nat.add_comm, List.drop_succ_cons, List.drop_left]
  refine ⟨h.op, h.outerSelf, h.outerOther, _, ?_, hdrop⟩
  by_contra hlong
  rw [List.drop_eq_nil_of_le (Nat.not_lt.mp hlong)] at hdrop
  cases hdrop

theorem Reached.surrounded {s : Setup} {code self other : Int32} {history : List Moment} {f : Frame}
    (h : Reached s (.start code self other) history f) : f.Surrounded self other := by
  induction h with
  | start => exact .start code self other
  | step pc _ hstep ih => exact (ih.reframes (Machine.reframes_step hstep)).congr rfl

/-- Every block is at one of the instances that an instruction selected when it opened the block. -/
theorem Reached.exists_openedAt {s : Setup} {start : Frame} (hstart : start.blocks = [])
    {history : List Moment} {f : Frame} (h : Reached s start history f) :
    ∀ b ∈ f.blocks, ∃ m ∈ history, OpenedAt s.game m b := by
  induction h with
  | start => simp [hstart]
  | @step exec history i f f' w w' outcome pc _ hstep ih =>
    intro b hb
    have hearlier (b : WithBlock) (hb : b ∈ f.blocks) :
        ∃ m ∈ (⟨i, f, w⟩ : Moment) :: history, OpenedAt s.game m b := by
      obtain ⟨m, hm, hopened⟩ := ih b hb
      exact ⟨m, List.mem_cons_of_mem _ hm, hopened⟩
    change b ∈ f'.blocks at hb
    cases Machine.reframes_step hstep with
    | keeps hsame =>
      rw [blocks_eq hsame] at hb
      exact hearlier b hb
    | opens first rest hop hselect hnew =>
      rw [blocks_eq hnew] at hb
      rcases List.mem_cons.mp hb with rfl | hb
      · refine ⟨_, List.mem_cons_self, hop, rfl, rfl, 0, ?_, hselect⟩
        rw [Moment.selection, hselect]
        exact Nat.succ_pos _
      · exact hearlier b hb
    | moves block outer next rest hblocks hrest hnew =>
      rw [blocks_eq hnew] at hb
      rcases List.mem_cons.mp hb with rfl | hb
      · obtain ⟨m, hm, hopened⟩ := hearlier block (by simp [hblocks])
        exact ⟨m, hm, hopened.moves hrest⟩
      · exact hearlier b (by simp [hblocks, hb])
    | closes block outer hblocks hnew =>
      rw [blocks_eq hnew] at hb
      exact hearlier b (by simp [hblocks, hb])

/-- Wherever a run of an entry ends or is cut off, its instructions have led there. -/
theorem Reached.runFrame {s : Setup} {start f f' : Frame} {history : List Moment} {exec : Exec}
    {code : Code} {name : String} {traced : Bool} {n : Nat} {w w' : World} {ending : Ending}
    (h : Reached s start history f)
    (hrun : Machine.runFrame exec s code name traced n f w = some (ending, f', w')) :
    ∃ history', Reached s start history' f' := by
  induction n generalizing history f w with
  | zero =>
    unfold Machine.runFrame at hrun
    split_ifs at hrun <;> cases hrun <;> exact ⟨history, h⟩
  | succ n ih =>
    cases hi : code.instructions[f.pc]? with
    | none =>
      simp only [Machine.runFrame, hi] at hrun
      cases hrun
      exact ⟨history, h⟩
    | some i =>
      rw [Machine.runFrame_succ hi] at hrun
      obtain ⟨⟨outcome, f₁, w₁⟩, hstep, hrest⟩ := Option.bind_eq_some_iff.mp hrun
      have hreached (pc : Nat) := Reached.step pc h hstep
      rcases outcome with fault | signal
      · cases hrest
        exact ⟨_, hreached f'.pc⟩
      · cases signal with
        | next => exact ih (hreached _) hrest
        | branch target => exact ih (hreached _) hrest
        | skip target => exact ih (hreached _) hrest
        | returned v =>
          cases hrest
          exact ⟨_, hreached f'.pc⟩

/-- However instructions follow each other, the open blocks tell who self and other are: those the
entry was started on outside of all blocks, and within a block the instance it is at and the self
outside of it. Each block is at one of the instances selected when it was opened. -/
theorem reached_surrounded {s : Setup} {code self other : Int32} {history : List Moment} {f : Frame}
    (h : Reached s (.start code self other) history f) :
    f.Surrounded self other ∧ ∀ b ∈ f.blocks, ∃ m ∈ history, OpenedAt s.game m b :=
  ⟨h.surrounded, h.exists_openedAt rfl⟩

/-- Visits all instances, and within each visit the outer self. -/
def roundTrip : Code :=
  ⟨#[(Statement.pushImmediate (-3)).instruction 0, (Statement.branch .pushenv 4).instruction 4,
    (Statement.pushImmediate (-2)).instruction 8, (Statement.branch .pushenv 1).instruction 12,
    (Statement.branch .popenv 0).instruction 16, (Statement.branch .popenv (-3)).instruction 20]⟩

/-- Eight instructions after the start, the second instance is visited, and within this visit the
first one. -/
theorem reached_surrounded_roundTrip :
    ∃ history f, Reached Machine.farewellSetup (.start 0 100001 100001) history f ∧
      f.blocks.map (fun b => (b.current, b.outerSelf)) = [(100001, 100002), (100002, 100001)] ∧
      f.self = 100001 ∧ f.other = 100002 ∧ f.Surrounded 100001 100001 ∧
      ∀ b ∈ f.blocks, ∃ m ∈ history, OpenedAt Machine.farewellSetup.game m b := by
  have hrun : ∀ r ∈ Machine.runFrame (fun _ _ _ _ => none) Machine.farewellSetup roundTrip "" false 8
      (.start 0 100001 100001) Machine.farewellWorld,
      r.2.1.blocks.map (fun b => (b.current, b.outerSelf)) =
        [(100001, 100002), (100002, 100001)] ∧ r.2.1.self = 100001 ∧ r.2.1.other = 100002 := by
    decide +kernel
  have hsome : (Machine.runFrame (fun _ _ _ _ => none) Machine.farewellSetup roundTrip "" false 8
      (.start 0 100001 100001) Machine.farewellWorld).isSome := by
    decide +kernel
  obtain ⟨⟨ending, f, w⟩, hend⟩ := Option.isSome_iff_exists.mp hsome
  obtain ⟨hblocks, hself, hother⟩ := hrun _ hend
  obtain ⟨history, hreached⟩ := Reached.runFrame .start hend
  obtain ⟨hsurrounded, hopened⟩ := reached_surrounded hreached
  exact ⟨history, f, hreached, hblocks, hself, hother, hsurrounded, hopened⟩

end Frame

end GameRunner

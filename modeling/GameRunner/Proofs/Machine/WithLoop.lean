import GameRunner.Proofs.Machine.Faults
import GameRunner.Proofs.Machine.WithBlocks
import GameRunner.Proofs.World.Selection

/-!
# Loops over instances

A `with` loop is an instruction that opens a block, a body, and an instruction at the end of the body
that takes the block to the next instance or closes it. What the loop is meant to do is said without
jumps and blocks: each instance that was selected at the start has its turn, in order, and if it is
still live then, the body is run with it as self and the outer self as other. A run of the entry that
comes to the loop does exactly this, and then goes on behind the loop with self, other and the outer
blocks as they were.
-/

namespace GameRunner

namespace Machine

/-- A loop in a code entry: the positions of the instructions that open and close its block, each of
which branches to the other end of the body. -/
structure WithLoop (code : Code) where
  start : Nat
  last : Nat
  opening : Instruction
  closing : Instruction
  start_lt_last : start < last
  opening_at : code.instructions[start]? = some opening
  closing_at : code.instructions[last]? = some closing
  opening_op : opening.op? = some .pushenv
  closing_op : closing.op? = some .popenv
  opening_target : positionOf code opening.branchTarget? = some last
  closing_target : positionOf code closing.branchTarget? = some (start + 1)

/-- A run of the body: the frame and the world at its start. -/
structure Visit where
  frame : Frame
  world : World

section Meaning

variable (exec : Exec) (s : Setup) {code : Code} (name : String) (traced : Bool)

/-- One instruction of a run that goes on after it. -/
def advance (code : Code) (f : Frame) (w : World) : Option (Frame × World) :=
  (code.instructions[f.pc]?).bind fun i =>
    match step exec s i f (reportStep traced name i f w) with
    | some (.ok .next, f, w) => some ({ f with pc := f.pc + 1 }, w)
    | some (.ok (.branch target), f, w) =>
      some ({ f with pc := landing code target }, reportTarget code name target w)
    | some (.ok (.skip target), f, w) =>
      some ({ f with pc := landingPast code target }, reportTarget code name target w)
    | _ => none

namespace WithLoop

variable (loop : WithLoop code)

/-- Runs the body up to its end, with the number of instructions that are allowed. There is no result
if the body is left in another way, fails, or takes more instructions. -/
def runBody : Nat → Frame → World → Option (Nat × Frame × World)
  | 0, f, w => if f.pc = loop.last then some (0, f, w) else none
  | n + 1, f, w =>
    if f.pc = loop.last then some (n + 1, f, w)
    else if loop.start < f.pc ∧ f.pc < loop.last then
      (advance exec s name traced code f w).bind fun r => runBody n r.1 r.2
    else none

/-- The frame in which the body is run on an instance, for a loop in an outer frame. -/
def enter (outer : Frame) (id : Int32) (rest : List Int32) (f : Frame) : Frame :=
  { f with
    pc := loop.start + 1
    self := id
    other := outer.self
    blocks := ⟨id, rest, outer.self, outer.other⟩ :: outer.blocks }

def leave (outer : Frame) (f : Frame) : Frame :=
  { f with
    pc := loop.last + 1
    self := outer.self
    other := outer.other
    blocks := outer.blocks }

/-- Gives instances their turns: the body is run for each that is live then. The visits are listed,
with what is left of the instructions, and the frame and the world behind the loop. There is no
result if a run of the body does not come to its end or leaves other blocks open than it found, or if
there is no instruction left to end it. -/
def turns (outer : Frame) :
    List Int32 → Nat → Frame → World → Option (List Visit × Nat × Frame × World)
  | [], n, f, w => some ([], n, loop.leave outer f, w)
  | id :: rest, n, f, w =>
    if w.isLive id then
      match loop.runBody exec s name traced n (loop.enter outer id rest f) w with
      | some (n + 1, f', w') =>
        if f'.blocks = (loop.enter outer id rest f).blocks then
          (turns outer rest n f' (reportStep traced name loop.closing f' w')).map fun r =>
            (⟨loop.enter outer id rest f, w⟩ :: r.1, r.2)
        else none
      | _ => none
    else turns outer rest n f w

end WithLoop

end Meaning

section Running

variable {exec : Exec} {s : Setup} {code : Code} {name : String} {traced : Bool}
  {startSelf startOther : Int32} {f f' : Frame} {w w' : World}

theorem runFrame_of_advance (h : advance exec s name traced code f w = some (f', w')) (n : Nat) :
    runFrame exec s code name traced (n + 1) f w = runFrame exec s code name traced n f' w' := by
  obtain ⟨i, hi, hstep⟩ := Option.bind_eq_some_iff.mp h
  rw [runFrame_succ hi]
  split at hstep <;> cases hstep <;> simp_all [continueFrame]

/-- A run that goes on has performed an instruction, and nothing else but reports has happened. -/
theorem exists_step_of_advance (h : advance exec s name traced code f w = some (f', w')) :
    ∃ i signal f₁ w₁ pc, step exec s i f (reportStep traced name i f w) = some (.ok signal, f₁, w₁) ∧
      f' = { f₁ with pc } ∧ w₁.OnlyReports w' := by
  obtain ⟨i, -, hstep⟩ := Option.bind_eq_some_iff.mp h
  split at hstep
  · next hs =>
    cases hstep
    exact ⟨i, _, _, _, _, hs, rfl, .refl _⟩
  · next hs =>
    cases hstep
    exact ⟨i, _, _, _, _, hs, rfl, .reportTarget code name _ _⟩
  · next hs =>
    cases hstep
    exact ⟨i, _, _, _, _, hs, rfl, .reportTarget code name _ _⟩
  · cases hstep

theorem surrounded_advance (hf : f.Surrounded startSelf startOther)
    (h : advance exec s name traced code f w = some (f', w')) :
    f'.Surrounded startSelf startOther := by
  obtain ⟨i, signal, f₁, w₁, pc, hstep, rfl, -⟩ := exists_step_of_advance h
  exact (hf.reframes (reframes_step hstep)).congr rfl

theorem reportTarget_of_position {target : Option Nat} {position : Nat}
    (h : positionOf code target = some position) (w : World) :
    reportTarget code name target w = w := by
  simp [reportTarget, h]

theorem landing_of_position {target : Option Nat} {position : Nat}
    (h : positionOf code target = some position) : landing code target = position := by
  simp [landing, h]

theorem landingPast_of_popenv {target : Option Nat} {position : Nat} {i : Instruction}
    (h : positionOf code target = some position) (hi : code.instructions[position]? = some i)
    (hop : i.op? = some .popenv) : landingPast code target = position + 1 := by
  obtain rfl := landing_of_position h
  simp [landingPast, hi, hop]

namespace WithLoop

variable (loop : WithLoop code)

theorem runFrame_runBody {n n' : Nat}
    (h : loop.runBody exec s name traced n f w = some (n', f', w')) :
    runFrame exec s code name traced n f w = runFrame exec s code name traced n' f' w' ∧
      f'.pc = loop.last := by
  induction n generalizing f w with
  | zero =>
    unfold runBody at h
    split_ifs at h with hlast
    cases h
    exact ⟨rfl, hlast⟩
  | succ n ih =>
    unfold runBody at h
    split_ifs at h with hlast hwithin
    · cases h
      exact ⟨rfl, hlast⟩
    · obtain ⟨⟨f₁, w₁⟩, hadvance, hrest⟩ := Option.bind_eq_some_iff.mp h
      rw [runFrame_of_advance hadvance]
      exact ih hrest

theorem surrounded_runBody {n n' : Nat} (hf : f.Surrounded startSelf startOther)
    (h : loop.runBody exec s name traced n f w = some (n', f', w')) :
    f'.Surrounded startSelf startOther := by
  induction n generalizing f w with
  | zero =>
    unfold runBody at h
    split_ifs at h
    cases h
    exact hf
  | succ n ih =>
    unfold runBody at h
    split_ifs at h
    · cases h
      exact hf
    · obtain ⟨⟨f₁, w₁⟩, hadvance, hrest⟩ := Option.bind_eq_some_iff.mp h
      exact ih (surrounded_advance hf hadvance) hrest

section Turns

variable {loop} {outer : Frame} {id : Int32} {rest : List Int32} {n n' : Nat} {visits : List Visit}

theorem turns_of_not_live (h : ¬ w.isLive id = true) :
    loop.turns exec s name traced outer (id :: rest) n f w =
      loop.turns exec s name traced outer rest n f w := by
  rw [turns, if_neg h]

theorem exists_of_turns_eq_some (hlive : w.isLive id = true)
    (h : loop.turns exec s name traced outer (id :: rest) n f w = some (visits, n', f', w')) :
    ∃ m f₁ w₁ later,
      loop.runBody exec s name traced n (loop.enter outer id rest f) w = some (m + 1, f₁, w₁) ∧
      f₁.blocks = (loop.enter outer id rest f).blocks ∧
      loop.turns exec s name traced outer rest m f₁ (reportStep traced name loop.closing f₁ w₁) =
        some (later, n', f', w') ∧
      visits = ⟨loop.enter outer id rest f, w⟩ :: later := by
  rw [turns, if_pos hlive] at h
  split at h
  · next m f₁ w₁ hbody =>
    split_ifs at h with hblocks
    obtain ⟨⟨later, rest⟩, hrest, hr⟩ := Option.map_eq_some_iff.mp h
    cases hr
    exact ⟨m, f₁, w₁, later, hbody, hblocks, hrest, rfl⟩
  · cases h

theorem turns_withBlocks (blocks : List WithBlock) (ids : List Int32) (n : Nat) (f : Frame)
    (w : World) :
    loop.turns exec s name traced outer ids n { f with blocks } w =
      loop.turns exec s name traced outer ids n f w := by
  induction ids with
  | nil => rfl
  | cons id rest ih =>
    rw [turns, turns, ih]
    rfl

/-- A run of the body leads to the instruction at its end; if that leads behind the loop, so does the
body. -/
theorem runFrame_enter (hlive : w.isLive id = true)
    (hentered : (loop.enter outer id rest f).Surrounded startSelf startOther)
    (h : loop.turns exec s name traced outer (id :: rest) n f w = some (visits, n', f', w'))
    (hend : ∀ {f₁ : Frame} {w₁ : World} {m : Nat} {later : List Visit}, f₁.pc = loop.last →
      f₁.Surrounded startSelf startOther → f₁.blocks = (loop.enter outer id rest f).blocks →
      loop.turns exec s name traced outer rest m f₁ w₁ = some (later, n', f', w') →
        (step exec s loop.closing f₁ w₁).bind (continueFrame exec s code name traced m) =
          runFrame exec s code name traced n' f' w') :
    runFrame exec s code name traced n (loop.enter outer id rest f) w =
      runFrame exec s code name traced n' f' w' := by
  obtain ⟨m, f₁, w₁, later, hbody, hkept, hrest, -⟩ := exists_of_turns_eq_some hlive h
  obtain ⟨hrun, hlast⟩ := loop.runFrame_runBody hbody
  have hnext : code.instructions[f₁.pc]? = some loop.closing := hlast ▸ loop.closing_at
  rw [hrun, runFrame_succ hnext]
  exact hend hlast (loop.surrounded_runBody hentered hbody) hkept hrest

/-- The instruction at the end of the body gives the instances that are to come their turns, and
then the run goes on behind the loop. -/
theorem bind_step_closing {ids : List Int32} {current : Int32} (hpc : f.pc = loop.last)
    (hf : f.Surrounded startSelf startOther)
    (hblocks : f.blocks = ⟨current, ids, outer.self, outer.other⟩ :: outer.blocks)
    (h : loop.turns exec s name traced outer ids n f w = some (visits, n', f', w')) :
    (step exec s loop.closing f w).bind (continueFrame exec s code name traced n) =
      runFrame exec s code name traced n' f' w' := by
  have hstep (f : Frame) (w : World) :
      step exec s loop.closing f w = popEnv loop.closing f w := by
    simp only [step, loop.closing_op]
  -- The block gets shorter from one turn to the next, so it is generalized along with the frame.
  induction ids generalizing f w n current visits with
  | nil =>
    cases h
    rw [hstep, popEnv, hblocks]
    simp only [List.dropWhile_nil, proceed, Option.bind_some, continueFrame, leave, hpc]
  | cons id rest ih =>
    obtain ⟨hself, hother⟩ := hf.innermost _ (by rw [hblocks, List.head?_cons]; rfl)
    by_cases hlive : w.isLive id = true
    · have hmove : step exec s loop.closing f w = some (.ok (.branch loop.closing.branchTarget?),
          { loop.enter outer id rest f with pc := f.pc }, w) := by
        rw [hstep, popEnv, hblocks]
        simp [hlive, enter, hother]
      have hentered : (loop.enter outer id rest f).Surrounded startSelf startOther :=
        (hf.reframes (reframes_step hmove)).congr rfl
      rw [hmove, Option.bind_some, continueFrame, landing_of_position loop.closing_target,
        reportTarget_of_position loop.closing_target]
      change runFrame exec s code name traced n (loop.enter outer id rest f) w = _
      exact runFrame_enter hlive hentered h ih
    · have hskip : step exec s loop.closing f w = step exec s loop.closing
          { f with blocks := ⟨current, rest, outer.self, outer.other⟩ :: outer.blocks } w := by
        rw [hstep, hstep, popEnv, popEnv, hblocks]
        simp [hlive]
      have hshorter : ({ f with blocks := ⟨current, rest, outer.self, outer.other⟩ :: outer.blocks } :
          Frame).surroundings =
            (⟨current, rest, outer.self, outer.other⟩ :: outer.blocks, current, f.other) := by
        simp [Frame.surroundings, hself]
      rw [turns_of_not_live hlive] at h
      rw [hskip]
      exact ih hpc (hf.moves hblocks hshorter) rfl ((turns_withBlocks _ rest n f w).trans h)

theorem bind_step_opening (hpc : f.pc = loop.start) (hf : f.Surrounded startSelf startOther)
    (h : loop.turns exec s name traced f.drop (w.select s.game f.top.toInt f.self f.other) n f.drop
      w = some (visits, n', f', w')) :
    (step exec s loop.opening f w).bind (continueFrame exec s code name traced n) =
      runFrame exec s code name traced n' f' w' := by
  have hstep : step exec s loop.opening f w = pushEnv s.game loop.opening f w := by
    simp only [step, loop.opening_op]
  cases hids : w.select s.game f.top.toInt f.self f.other with
  | nil =>
    rw [hids] at h
    cases h
    have hskip : step exec s loop.opening f w =
        some (.ok (.skip loop.opening.branchTarget?), f.drop, w) := by
      simp only [hstep, pushEnv, Frame.pop]
      rw [show w.select s.game f.top.toInt f.drop.self f.drop.other = [] from hids]
    rw [hskip, Option.bind_some, continueFrame, reportTarget_of_position loop.opening_target,
      landingPast_of_popenv loop.opening_target loop.closing_at loop.closing_op]
    rfl
  | cons first rest =>
    rw [hids] at h
    have hopen : step exec s loop.opening f w = proceed (f.drop.enter first rest) w := by
      simp only [hstep, pushEnv, Frame.pop]
      rw [show w.select s.game f.top.toInt f.drop.self f.drop.other = first :: rest from hids]
    have hframe : ({ f.drop.enter first rest with pc := (f.drop.enter first rest).pc + 1 } : Frame) =
        loop.enter f.drop first rest f.drop := by
      simp [Frame.enter, enter, Frame.drop, hpc]
    have hlive : w.isLive first = true := by
      apply World.isLive_of_mem_select
      rw [hids]
      exact List.mem_cons_self
    have hentered : (loop.enter f.drop first rest f.drop).Surrounded startSelf startOther :=
      (hf.reframes (reframes_step hopen)).congr rfl
    rw [hopen, proceed, Option.bind_some, continueFrame, hframe]
    exact runFrame_enter hlive hentered h bind_step_closing

end Turns

/-- What a loop in an outer frame comes to: the run is behind the loop with the same blocks, self and
other around it, and those visited are among the instances that have had their turns, in the same
order, each live and with the outer self as other. -/
structure Tour (outer : Frame) (ids : List Int32) (visits : List Visit) (f' : Frame) : Prop where
  behind : f'.pc = loop.last + 1
  surroundings : f'.surroundings = outer.surroundings
  order : (visits.map (·.frame.self)).Sublist ids
  visit : ∀ v ∈ visits, v.frame.pc = loop.start + 1 ∧ v.frame.other = outer.self ∧
    v.world.isLive v.frame.self = true

theorem tour_of_turns {outer : Frame} {ids : List Int32} {n n' : Nat} {visits : List Visit}
    (h : loop.turns exec s name traced outer ids n f w = some (visits, n', f', w')) :
    loop.Tour outer ids visits f' := by
  induction ids generalizing f w n visits with
  | nil =>
    cases h
    exact ⟨rfl, rfl, List.Sublist.refl _, by simp⟩
  | cons id rest ih =>
    by_cases hlive : w.isLive id = true
    · obtain ⟨m, f₁, w₁, later, -, -, hrest, rfl⟩ := exists_of_turns_eq_some hlive h
      obtain ⟨hbehind, hsurroundings, horder, hvisit⟩ := ih hrest
      refine ⟨hbehind, hsurroundings, horder.cons_cons id, ?_⟩
      intro v hv
      rcases List.mem_cons.mp hv with rfl | hv
      · exact ⟨rfl, rfl, hlive⟩
      · exact hvisit v hv
    · rw [turns_of_not_live hlive] at h
      obtain ⟨hbehind, hsurroundings, horder, hvisit⟩ := ih h
      exact ⟨hbehind, hsurroundings, horder.cons id, hvisit⟩

theorem head?_of_turns {outer : Frame} {ids : List Int32} {n n' : Nat} {visits : List Visit}
    (hlive : ∀ id ∈ ids.head?, w.isLive id = true)
    (h : loop.turns exec s name traced outer ids n f w = some (visits, n', f', w')) :
    visits.head?.map (·.frame.self) = ids.head? := by
  cases ids with
  | nil =>
    cases h
    rfl
  | cons first rest =>
    obtain ⟨m, f₁, w₁, later, -, -, -, rfl⟩ := exists_of_turns_eq_some (hlive first rfl) h
    rfl

/-- A run that comes to a loop gives each of the selected instances its turn, and then goes on behind
the loop with self, other and the blocks around it as they were. The first one is always visited, and
no instance that did not exist before. If none is selected nothing happens but that the selector is
taken from the stack. -/
theorem runFrame_withLoop {entry self other : Int32} {history : List Frame.Moment}
    (hreached : Frame.Reached s (.start entry self other) history f) (hpc : f.pc = loop.start)
    {n n' : Nat} {visits : List Visit}
    (h : loop.turns exec s name traced f.drop (w.select s.game f.top.toInt f.self f.other) n f.drop
      (reportStep traced name loop.opening f w) = some (visits, n', f', w')) :
    runFrame exec s code name traced (n + 1) f w = runFrame exec s code name traced n' f' w' ∧
      loop.Tour f (w.select s.game f.top.toInt f.self f.other) visits f' ∧
      visits.head?.map (·.frame.self) = (w.select s.game f.top.toInt f.self f.other).head? ∧
      (∀ v ∈ visits, w.instances.contains v.frame.self = true) ∧
      (w.select s.game f.top.toInt f.self f.other = [] →
        visits = [] ∧ f' = { f.drop with pc := loop.last + 1 }) := by
  have hat : code.instructions[f.pc]? = some loop.opening := hpc ▸ loop.opening_at
  have hquiet := quiet_reportStep traced name loop.opening f w
  have htags : (reportStep traced name loop.opening f w).instances.tags = w.instances.tags := by
    rw [hquiet.instances]
  have hselect := World.select_congr htags s.game f.top.toInt f.self f.other
  have htour := loop.tour_of_turns h
  refine ⟨?_, ⟨htour.behind, htour.surroundings, htour.order, htour.visit⟩, ?_, ?_, ?_⟩
  · rw [runFrame_succ hat]
    rw [← hselect] at h
    exact bind_step_opening hpc hreached.surrounded h
  · apply loop.head?_of_turns _ h
    intro id hid
    apply World.isLive_of_mem_select
    rw [hselect]
    exact List.mem_of_mem_head? hid
  · intro v hv
    exact World.contains_of_mem_select (htour.order.subset (List.mem_map_of_mem hv))
  · intro hids
    rw [hids] at h
    cases h
    exact ⟨rfl, rfl⟩

/-- Visits all instances, and in each visit destroys the second one if it is still there. -/
def culling : Code :=
  ⟨#[(Statement.pushImmediate (-3)).instruction 0, (Statement.branch .pushenv 8).instruction 4,
    (Statement.pushInt32 100002).instruction 8, (Statement.branch .pushenv 4).instruction 16,
    { (Statement.call 0 0).instruction 20 with functionIndex := 0 }, Statement.popz.instruction 28,
    (Statement.branch .popenv (-3)).instruction 32, (Statement.branch .popenv (-7)).instruction 36]⟩

def cullingLoop : WithLoop culling where
  start := 1
  last := 7
  opening := (Statement.branch .pushenv 8).instruction 4
  closing := (Statement.branch .popenv (-7)).instruction 36
  start_lt_last := by decide
  opening_at := rfl
  closing_at := rfl
  opening_op := by decide
  closing_op := by decide
  opening_target := by decide +kernel
  closing_target := by decide +kernel

def crowd : World :=
  { farewellWorld with
    instances := ⟨[.create 100001 3 0 0, .create 100002 4 0 0, .create 100003 3 0 0], by decide⟩
    nextId := 100004 }

def beforeCulling : Frame :=
  { (Frame.start 0 100002 100002).push (.ofInt (-3)) with pc := 1 }

/-- The first visit destroys the second instance, which is then passed over. -/
theorem runFrame_withLoop_culling :
    ∃ history visits n f w,
      Frame.Reached farewellSetup (.start 0 100002 100002) history beforeCulling ∧
      crowd.select farewellSetup.game beforeCulling.top.toInt 100002 100002 =
        [100001, 100002, 100003] ∧
      visits.map (·.frame.self) = [100001, 100003] ∧
      runFrame (execute farewellSetup 0) farewellSetup culling "" false 61 beforeCulling crowd =
        runFrame (execute farewellSetup 0) farewellSetup culling "" false n f w ∧
      cullingLoop.Tour beforeCulling [100001, 100002, 100003] visits f := by
  have hselect : crowd.select farewellSetup.game beforeCulling.top.toInt 100002 100002 =
      [100001, 100002, 100003] := by
    decide +kernel
  have hpush : step (execute farewellSetup 0) farewellSetup
      ((Statement.pushImmediate (-3)).instruction 0) (.start 0 100002 100002) crowd =
        some (.ok .next, (Frame.start 0 100002 100002).push (.ofInt (-3)), crowd) := rfl
  have hreached := Frame.Reached.step 1 .start hpush
  have hturns : (cullingLoop.turns (execute farewellSetup 0) farewellSetup "" false
      beforeCulling.drop (crowd.select farewellSetup.game beforeCulling.top.toInt 100002 100002) 60
      beforeCulling.drop (reportStep false "" cullingLoop.opening beforeCulling crowd)).map
        (fun r => r.1.map (·.frame.self)) = some [100001, 100003] := by
    decide +kernel
  obtain ⟨⟨visits, n, f, w⟩, hsome, hvisits⟩ := Option.map_eq_some_iff.mp hturns
  obtain ⟨hrun, htour, -, -, -⟩ := cullingLoop.runFrame_withLoop hreached rfl hsome
  exact ⟨_, visits, n, f, w, hreached, hselect, hvisits, hrun, hselect ▸ htour⟩

end WithLoop

end Running

end Machine

end GameRunner

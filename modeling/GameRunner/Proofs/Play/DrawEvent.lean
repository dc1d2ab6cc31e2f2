import GameRunner.Proofs.Event.Inheritance
import GameRunner.Proofs.Play.Layers

/-!
# The draw event

An instance is drawn by code of its own if a handler of the draw event can be found in its lineage.
The search is not the one that finds the handlers of other events, and the code is not run as theirs
is: a handler without actions is passed over, and of a handler with several actions only the first is
run. So drawing an instance is what the event would do to it only where this makes no difference.
-/

namespace GameRunner

namespace Game

variable {g : Game} {object handling : Int32} {handler : EventHandler}

/-- A nearest handler of the draw event that has actions is also the one that draws. -/
theorem drawHandler?_of_handler?
    (h : g.handler? object EventType.draw 0 = some (handling, handler))
    (hactions : handler.actions ≠ []) :
    g.drawHandler? object = some (handling, handler) := by
  unfold handler? handlerIn? at h
  unfold drawHandler?
  generalize g.lineage object = lineage at h ⊢
  induction lineage with
  | nil => cases h
  | cons o rest ih =>
    rw [List.findSome?_cons] at h ⊢
    cases hown : o.2.handler? EventType.draw 0 with
    | none =>
      rw [hown] at h
      exact ih h
    | some own =>
      rw [hown] at h
      cases h
      simp [hactions]

end Game

namespace World

/-- An instance is drawn by its draw event: drawing it does what the event would do to it, in whatever
way code is run. -/
def DrawnByEvent (s : Setup) (w : World) (id : Int32) : Prop :=
  ∀ (exec : Exec) (i : Instance), w.instance? id = some i →
    (reportEvent s w id i.objectIndex EventType.draw 0 none).drawInstance exec s id =
      w.fire exec s id EventType.draw 0 none

/-- A way to run code that only counts. -/
def countRuns : Exec := fun w _ _ _ => some { w with cutOff := w.cutOff + 1 }

theorem runAll_countRuns (w : World) (id : Int32) (other : Option Int32) (codes : List Int32) :
    runAll countRuns id other codes w = some { w with cutOff := w.cutOff + codes.length } := by
  induction codes generalizing w with
  | nil => rfl
  | cons code rest ih =>
    refine (ih _).trans ?_
    simp only [List.length_cons]
    congr 2
    omega

/-- Runs that are the same however code is run have as many entries. -/
theorem length_eq_of_during_eq {w : World} {c c' : EventContext} {id : Int32}
    {codes codes' : List Int32}
    (h : w.during c (runAll countRuns id none codes) =
      w.during c' (runAll countRuns id none codes')) :
    codes.length = codes'.length := by
  simp only [during, runAll_countRuns] at h
  have hcount := congrArg World.cutOff (Option.some.inj h)
  exact Nat.add_left_cancel hcount

/-- Running no entries as part of an event changes nothing. -/
theorem during_nil (exec : Exec) (w : World) (c : EventContext) (id : Int32) :
    w.during c (runAll exec id none []) = some w := rfl

section Drawing

variable {exec : Exec} {s : Setup} {w : World} {id object : Int32} {i : Instance}
  {handler : EventHandler}

theorem instance?_reportEvent (s : Setup) (w : World) (id object : Int32) (type : Nat)
    (subtype : Int32) (other : Option Int32) (id' : Int32) :
    (reportEvent s w id object type subtype other).instance? id' = w.instance? id' :=
  congrArg (·.get? id') (mild_reportEvent s w id object type subtype other).instances

theorem drawInstance_of_handler (hi : w.instance? id = some i) (hvisible : i.visible = true)
    (h : s.game.drawHandler? i.objectIndex = some (object, handler)) :
    w.drawInstance exec s id = w.during ⟨EventType.draw, 0, object⟩
      (runAll exec id none ((handler.actions.take 1).filter (0 ≤ ·))) := by
  simp [drawInstance, hi, hvisible, h]

theorem drawInstance_of_none (hi : w.instance? id = some i) (hvisible : i.visible = true)
    (h : s.game.drawHandler? i.objectIndex = none) :
    w.drawInstance exec s id = some (w.paintAll i.spriteCommand?.toList) := by
  simp [drawInstance, hi, hvisible, h]

/-- Painting nothing is all that leaves a world as it was. -/
theorem paintAll_eq_self_iff (w : World) (commands : List DrawCommand) :
    w.paintAll commands = w ↔ commands = [] := by
  constructor
  · intro h
    have hcommands := congrArg (·.screen.commands) h
    simpa [commands_paintAll] using hcommands
  · rintro rfl
    rfl

theorem toList_spriteCommand?_eq_nil_iff : i.spriteCommand?.toList = [] ↔ i.spriteIndex < 0 := by
  unfold Instance.spriteCommand?
  split_ifs with h
  · simp [Int32.not_lt.mpr h]
  · simp [Int32.not_le.mp h]

theorem drawnByEvent_of_some (hi : w.instance? id = some i) :
    DrawnByEvent s w id ↔ ∀ exec : Exec,
      (reportEvent s w id i.objectIndex EventType.draw 0 none).drawInstance exec s id =
        w.fire exec s id EventType.draw 0 none := by
  constructor
  · intro h exec
    exact h exec i hi
  · intro h exec j hj
    cases hi.symm.trans hj
    exact h exec

/-- A handler with actions is the one that draws, but of its actions only the first is run. -/
theorem drawnByEvent_iff_of_actions (hi : w.instance? id = some i) (hvisible : i.visible = true)
    (hhandler : s.game.handler? i.objectIndex EventType.draw 0 = some (object, handler))
    (hactions : handler.actions ≠ []) :
    DrawnByEvent s w id ↔ ∀ code ∈ handler.actions.drop 1, code < 0 := by
  have hi' := (instance?_reportEvent s w id i.objectIndex EventType.draw 0 none id).trans hi
  have hdraw := Game.drawHandler?_of_handler? hhandler hactions
  have hsplit : handler.actions.filter (0 ≤ ·) =
      (handler.actions.take 1).filter (0 ≤ ·) ++ (handler.actions.drop 1).filter (0 ≤ ·) := by
    rw [← List.filter_append, List.take_append_drop]
  have hrest : (handler.actions.drop 1).filter (0 ≤ ·) = [] ↔
      ∀ code ∈ handler.actions.drop 1, code < 0 := by
    simp [List.filter_eq_nil_iff]
  simp only [drawnByEvent_of_some hi, drawInstance_of_handler hi' hvisible hdraw,
    fire_of_handler? hi hhandler, ← hrest]
  constructor
  · intro h
    have hlength := length_eq_of_during_eq (h countRuns)
    rw [hsplit, List.length_append] at hlength
    exact List.eq_nil_of_length_eq_zero (by omega)
  · intro hnil exec
    rw [hsplit, hnil, List.append_nil]

/-- The event does nothing where the nearest handler has no actions, but drawing looks for something
to do beyond it. -/
theorem drawnByEvent_iff_of_nil (hi : w.instance? id = some i) (hvisible : i.visible = true)
    (hhandler : s.game.handler? i.objectIndex EventType.draw 0 = some (object, handler))
    (hactions : handler.actions = []) :
    DrawnByEvent s w id ↔
      (∀ above ∈ s.game.drawHandler? i.objectIndex, ∀ code ∈ above.2.actions.head?, code < 0) ∧
        (s.game.drawHandler? i.objectIndex = none → i.spriteIndex < 0) := by
  have hi' := (instance?_reportEvent s w id i.objectIndex EventType.draw 0 none id).trans hi
  simp only [drawnByEvent_of_some hi, fire_of_handler? hi hhandler, hactions, List.filter_nil,
    during_nil]
  cases hdraw : s.game.drawHandler? i.objectIndex with
  | none =>
    simp only [drawInstance_of_none hi' hvisible hdraw, Option.some.injEq, paintAll_eq_self_iff,
      toList_spriteCommand?_eq_nil_iff]
    simp
  | some found =>
    obtain ⟨above, drawn⟩ := found
    have hfirst : (drawn.actions.take 1).filter (0 ≤ ·) = [] ↔
        ∀ code ∈ drawn.actions.head?, code < 0 := by
      simp [List.filter_eq_nil_iff, List.take_one]
    simp only [drawInstance_of_handler hi' hvisible hdraw]
    constructor
    · intro h
      have hlength := length_eq_of_during_eq
        ((h countRuns).trans (during_nil countRuns _ ⟨EventType.draw, 0, above⟩ id).symm)
      refine ⟨?_, by simp⟩
      rintro found ⟨⟩
      exact hfirst.mp (List.eq_nil_of_length_eq_zero hlength)
    · rintro ⟨h, -⟩ exec
      rw [hfirst.mpr (h _ rfl), during_nil]

/-- Drawing an instance that has or inherits a handler of the draw event is what the event would do to
it, if and only if no action of the handler beyond the first names code and, for a handler without
actions, nothing else is found to draw the instance with: neither code in a handler farther up nor,
where there is none with actions, a sprite. -/
theorem drawnByEvent_iff (hi : w.instance? id = some i) (hvisible : i.visible = true)
    (hhandler : s.game.handler? i.objectIndex EventType.draw 0 = some (object, handler)) :
    DrawnByEvent s w id ↔
      (∀ code ∈ handler.actions.drop 1, code < 0) ∧
        (handler.actions = [] →
          (∀ above ∈ s.game.drawHandler? i.objectIndex, ∀ code ∈ above.2.actions.head?, code < 0) ∧
            (s.game.drawHandler? i.objectIndex = none → i.spriteIndex < 0)) := by
  by_cases hactions : handler.actions = []
  · rw [drawnByEvent_iff_of_nil hi hvisible hhandler hactions]
    simp [hactions]
  · rw [drawnByEvent_iff_of_actions hi hvisible hhandler hactions]
    simp [hactions]

end Drawing

/-- An object that handles the draw event by destroying the instance, one that inherits this, one that
does the same by its second action, one whose handler has no actions, and one that would inherit from
the first but for a handler without actions. -/
def sketchSetup : Setup :=
  { Machine.farewellSetup with
    game :=
      { Machine.farewellSetup.game with
        objects := #[{ events := List.replicate 8 [] ++ [[⟨0, [0]⟩]] }, { parent := 0 },
          { events := List.replicate 8 [] ++ [[⟨0, [1, 0]⟩]] },
          { events := List.replicate 8 [] ++ [[⟨0, []⟩]] },
          { parent := 0, events := List.replicate 8 [] ++ [[⟨0, []⟩]] }] }
    program :=
      { Machine.farewellSetup.program with
        code := Machine.farewellSetup.program.code.push ⟨#[Statement.exit.instruction 16]⟩ } }

/-- An instance of each of the objects but the first. One of them has a sprite. -/
def sketches : World where
  instances := ⟨[.create 1 1 0 0, .create 2 2 0 0, { Instance.create 3 3 0 0 with spriteIndex := 0 },
    .create 4 4 0 0], by decide⟩
  nextId := 100000
  generator := .ofSeed 1

/-- A single action is run as the event would run it; a second one, an action farther up and a sprite
make the difference. -/
theorem drawnByEvent_iff_sketches :
    DrawnByEvent sketchSetup sketches 1 ∧ ¬DrawnByEvent sketchSetup sketches 2 ∧
      ¬DrawnByEvent sketchSetup sketches 3 ∧ ¬DrawnByEvent sketchSetup sketches 4 := by
  have hone : DrawnByEvent sketchSetup sketches 1 ↔ _ := drawnByEvent_iff rfl rfl rfl
  have htwo : DrawnByEvent sketchSetup sketches 2 ↔ _ := drawnByEvent_iff rfl rfl rfl
  have hthree : DrawnByEvent sketchSetup sketches 3 ↔ _ := drawnByEvent_iff rfl rfl rfl
  have hfour : DrawnByEvent sketchSetup sketches 4 ↔ _ := drawnByEvent_iff rfl rfl rfl
  rw [hone, htwo, hthree, hfour]
  refine ⟨⟨by simp, by simp⟩, by simp, ?_, ?_⟩
  · rintro ⟨-, hnone⟩
    obtain ⟨-, hsprite⟩ := hnone rfl
    exact absurd (hsprite rfl) (by decide)
  · rintro ⟨-, hnone⟩
    obtain ⟨habove, -⟩ := hnone rfl
    exact absurd (habove _ rfl 0 rfl) (by decide)

/-- All of these instances are live and visible and have or inherit a handler of the draw event. What
drawing does to three of them the event does not, or the other way round. -/
theorem drawn_unlike_event :
    (∀ i ∈ sketches.instances.toList, i.live = true ∧ i.visible = true ∧
      (sketchSetup.game.handler? i.objectIndex EventType.draw 0).isSome) ∧
      (sketches.fire (Machine.execute sketchSetup 1) sketchSetup 2 EventType.draw 0 none).map
        (·.isLive 2) = some false ∧
      (sketches.drawInstance (Machine.execute sketchSetup 1) sketchSetup 2).map (·.isLive 2) =
        some true ∧
      (sketches.fire (Machine.execute sketchSetup 1) sketchSetup 3 EventType.draw 0 none).map
        (·.screen.commands.length) = some 0 ∧
      (sketches.drawInstance (Machine.execute sketchSetup 1) sketchSetup 3).map
        (·.screen.commands.length) = some 1 ∧
      (sketches.fire (Machine.execute sketchSetup 1) sketchSetup 4 EventType.draw 0 none).map
        (·.isLive 4) = some true ∧
      (sketches.drawInstance (Machine.execute sketchSetup 1) sketchSetup 4).map (·.isLive 4) =
        some false := by
  refine ⟨by decide +kernel, ?_, ?_, ?_, ?_, ?_, ?_⟩ <;> decide +kernel

end World

end GameRunner

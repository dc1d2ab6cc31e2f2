import GameRunner.Proofs.Play.Moments

/-!
# Who gets an event

A dispatch gives each instance that is live at its start one turn, in the order of the roster. The
event happens to an instance if it is still live when its turn comes. Code that runs meanwhile can
destroy instances before their turn, but it cannot remove, move or replace them, and what it creates
has no turn.
-/

namespace GameRunner

namespace World

section Turns

variable (exec : Exec) (s : Setup) (type : Nat) (subtype : Int32)

/-- The turns of some instances, each with the world in which it comes. The event happens to those
that are live then; if it does not come to an end, there are no further turns. -/
def turns : List Int32 → World → List (World × Int32)
  | [], _ => []
  | id :: rest, w =>
    (w, id) ::
      (if w.isLive id then w.fire exec s id type subtype none else some w).elim [] (turns rest)

theorem trace_visitLive_fire (ids : List Int32) (w : World) :
    (Plan.visitLive (fun w id => Plan.fire w id type subtype none) w ids).trace exec s =
      ((turns exec s type subtype ids w).filter fun t => t.1.isLive t.2).map
        fun t => (t.1, .event t.2 type subtype none) := by
  unfold Plan.visitLive
  induction ids generalizing w with
  | nil => rfl
  | cons id rest ih =>
    rw [List.foldlM_cons, Plan.trace_bind, turns]
    by_cases hlive : w.isLive id
    · simp only [hlive, if_true, Plan.run_fire, Plan.trace_fire, List.filter_cons_of_pos,
        List.map_cons]
      cases w.fire exec s id type subtype none with
      | none => rfl
      | some v => exact congrArg (_ :: ·) (ih v)
    · simp [hlive, ih]

theorem turns_isPrefix (ids : List Int32) (w : World) :
    (turns exec s type subtype ids w).map Prod.snd <+: ids := by
  induction ids generalizing w with
  | nil => exact List.nil_prefix
  | cons id rest ih =>
    rw [turns, List.map_cons, List.prefix_cons_inj]
    cases (if w.isLive id then w.fire exec s id type subtype none else some w) with
    | none => exact List.nil_prefix
    | some v => exact ih v

theorem turns_of_visitLive {ids : List Int32} {w v : World}
    (h : w.visitLive (fun w id => w.fire exec s id type subtype none) ids = some v) :
    (turns exec s type subtype ids w).map Prod.snd = ids := by
  induction ids generalizing w with
  | nil => rfl
  | cons id rest ih =>
    unfold visitLive at h
    rw [List.foldlM_cons] at h
    obtain ⟨u, hu, hrest⟩ := Option.bind_eq_some_iff.mp h
    rw [turns, List.map_cons, hu]
    exact congrArg (id :: ·) (ih hrest)

end Turns

variable {w : World}

theorem nodup_liveIds (w : World) : w.liveIds.Nodup :=
  w.instances.nodup.sublist (List.filter_sublist.map _)

theorem exists_of_mem_liveIds {id : Int32} (h : id ∈ w.liveIds) :
    ∃ i, w.instance? id = some i ∧ i.live = true := by
  obtain ⟨i, hi, rfl⟩ := List.mem_map.mp h
  obtain ⟨hmem, hlive⟩ := List.mem_filter.mp hi
  exact ⟨i, instance?_of_mem hmem, hlive⟩

/-- In all moments of a dispatch and at its end the instances that it starts with are where they
were. -/
theorem progresses_dispatch {exec : Exec} (hexec : exec.Keeps Progresses) (s : Setup) (w : World)
    (type : Nat) (subtype : Int32) :
    (∀ x ∈ (Plan.dispatch w type subtype).trace exec s, w.Progresses x.1) ∧
      ∀ v, w.dispatch exec s type subtype = some v → w.Progresses v := by
  have htrans : ∀ w v u : World, w.Progresses v → v.Progresses u → w.Progresses u :=
    fun _ _ _ hwv hvu => hwv.trans hvu
  rw [← Plan.run_dispatch]
  exact (Plan.ownChanges_dispatch Progresses.refl htrans w type subtype).moments htrans
    fun t u v => progresses_of_start hexec t

/-- A dispatch gives each instance that is live at its start one turn, in the order of the roster, and
the event happens to those that are still live then, and to nobody else. Each of them is the instance
that was there at the start under its id, and not one that code has made since. -/
theorem dispatch_reaches_survivors {s : Setup} (hw : Played s w) (depth : Nat) (type : Nat)
    (subtype : Int32) :
    let exec := Machine.execute s depth
    let starts := (Plan.dispatch w type subtype).trace exec s
    let turns := World.turns exec s type subtype w.liveIds w
    (∀ exec, (Plan.dispatch w type subtype).run exec s = w.dispatch exec s type subtype) ∧
      w.liveIds.Sublist w.instances.ids ∧ w.liveIds.Nodup ∧
      turns.map Prod.snd <+: w.liveIds ∧
      (∀ v, w.dispatch exec s type subtype = some v → turns.map Prod.snd = w.liveIds) ∧
      starts = (turns.filter fun t => t.1.isLive t.2).map
        (fun t => (t.1, .event t.2 type subtype none)) ∧
      ∀ x ∈ starts, Int32.maxValue ∉ x.1.instances.ids → ∃ i j, w.instance? x.2.id = some i ∧
        x.1.instance? x.2.id = some j ∧ i.Continues j ∧ i.live = true ∧ j.live = true := by
  intro exec starts turns
  have hexec := Machine.progresses_execute s depth
  have hstarts : starts = (turns.filter fun t => t.1.isLive t.2).map
      (fun t => (t.1, .event t.2 type subtype none)) :=
    trace_visitLive_fire exec s type subtype w.liveIds w
  have hturns := turns_isPrefix exec s type subtype w.liveIds w
  refine ⟨fun exec => Plan.run_dispatch .., List.filter_sublist.map _, nodup_liveIds w, hturns,
    fun v => turns_of_visitLive exec s type subtype, hstarts, ?_⟩
  intro x hx hmax
  have hgrows := ((progresses_dispatch hexec s w type subtype).1 x hx).grows hw.idsBelow hmax
  rw [hstarts] at hx
  obtain ⟨t, ht, rfl⟩ := List.mem_map.mp hx
  obtain ⟨ht, hlive⟩ := List.mem_filter.mp ht
  obtain ⟨i, hi, hilive⟩ := exists_of_mem_liveIds (hturns.subset (List.mem_map_of_mem ht))
  obtain ⟨j, hj, hij⟩ := hgrows.exists_instance? hi
  obtain ⟨k, hk, hklive⟩ := exists_of_isLive hlive
  obtain rfl : k = j := Option.some_inj.mp (hk.symm.trans hj)
  exact ⟨i, k, hi, hj, hij, hilive, hklive⟩

/-- When a frame passes, an instance of the only object creates another one and destroys the instance
with the second id. -/
def crowdSetup : Setup where
  game :=
    { functionTable := #[⟨"instance_create", 1, 0⟩, ⟨"instance_destroy", 1, 0⟩]
      objects := #[{ events := [[], [], [], [⟨0, [0]⟩]] }] }
  program :=
    { code := #[⟨#[(Statement.pushImmediate 0).instruction 0,
        (Statement.pushImmediate 0).instruction 4, (Statement.pushImmediate 0).instruction 8,
        { (Statement.call 0 3).instruction 12 with functionIndex := 0 },
        Statement.popz.instruction 20, (Statement.pushInt32 100001).instruction 24,
        (Statement.branch .pushenv 4).instruction 32,
        { (Statement.call 1 0).instruction 36 with functionIndex := 1 },
        Statement.popz.instruction 44, (Statement.branch .popenv (-3)).instruction 48]⟩]
      references := ⟨[], []⟩
      scripts := .empty }
  settings := {}

def crowd : World :=
  let join (w : World) : World := (w.create crowdSetup.game 0 0 0 none).2
  join (join (join (.ofSetup crowdSetup 0 default)))

theorem played_crowd : Played crowdSetup crowd :=
  (((Played.start 0 default).create 0 (by decide)).create 0 (by decide)).create 0 (by decide)

/-- Of three instances the second one has its turn when it is destroyed already, and the two that are
created meanwhile have none. -/
theorem dispatch_reaches_survivors_crowd :
    let exec := Machine.execute crowdSetup 2
    let starts := (Plan.dispatch crowd EventType.step StepEvent.normal).trace exec crowdSetup
    starts.map (fun x => x.2.id) = [100000, 100002] ∧
      (∀ v ∈ crowd.dispatch exec crowdSetup EventType.step StepEvent.normal,
        v.liveIds = [100000, 100002, 100003, 100004]) ∧
      Played crowdSetup crowd ∧
      (turns exec crowdSetup EventType.step StepEvent.normal crowd.liveIds crowd).map Prod.snd =
        [100000, 100001, 100002] ∧
      ∀ x ∈ starts, ∃ i j, crowd.instance? x.2.id = some i ∧ x.1.instance? x.2.id = some j ∧
        i.Continues j ∧ i.live = true ∧ j.live = true := by
  intro exec starts
  obtain ⟨-, -, -, -, hturns, -, hsame⟩ :=
    dispatch_reaches_survivors played_crowd 2 EventType.step StepEvent.normal
  have hsome : (crowd.dispatch exec crowdSetup EventType.step StepEvent.normal).isSome := by
    decide +kernel
  obtain ⟨v, hv⟩ := Option.isSome_iff_exists.mp hsome
  refine ⟨by decide +kernel, by decide +kernel, played_crowd, hturns v hv, fun x hx => ?_⟩
  have hmax : ∀ x ∈ starts, Int32.maxValue ∉ x.1.instances.ids := by decide +kernel
  exact hsame x hx (hmax x hx)

end World

end GameRunner

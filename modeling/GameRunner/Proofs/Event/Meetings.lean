import GameRunner.Proofs.Event.Dispatch

/-!
# Who collides with whom

In the pass of collisions every instance has a turn, in which it collides at most once with each kind
of instance that its lineage has a handler for. The other instance is looked for anew for each kind,
so it is live and where it is at that moment. The box of the instance itself, however, is taken when
its turn begins: if a handler moves it, it goes on to collide where it no longer is.
-/

namespace GameRunner

theorem nodup_eraseDups {α : Type} [DecidableEq α] (l : List α) : l.eraseDups.Nodup := by
  induction hlength : l.length using Nat.strong_induction_on generalizing l with
  | _ n ih =>
    cases l with
    | nil => exact List.nodup_nil
    | cons a rest =>
      rw [List.eraseDups_cons, List.nodup_cons]
      refine ⟨by simp, ih _ ?_ _ rfl⟩
      exact hlength ▸ Nat.lt_succ_of_le (List.length_filter_le _ rest)

theorem Game.nodup_collisionTargets (g : Game) (object : Int32) : (g.collisionTargets object).Nodup :=
  nodup_eraseDups _

/-- The instance that collides and the kind with which it does, if a collision is started. -/
def Start.collision? : Start → Option (Int32 × Int32)
  | event id type kind _ => if type = EventType.collision then some (id, kind) else none
  | _ => none

namespace World

/-- The collision box of an instance. -/
def box? (g : Game) (w : World) (id : Int32) : Option Box := (w.instance? id).bind (·.box? g)

/-- An instance that is taken to be in some box meets another one of a kind. -/
structure Meets (g : Game) (w : World) (box : Option Box) (id kind other : Int32) : Prop where
  isLive : w.isLive id = true
  isLive_other : w.isLive other = true
  ne : other ≠ id
  isKindOf : ∃ j, w.instance? other = some j ∧ g.isKindOf j.objectIndex kind = true
  overlaps : ∃ a b, box = some a ∧ w.box? g other = some b ∧ a.overlaps b = true

theorem meets_of_firstHit? {g : Game} {w : World} {box : Box} {id kind other : Int32}
    {ids : List Int32} (hlive : w.isLive id = true)
    (h : w.firstHit? g box id kind ids = some other) : w.Meets g (some box) id kind other := by
  obtain ⟨hne, hhit⟩ : other ≠ id ∧ w.isHit g box kind other = true := by
    simpa using List.find?_some h
  unfold isHit at hhit
  cases hj : w.instance? other with
  | none => simp [hj] at hhit
  | some j =>
    simp only [hj, Bool.and_eq_true] at hhit
    obtain ⟨⟨hjlive, hkind⟩, hoverlap⟩ := hhit
    cases hb : j.box? g with
    | none => simp [hb] at hoverlap
    | some b =>
      rw [hb] at hoverlap
      exact ⟨hlive, (isLive_eq hj).trans hjlive, hne, ⟨j, hj, hkind⟩, box, b, rfl,
        by simp [box?, hj, hb], hoverlap⟩

end World

namespace Plan

section Turns

variable (exec : Exec) (s : Setup)

/-- The turn of an instance, if it is still live. -/
def collisionTurn (g : Game) (ids : List Int32) (w : World) (id : Int32) : Plan World :=
  if w.isLive id then collide g ids w id else pure w

/-- The turns of the instances that are live at the start, each with the world in which it comes. -/
def collisionTurns (w : World) : List (World × Int32) :=
  visits exec s (collisionTurn s.game w.liveIds) w.liveIds w

theorem trace_runCollisions (w : World) :
    (runCollisions s.game w).trace exec s =
      (collisionTurns exec s w).flatMap fun t =>
        (collisionTurn s.game w.liveIds t.1 t.2).trace exec s :=
  trace_foldlM exec s (collisionTurn s.game w.liveIds) w.liveIds w

theorem trace_collideWith (box : Box) (ids : List Int32) (id : Int32) (w : World) (kind : Int32) :
    (collideWith s.game box ids id w kind).trace exec s =
      (if w.isLive id then w.firstHit? s.game box id kind ids else none).toList.map fun other =>
        (w, .event id EventType.collision kind (some other)) := by
  unfold collideWith
  split_ifs
  · cases w.firstHit? s.game box id kind ids with
    | none => rfl
    | some other => exact trace_fire ..
  · rfl

end Turns

variable {exec : Exec} {s : Setup} {w : World} {ids : List Int32} {id : Int32}

/-- Within a turn the instance is taken to be where it was when the turn began. -/
theorem meets_of_mem_trace {x : World × Start}
    (hx : x ∈ (collisionTurn s.game ids w id).trace exec s) :
    ∃ kind other, x.2 = .event id EventType.collision kind (some other) ∧
      x.1.Meets s.game (w.box? s.game id) id kind other := by
  unfold collisionTurn collide at hx
  split_ifs at hx with hlive
  · cases hi : w.instance? id with
    | none => simp [hi] at hx
    | some i =>
      cases hbox : i.box? s.game with
      | none => simp [hi, hbox] at hx
      | some box =>
        simp only [hi, hbox, trace_foldlM, List.mem_flatMap] at hx
        obtain ⟨⟨v, kind⟩, -, hx⟩ := hx
        rw [trace_collideWith] at hx
        obtain ⟨other, hother, rfl⟩ := List.mem_map.mp hx
        split_ifs at hother with hlive
        · have hown : w.box? s.game id = some box := by simp [World.box?, hi, hbox]
          refine ⟨kind, other, rfl, ?_⟩
          rw [hown]
          exact World.meets_of_firstHit? hlive (Option.mem_toList.mp hother)
        · cases hother
  · cases hx

/-- Within a turn there is at most one collision for each kind. -/
theorem pairwise_collision?_trace :
    ((collisionTurn s.game ids w id).trace exec s).Pairwise
      fun x y => x.2.collision? ≠ y.2.collision? := by
  unfold collisionTurn collide
  split_ifs
  · cases w.instance? id with
    | none => exact .nil
    | some i =>
      dsimp only
      cases i.box? s.game with
      | none => exact .nil
      | some box =>
        dsimp only
        rw [trace_foldlM, List.pairwise_flatMap]
        constructor
        · intro v _
          rw [trace_collideWith]
          cases (if v.1.isLive id then v.1.firstHit? s.game box id v.2 ids else none) with
          | none => exact .nil
          | some other => exact List.pairwise_singleton _ _
        · have hkinds := (s.game.nodup_collisionTargets i.objectIndex).sublist
            (visits_isPrefix exec s (collideWith s.game box ids id) _ w).sublist
          refine (List.pairwise_map.mp hkinds).imp fun {v u} hne x hx y hy => ?_
          rw [trace_collideWith] at hx hy
          obtain ⟨_, -, rfl⟩ := List.mem_map.mp hx
          obtain ⟨_, -, rfl⟩ := List.mem_map.mp hy
          simpa [Start.collision?] using hne
  · exact .nil

/-- When a turn begins nothing has been started yet that could move the instance. -/
theorem fst_of_head?_trace {x : World × Start}
    (hx : ((collisionTurn s.game ids w id).trace exec s).head? = some x) : x.1 = w := by
  unfold collisionTurn collide at hx
  split_ifs at hx
  · cases hi : w.instance? id with
    | none => simp [hi] at hx
    | some i =>
      cases hbox : i.box? s.game with
      | none => simp [hi, hbox] at hx
      | some box =>
        simp only [hi, hbox] at hx
        refine head?_trace_foldlM exec s (fun v kind => ?_) _ w hx
        unfold collideWith
        split_ifs
        · cases v.firstHit? s.game box id kind ids with
          | none => exact .inl rfl
          | some other => exact .inr ⟨_, _, rfl⟩
        · exact .inl rfl
  · cases hx

end Plan

/-- Whatever code does, all that the pass of collisions starts is collisions, and no two of them are of
the same instance with the same kind. -/
theorem collides_once_with_kind (s : Setup) (w : World) :
    (∀ exec, (Plan.runCollisions s.game w).run exec s = w.runCollisions exec s) ∧
      ∀ exec,
        let collisions := ((Plan.runCollisions s.game w).trace exec s).map fun x => x.2.collision?
        (∀ c ∈ collisions, c.isSome) ∧ collisions.Nodup := by
  refine ⟨fun exec => Plan.run_runCollisions exec s w, fun exec => ?_⟩
  dsimp only
  rw [Plan.trace_runCollisions]
  constructor
  · intro c hc
    obtain ⟨x, hx, rfl⟩ := List.mem_map.mp hc
    obtain ⟨t, -, hx⟩ := List.mem_flatMap.mp hx
    obtain ⟨kind, other, hstart, -⟩ := Plan.meets_of_mem_trace hx
    simp [hstart, Start.collision?]
  · rw [List.Nodup, List.pairwise_map, List.pairwise_flatMap]
    refine ⟨fun t _ => Plan.pairwise_collision?_trace, ?_⟩
    have hturns := w.nodup_liveIds.sublist
      (Plan.visits_isPrefix exec s (Plan.collisionTurn s.game w.liveIds) w.liveIds w).sublist
    refine (List.pairwise_map.mp hturns).imp fun {t u} hne x hx y hy => ?_
    obtain ⟨_, _, hx, -⟩ := Plan.meets_of_mem_trace hx
    obtain ⟨_, _, hy, -⟩ := Plan.meets_of_mem_trace hy
    simp [hx, hy, Start.collision?, hne]

/-- Whatever code does, when an instance collides with another one of a kind both are live, and the
box in which the first one was when its turn began overlaps the box in which the other one is at that
moment. So the two do overlap unless something that was started in the same turn has changed the box of
the first one; nothing was if it is the first collision of the turn. -/
theorem collides_where_turn_began (s : Setup) (w : World) :
    (∀ exec, (Plan.runCollisions s.game w).run exec s = w.runCollisions exec s) ∧
      ∀ exec,
        let turns := Plan.collisionTurns exec s w
        let starts (t : World × Int32) :=
          (Plan.collisionTurn s.game w.liveIds t.1 t.2).trace exec s
        (Plan.runCollisions s.game w).trace exec s = turns.flatMap starts ∧
          ∀ t ∈ turns, (∀ x, (starts t).head? = some x → x.1 = t.1) ∧
            ∀ x ∈ starts t, ∃ kind other,
              x.2 = .event t.2 EventType.collision kind (some other) ∧
              x.1.Meets s.game (t.1.box? s.game t.2) t.2 kind other ∧
              (x.1.box? s.game t.2 = t.1.box? s.game t.2 →
                x.1.Meets s.game (x.1.box? s.game t.2) t.2 kind other) := by
  refine ⟨fun exec => Plan.run_runCollisions exec s w, fun exec => ?_⟩
  refine ⟨Plan.trace_runCollisions exec s w, fun t _ => ⟨fun x => Plan.fst_of_head?_trace, ?_⟩⟩
  intro x hx
  obtain ⟨kind, other, hstart, hmeets⟩ := Plan.meets_of_mem_trace hx
  refine ⟨kind, other, hstart, hmeets, fun hbox => ?_⟩
  rw [hbox]
  exact hmeets

/-- An instance of the first object that meets one of the second moves away; it has a handler for the
third object, too. -/
def strayingSetup : Setup where
  game :=
    { sprites := #[{ marginRight := 16, marginBottom := 16 }]
      variableTable := #[⟨"x", Selector.self, 0, 0, 0⟩]
      objects := #[{ sprite := 0, events := [[], [], [], [], [⟨1, [0]⟩, ⟨2, []⟩]] },
        { sprite := 0 }, { sprite := 0 }] }
  program :=
    { code := #[⟨#[(Statement.pushImmediate 1000).instruction 0,
        { (Statement.popVar Selector.self 0).instruction 4 with variableIndex := 0 }]⟩]
      references := ⟨[], []⟩
      scripts := .empty }
  settings := {}

/-- An instance of each object, all in one place. -/
def strayers : World :=
  let join (object : Int32) (w : World) : World := (w.create strayingSetup.game object 0 0 none).2
  join 2 (join 1 (join 0 (.ofSetup strayingSetup 0 default)))

/-- Whether two instances overlap, if both have a box. -/
def World.overlap? (g : Game) (w : World) (id other : Int32) : Option Bool :=
  (w.box? g id).bind fun a => (w.box? g other).map a.overlaps

/-- The first instance collides with the second, where it still is, and then with the third, from which
it has moved away. -/
theorem collides_with_left_behind :
    let starts := (Plan.runCollisions strayingSetup.game strayers).trace
      (Machine.execute strayingSetup 2) strayingSetup
    starts.map (fun x => (x.2, x.1.overlap? strayingSetup.game 100000 100001,
        x.1.overlap? strayingSetup.game 100000 100002)) =
      [(.event 100000 EventType.collision 1 (some 100001), some true, some true),
        (.event 100000 EventType.collision 2 (some 100002), some false, some false)] := by
  decide +kernel

end GameRunner

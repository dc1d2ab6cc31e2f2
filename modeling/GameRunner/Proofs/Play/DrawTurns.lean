import GameRunner.Proofs.Play.Layers

/-!
# How often an instance is drawn

The depths at which there is something are fixed before a room is drawn. The instances of a depth,
however, are looked for only when its turn comes, and until then code that draws other instances, or
the instance itself, may have changed their depths. So an instance has one turn at each depth at most,
and a further one only at a smaller depth, to which it has been moved meanwhile.
-/

namespace GameRunner

theorem flatMap_filter_of_nil {α β : Type} {p : α → Bool} {f : α → List β}
    (h : ∀ a, p a = false → f a = []) (l : List α) : (l.filter p).flatMap f = l.flatMap f := by
  induction l with
  | nil => rfl
  | cons a rest ih =>
    cases hp : p a with
    | false => simp [hp, ih, h a hp]
    | true => simp [hp, ih]

theorem length_le_one_of_pairwise_false {α : Type} {l : List α}
    (h : l.Pairwise fun _ _ => False) : l.length ≤ 1 := by
  rcases l with _ | ⟨a, _ | ⟨b, rest⟩⟩
  · exact Nat.zero_le 1
  · exact Nat.le_refl 1
  · exact ((List.pairwise_cons.mp h).1 b List.mem_cons_self).elim

/-- What the drawing of a live instance comes down to, if it is visible and there is something to draw:
its draw event is started, or else its sprite is painted. -/
def World.drawing? (g : Game) (w : World) (id : Int32) : Option (Start ⊕ DrawCommand) :=
  match w.instance? id with
  | none => none
  | some i =>
    if i.live && i.visible then
      match g.drawHandler? i.objectIndex with
      | some (object, handler) =>
        some (.inl (.drawing id object ((handler.actions.take 1).filter (0 ≤ ·))))
      | none => i.spriteCommand?.map .inr
    else none

/-- A turn of an instance: the depth that has come, the world in which it came, and the world in which
the instance has its turn. -/
structure DrawTurn where
  depth : Int32
  before : World
  now : World
  id : Int32

namespace Plan

/-- In its turn an instance is drawn once, if at all. -/
def drawTurn (g : Game) (w : World) (id : Int32) : Plan World :=
  match w.drawing? g id with
  | some (.inl t) => start w t done
  | some (.inr c) => done (w.paint c)
  | none => done w

theorem drawTurn_eq (g : Game) :
    drawTurn g = fun w id => if w.isLive id then drawInstance g w id else pure w := by
  funext w id
  unfold drawTurn drawInstance World.drawing?
  cases hi : w.instance? id with
  | none =>
    dsimp only
    split_ifs <;> rfl
  | some i =>
    rw [World.isLive_eq hi]
    dsimp only
    cases i.live with
    | false => rfl
    | true =>
      cases i.visible with
      | false => rfl
      | true =>
        cases g.drawHandler? i.objectIndex with
        | some r => rfl
        | none => cases i.spriteCommand? <;> rfl

theorem drawDepth_eq (g : Game) (room : Room) (w : World) (depth : Int32) :
    drawDepth g room w depth = ((w.paintAll (g.tileCommands room depth)).liveAt depth).foldlM
      (drawTurn g) (w.paintAll (g.tileCommands room depth)) := by
  rw [drawTurn_eq]
  rfl

section Turns

variable (exec : Exec) (s : Setup) (room : Room)

/-- The depths in turn, each with the world in which it comes. -/
def depthTurns (w : World) : List (World × Int32) :=
  let w := w.paintAll (s.game.layerCommands room false)
  visits exec s (drawDepth s.game room) (World.depths room w) w

/-- The turns at a depth: those of the instances that are live and at that depth when it comes. -/
def drawTurnsAt (before : World) (depth : Int32) : List DrawTurn :=
  let w := before.paintAll (s.game.tileCommands room depth)
  (visits exec s (drawTurn s.game) (w.liveAt depth) w).map fun t => ⟨depth, before, t.1, t.2⟩

def drawTurns (w : World) : List DrawTurn :=
  (depthTurns exec s room w).flatMap fun t => drawTurnsAt exec s room t.1 t.2

theorem trace_drawLayers (w : World) :
    (drawLayers s.game room w).trace exec s =
      (drawTurns exec s room w).flatMap fun t => (drawTurn s.game t.now t.id).trace exec s := by
  have hdepth (w : World) (depth : Int32) : (drawDepth s.game room w depth).trace exec s =
      (drawTurnsAt exec s room w depth).flatMap fun t =>
        (drawTurn s.game t.now t.id).trace exec s := by
    rw [drawDepth_eq, drawTurnsAt, List.flatMap_map]
    exact trace_foldlM exec s (drawTurn s.game) _ _
  -- After the last depth nothing is started.
  have hend (m : Option World) :
      (m.elim [] fun v => (pure (v.paintAll (s.game.layerCommands room true)) : Plan World).trace
        exec s) = [] := by
    cases m <;> rfl
  have hvisits := trace_foldlM exec s (drawDepth s.game room)
    (World.depths room (w.paintAll (s.game.layerCommands room false)))
    (w.paintAll (s.game.layerCommands room false))
  unfold drawLayers
  dsimp only
  rw [trace_bind, hend, List.append_nil, hvisits, drawTurns, List.flatMap_assoc]
  exact List.flatMap_congr fun t _ => hdepth t.1 t.2

end Turns

variable {exec : Exec} {s : Setup} {room : Room}

/-- The instances that have a turn at a depth were live and at that depth when it came. -/
theorem exists_of_mem_drawTurns {w : World} {t : DrawTurn} (ht : t ∈ drawTurns exec s room w) :
    ∃ i, t.before.instance? t.id = some i ∧ i.live = true ∧ i.depth = t.depth := by
  obtain ⟨⟨before, depth⟩, -, ht⟩ := List.mem_flatMap.mp ht
  obtain ⟨u, hu, rfl⟩ := List.mem_map.mp ht
  have hids := (visits_isPrefix exec s (drawTurn s.game) _ _).subset (List.mem_map_of_mem hu)
  obtain ⟨i, hi, hid⟩ := List.mem_map.mp hids
  rw [World.instances_paintAll] at hi
  obtain ⟨hlive, hdepth⟩ := List.mem_filter.mp hi
  obtain ⟨hmem, hlive⟩ := List.mem_filter.mp hlive
  exact ⟨i, hid ▸ World.instance?_of_mem hmem, hlive, by simpa using hdepth⟩

theorem pairwise_drawTurnsAt (w : World) (depth : Int32) :
    (drawTurnsAt exec s room w depth).Pairwise fun t u => t.id ≠ u.id := by
  let v := w.paintAll (s.game.tileCommands room depth)
  have hnodup : (v.liveAt depth).Nodup := v.nodup_liveIds.sublist (List.filter_sublist.map _)
  rw [drawTurnsAt, List.pairwise_map]
  exact List.pairwise_map.mp
    (hnodup.sublist (visits_isPrefix exec s (drawTurn s.game) (v.liveAt depth) v).sublist)

/-- Another turn of an instance comes at a smaller depth. -/
theorem pairwise_drawTurns (w : World) :
    (drawTurns exec s room w).Pairwise fun t u => t.id = u.id → u.depth < t.depth := by
  rw [drawTurns, List.pairwise_flatMap]
  constructor
  · exact fun t _ => (pairwise_drawTurnsAt t.1 t.2).imp fun hne he => absurd he hne
  · let v := w.paintAll (s.game.layerCommands room false)
    have hdepths : (World.depths room v).Pairwise fun a b => b < a := pairwise_descending _
    have hturns := hdepths.sublist
      (visits_isPrefix exec s (drawDepth s.game room) (World.depths room v) v).sublist
    refine (List.pairwise_map.mp hturns).imp fun {a b} hlt t ht u hu _ => ?_
    obtain ⟨_, -, rfl⟩ := List.mem_map.mp ht
    obtain ⟨_, -, rfl⟩ := List.mem_map.mp hu
    exact hlt

end Plan

/-- Whatever code does while a room is drawn, each instance that is drawn was live and at the depth
that had come, and an instance that is drawn before is drawn again only at a smaller depth. So an
instance that is at the same depth whenever it is drawn is drawn once at most. -/
theorem drawn_again_only_nearer (s : Setup) (room : Room) (w : World) :
    (∀ exec, (Plan.drawLayers s.game room w).run exec s = w.drawLayers exec s room) ∧
      ∀ exec,
        let turns := Plan.drawTurns exec s room w
        let drawn := turns.filter fun t => (t.now.drawing? s.game t.id).isSome
        ((Plan.drawLayers s.game room w).trace exec s =
            drawn.flatMap fun t => (Plan.drawTurn s.game t.now t.id).trace exec s) ∧
          (∀ t ∈ drawn,
            ∃ i, t.before.instance? t.id = some i ∧ i.live = true ∧ i.depth = t.depth) ∧
          (drawn.Pairwise fun t u => t.id = u.id → u.depth < t.depth) ∧
          ∀ id depth, (∀ t ∈ drawn, t.id = id → t.depth = depth) →
            drawn.countP (fun t => t.id = id) ≤ 1 := by
  refine ⟨fun exec => Plan.run_drawLayers exec s w room, fun exec => ?_⟩
  intro turns drawn
  have hagain : drawn.Pairwise fun t u => t.id = u.id → u.depth < t.depth :=
    (Plan.pairwise_drawTurns w).filter _
  refine ⟨?_, fun t ht => Plan.exists_of_mem_drawTurns (List.mem_of_mem_filter ht), hagain, ?_⟩
  · rw [Plan.trace_drawLayers]
    refine (flatMap_filter_of_nil (fun t ht => ?_) turns).symm
    have hnone : t.now.drawing? s.game t.id = none := by simpa using ht
    rw [Plan.drawTurn, hnone]
    rfl
  · intro id depth hsame
    rw [List.countP_eq_length_filter]
    have hone : (drawn.filter fun t => t.id = id).Pairwise fun _ _ => False := by
      refine (hagain.filter _).imp_of_mem fun {t u} ht hu hlt => ?_
      obtain ⟨ht, htid⟩ := List.mem_filter.mp ht
      obtain ⟨hu, huid⟩ := List.mem_filter.mp hu
      have htid : t.id = id := by simpa using htid
      have huid : u.id = id := by simpa using huid
      have hlt := hlt (htid.trans huid.symm)
      rw [hsame t ht htid, hsame u hu huid] at hlt
      exact Int32.lt_irrefl hlt
    exact length_le_one_of_pairwise_false hone

/-- When an instance of the first object is drawn it rises to the depth of the second one. -/
def risingSetup : Setup where
  game :=
    { variableTable := #[⟨"depth", Selector.self, 0, 0, 0⟩]
      objects := #[{ depth := 10, events := [[], [], [], [], [], [], [], [], [⟨0, [0]⟩]] }, {}] }
  program :=
    { code := #[⟨#[(Statement.pushImmediate 0).instruction 0,
        { (Statement.popVar Selector.self 0).instruction 4 with variableIndex := 0 }]⟩]
      references := ⟨[], []⟩
      scripts := .empty }
  settings := {}

def risers : World :=
  let join (object : Int32) (w : World) : World := (w.create risingSetup.game object 0 0 none).2
  join 1 (join 0 (.ofSetup risingSetup 0 default))

/-- The draw event of the first instance happens at its own depth and once more at the depth to which
it has risen. -/
theorem drawn_again_after_rising :
    let starts := (Plan.drawLayers risingSetup.game {} risers).trace
      (Machine.execute risingSetup 2) risingSetup
    starts.map (fun x => (x.2, (x.1.instance? 100000).map (·.depth))) =
      [(.drawing 100000 0 [0], some 10), (.drawing 100000 0 [0], some 0)] := by
  decide +kernel

end GameRunner

import GameRunner.Play.Draw
import GameRunner.Play.Step
import GameRunner.Proofs.Play.Plan

/-!
# The plans of a frame

There is a plan for each pass of a frame, for the entering of a room and for the drawing of it.
Running the plan is the pass, for every way to run code, so that what the plan starts is what the
engine starts.
-/

namespace GameRunner

namespace Plan

/-! ### The plans of a frame -/

def fire (w : World) (id : Int32) (type : Nat) (subtype : Int32) (other : Option Int32) :
    Plan World :=
  start w (.event id type subtype other) done

/-- Takes instances in turn, except those that are not live when their turn comes. -/
def visitLive (visit : World → Int32 → Plan World) (w : World) (ids : List Int32) : Plan World :=
  ids.foldlM (fun w id => if w.isLive id then visit w id else pure w) w

def dispatch (w : World) (type : Nat) (subtype : Int32) : Plan World :=
  visitLive (fun w id => fire w id type subtype none) w w.liveIds

def tickAlarm (id : Int32) (w : World) (slot : Fin alarmCount) : Plan World :=
  match w.instance? id with
  | none => pure w
  | some i =>
    if i.destroyed then pure w
    else
      match i.tickAlarm? slot with
      | none => pure w
      | some (ticked, expired) =>
        let w := w.modify id fun _ => ticked
        if expired then
          let w := w.log .debug fun _ => s!"alarm[{slot.val}] fires for {id} at frame {w.frame}"
          fire w id EventType.alarm (Int32.ofNat slot) none
        else pure w

def tickAlarms (w : World) (id : Int32) : Plan World :=
  if ((w.instance? id).map Instance.hasAlarm).getD false then
    (List.finRange alarmCount).foldlM (tickAlarm id) w
  else pure w

def runAlarms (w : World) : Plan World := w.liveIds.foldlM tickAlarms w

def runKeys (w : World) : Plan World :=
  w.keys.pressed.toList.foldlM (fun w key => dispatch w EventType.keyPress key) w

def collideWith (g : Game) (box : Box) (ids : List Int32) (id : Int32) (w : World) (kind : Int32) :
    Plan World :=
  if w.isLive id then
    match w.firstHit? g box id kind ids with
    | some other => fire w id EventType.collision kind (some other)
    | none => pure w
  else pure w

def collide (g : Game) (ids : List Int32) (w : World) (id : Int32) : Plan World :=
  match w.instance? id with
  | none => pure w
  | some i =>
    match i.box? g with
    | none => pure w
    | some box => (g.collisionTargets i.objectIndex).foldlM (collideWith g box ids id) w

def runCollisions (g : Game) (w : World) : Plan World :=
  visitLive (collide g w.liveIds) w w.liveIds

def checkOutside (g : Game) (width height : Float) (w : World) (id : Int32) : Plan World :=
  match w.instance? id with
  | none => pure w
  | some i =>
    let outside := i.isOutside g width height
    if outside = i.outsideRoom then pure w
    else
      let w := w.modify id fun i => { i with outsideRoom := outside }
      if outside then fire w id EventType.misc MiscEvent.outsideRoom none else pure w

def runOutside (g : Game) (w : World) : Plan World :=
  let room := g.room? w.room
  let width := Number.ofInt32 ((room.map (·.width)).getD 0)
  let height := Number.ofInt32 ((room.map (·.height)).getD 0)
  visitLive (checkOutside g width height) w w.liveIds

def animate (g : Game) (w : World) (id : Int32) : Plan World :=
  match w.instance? id with
  | none => pure w
  | some i =>
    let pictures := ((g.sprite? i.spriteIndex).map (·.frames.length)).getD 0
    if pictures ≤ 1 then pure w
    else
      let (i, ended) := i.animate pictures
      let w := w.modify id fun _ => i
      if ended then fire w id EventType.misc MiscEvent.animationEnd none else pure w

def runAnimation (g : Game) (w : World) : Plan World := visitLive (animate g) w w.liveIds

def placeAll (g : Game) (carried : List Int32) : List Placement → World → Plan (List Int32 × World)
  | [], w => pure ([], w)
  | p :: rest, w =>
    if carried.contains p.instanceId then
      placeAll g carried rest (w.log .debug fun _ =>
        s!"placement {p.instanceId} already present as a persistent instance")
    else do
      let (id, w) := w.place g p
      let w ← if 0 ≤ p.creationCode then start w (.placementCode id p.creationCode) done else pure w
      let (ids, w) ← placeAll g carried rest w
      return (id :: ids, w)

def runCreationCode (g : Game) (room : Room) (w : World) : Plan World :=
  if 0 ≤ room.creationCode then
    match w.instances.ids.head? with
    | some id => start w (.roomCode id room.creationCode) done
    | none => do
      let (id, w) := w.create g (-1) 0 0 none
      let w ← start w (.roomCode id room.creationCode) done
      return w.modify id fun i => { i with destroyed := true }
  else pure w

def startGame (w : World) : Plan World :=
  if w.started then pure w
  else dispatch { w with started := true } EventType.misc MiscEvent.gameStart

def startRoom (placed : List Int32) (w : World) : Plan World := do
  let w ← visitLive (fun w id => fire w id EventType.create 0 none) w placed
  let w ← startGame w
  dispatch w EventType.misc MiscEvent.roomStart

/-- What happens in a room once the instances that are not carried over have left. -/
def fillRoom (g : Game) (room : Room) (w : World) : Plan World := do
  let carried := w.instances.ids
  let w := w.log .info fun _ =>
    s!"Entering room {room.name} ({room.width}x{room.height}), {room.placements.length} " ++
      s!"placements, {carried.length} carried over"
  let (placed, w) ← placeAll g carried room.placements w
  let w ← runCreationCode g room w
  startRoom placed w

def enterRoom (g : Game) (w : World) (index : Int32) : Plan World :=
  match g.room? index with
  | none => pure (w.log .warn fun _ => s!"room transition to {index} ignored: no such room")
  | some room => do
    let w ← dispatch w EventType.misc MiscEvent.roomEnd
    fillRoom g room (w.leaveRoom index room)

def enterPending (g : Game) (w : World) : Plan World :=
  match w.pendingRoom with
  | some index => enterRoom g { w with pendingRoom := none } index
  | none => pure w

/-- The part of a frame that comes after the room that has been asked for is entered. -/
def playOn (g : Game) (w : World) : Plan World := do
  let w ← dispatch (w.mapLive Instance.rememberPlace) EventType.step StepEvent.first
  let w ← runAlarms w
  let w ← runKeys w
  let w ← dispatch w EventType.step StepEvent.normal
  let w ← runCollisions g w
  let w ← dispatch w EventType.step StepEvent.last
  let w ← runOutside g ((w.mapLive (Instance.followPath g)).mapLive Instance.applyMotion)
  let w ← runAnimation g w
  return w.purge

def step (g : Game) (w : World) : Plan World := do
  let w ← enterPending g w.beginFrame
  playOn g w

/-- What is left of a frame when the alarms have counted down. -/
def afterAlarms (g : Game) (w : World) : Plan World := do
  let w ← runKeys w
  let w ← dispatch w EventType.step StepEvent.normal
  let w ← runCollisions g w
  let w ← dispatch w EventType.step StepEvent.last
  let w ← runOutside g ((w.mapLive (Instance.followPath g)).mapLive Instance.applyMotion)
  let w ← runAnimation g w
  return w.purge

/-- The part of a frame before the alarms count down. -/
def untilAlarms (g : Game) (w : World) : Plan World := do
  let w ← enterPending g w.beginFrame
  dispatch (w.mapLive Instance.rememberPlace) EventType.step StepEvent.first

/-- In each frame the alarms count down once. -/
theorem step_eq_alarms (g : Game) (w : World) :
    step g w = untilAlarms g w >>= fun w => runAlarms w >>= afterAlarms g :=
  (bind_assoc ..).symm

/-! ### The plans of drawing -/

def drawInstance (g : Game) (w : World) (id : Int32) : Plan World :=
  match w.instance? id with
  | none => pure w
  | some i =>
    if !i.visible then pure w
    else
      match g.drawHandler? i.objectIndex with
      | some (object, handler) =>
        start w (.drawing id object ((handler.actions.take 1).filter (0 ≤ ·))) done
      | none => pure (w.paintAll i.spriteCommand?.toList)

def drawDepth (g : Game) (room : Room) (w : World) (depth : Int32) : Plan World :=
  let w := w.paintAll (g.tileCommands room depth)
  visitLive (drawInstance g) w (w.liveAt depth)

def drawLayers (g : Game) (room : Room) (w : World) : Plan World := do
  let w := w.paintAll (g.layerCommands room false)
  let w ← (World.depths room w).foldlM (drawDepth g room) w
  return w.paintAll (g.layerCommands room true)

def drawView (g : Game) (room : Room) (w : World) (index : Nat) : Plan World :=
  match w.views[index]? with
  | none => pure w
  | some v =>
    match World.clampView room v with
    | none => broken
    | some v =>
      let w := { w with currentView := Int32.ofNat index, views := w.views.set index v }
      let w := w.paint (.view (World.viewRect v))
      let w := w.paintAll (if index = 0 then World.clearCommands room else [])
      drawLayers g room w

def draw (g : Game) (w : World) : Plan World :=
  match g.room? w.room with
  | none => pure w
  | some room =>
    let w := { w with screen := w.screen.begin }
    match w.enabledViews with
    | [] =>
      let w := { w with currentView := 0 }.paint (.view (World.wholeRoom g room))
      drawLayers g room (w.paintAll (World.clearCommands room))
    | enabled => enabled.foldlM (drawView g room) w

/-! ### Own changes -/

section Changing

variable {exec : Exec} {s : Setup} {R : World → World → Prop}

/-- Where nothing but a start happens, there are no changes that are not made by code. -/
theorem ownChanges_fire (hrefl : ∀ w, R w w) (w : World) (i : Int32) (type : Nat) (subtype : Int32)
    (other : Option Int32) : (fire w i type subtype other).OwnChanges exec s R id w :=
  ⟨hrefl w, fun v _ => hrefl v⟩

theorem ownChanges_visitLive (hrefl : ∀ w, R w w) (htrans : ∀ w v u, R w v → R v u → R w u)
    {visit : World → Int32 → Plan World}
    (h : ∀ w i, (visit w i).OwnChanges exec s R id w) (w : World) (ids : List Int32) :
    (visitLive visit w ids).OwnChanges exec s R id w := by
  refine .foldlM hrefl htrans (fun w i => ?_) ids w
  split_ifs
  · exact h w i
  · exact hrefl w

theorem ownChanges_dispatch (hrefl : ∀ w, R w w) (htrans : ∀ w v u, R w v → R v u → R w u)
    (w : World) (type : Nat) (subtype : Int32) :
    (dispatch w type subtype).OwnChanges exec s R id w :=
  ownChanges_visitLive hrefl htrans (fun w i => ownChanges_fire hrefl w i type subtype none) w _

theorem ownChanges_runKeys (hrefl : ∀ w, R w w) (htrans : ∀ w v u, R w v → R v u → R w u)
    (w : World) : (runKeys w).OwnChanges exec s R id w :=
  .foldlM hrefl htrans (fun w key => ownChanges_dispatch hrefl htrans w _ key) _ w

theorem ownChanges_runCollisions (g : Game) (hrefl : ∀ w, R w w)
    (htrans : ∀ w v u, R w v → R v u → R w u) (w : World) :
    (runCollisions g w).OwnChanges exec s R id w := by
  refine ownChanges_visitLive hrefl htrans (fun w i => ?_) w _
  unfold collide
  split
  · exact hrefl w
  · split
    · exact hrefl w
    · refine .foldlM hrefl htrans (fun w kind => ?_) _ w
      unfold collideWith
      split_ifs
      · split
        · exact ownChanges_fire hrefl w i _ kind _
        · exact hrefl w
      · exact hrefl w

theorem ownChanges_runOutside (g : Game) (hrefl : ∀ w, R w w)
    (htrans : ∀ w v u, R w v → R v u → R w u)
    (hmark : ∀ (w : World) (i : Int32) (found : Instance) (outside : Bool),
      w.instance? i = some found → R w (w.modify i fun i => { i with outsideRoom := outside }))
    (w : World) : (runOutside g w).OwnChanges exec s R id w := by
  refine ownChanges_visitLive hrefl htrans (fun w i => ?_) w _
  unfold checkOutside
  split
  · exact hrefl w
  · next found hi =>
    dsimp only
    split_ifs
    · exact hrefl w
    · exact .before htrans (hmark w i found _ hi) (ownChanges_fire hrefl _ i _ _ none)
    · exact hmark w i found _ hi

theorem ownChanges_runAnimation (g : Game) (hrefl : ∀ w, R w w)
    (htrans : ∀ w v u, R w v → R v u → R w u)
    (hanimate : ∀ (w : World) (i : Int32) (found : Instance) (pictures : Nat),
      w.instance? i = some found → R w (w.modify i fun _ => (found.animate pictures).1))
    (w : World) : (runAnimation g w).OwnChanges exec s R id w := by
  refine ownChanges_visitLive hrefl htrans (fun w i => ?_) w _
  unfold animate
  split
  · exact hrefl w
  · next found hi =>
    dsimp only
    split_ifs
    · exact hrefl w
    · exact .before htrans (hanimate w i found _ hi) (ownChanges_fire hrefl _ i _ _ none)
    · exact hanimate w i found _ hi

/-- By itself the engine changes nothing of the instances, of the current room and of the one that is
to be entered when it draws. -/
theorem ownChanges_draw (g : Game) (htrans : ∀ w v u, R w v → R v u → R w u)
    (hstill : ∀ w v : World, v.instances = w.instances → v.room = w.room →
      v.pendingRoom = w.pendingRoom → R w v) (w : World) :
    (draw g w).OwnChanges exec s R id w := by
  have hrefl : ∀ w, R w w := fun w => hstill w w rfl rfl rfl
  have hpaint (w : World) (commands : List DrawCommand) : R w (w.paintAll commands) := by
    unfold World.paintAll
    induction commands generalizing w with
    | nil => exact hrefl w
    | cons c rest ih => exact htrans _ _ _ (hstill w (w.paint c) rfl rfl rfl) (ih (w.paint c))
  have hinstance (w : World) (i : Int32) : (drawInstance g w i).OwnChanges exec s R id w := by
    unfold drawInstance
    split
    · exact hrefl w
    · split_ifs
      · exact hrefl w
      · split
        · exact ⟨hrefl w, fun v _ => hrefl v⟩
        · exact hpaint w _
  have hlayers (room : Room) (w : World) : (drawLayers g room w).OwnChanges exec s R id w := by
    have hdepth (w : World) (depth : Int32) : (drawDepth g room w depth).OwnChanges exec s R id w :=
      .before htrans (hpaint w _) (ownChanges_visitLive hrefl htrans hinstance _ _)
    exact .before htrans (hpaint w _)
      (.bind htrans (.foldlM hrefl htrans hdepth _ _) fun v _ => hpaint v _)
  have hview (room : Room) (w : World) (index : Nat) :
      (drawView g room w index).OwnChanges exec s R id w := by
    unfold drawView
    split
    · exact hrefl w
    · split
      · trivial
      · refine .before htrans ?_ (.before htrans (hpaint _ _) (hlayers room _))
        exact hstill _ _ rfl rfl rfl
  unfold draw
  split
  · exact hrefl w
  · next room _ =>
    refine .before (v := { w with screen := w.screen.begin }) htrans (hstill _ _ rfl rfl rfl) ?_
    dsimp only
    split
    · refine .before htrans ?_ (.before htrans (hpaint _ _) (hlayers room _))
      exact hstill _ _ rfl rfl rfl
    · exact .foldlM hrefl htrans (hview room) _ _

theorem ownChanges_placeAll {g : Game} {carried : List Int32} (hrefl : ∀ w, R w w)
    (htrans : ∀ w v u, R w v → R v u → R w u) (hlog : ∀ w severity line, R w (w.log severity line))
    (hplace : ∀ (w : World) (p : Placement), p.instanceId ∉ carried → R w (w.place g p).2)
    (placements : List Placement) (w : World) :
    (placeAll g carried placements w).OwnChanges exec s R Prod.snd w := by
  induction placements generalizing w with
  | nil => exact hrefl w
  | cons p rest ih =>
    unfold placeAll
    split_ifs with hcarried hcode
    · exact .before htrans (hlog w .debug _) (ih _)
    · have hfree : p.instanceId ∉ carried := by simpa using hcarried
      refine .bind (p := id) htrans ⟨hplace w p hfree, fun v _ => hrefl v⟩ fun v _ => ?_
      exact .bind htrans (ih v) fun r _ => hrefl r.2
    · have hfree : p.instanceId ∉ carried := by simpa using hcarried
      refine .bind (p := id) htrans (hplace w p hfree) fun v _ => ?_
      exact .bind htrans (ih v) fun r _ => hrefl r.2

theorem ownChanges_startRoom (hrefl : ∀ w, R w w) (htrans : ∀ w v u, R w v → R v u → R w u)
    (hstarted : ∀ w, R w { w with started := true }) (placed : List Int32) (w : World) :
    (startRoom placed w).OwnChanges exec s R id w := by
  refine .bind htrans (ownChanges_visitLive hrefl htrans (fun w i => ?_) w placed) fun v _ => ?_
  · exact ownChanges_fire hrefl w i _ 0 none
  · refine .bind (p := id) htrans ?_ fun u _ => ownChanges_dispatch hrefl htrans u _ _
    unfold startGame
    split_ifs
    · exact hrefl v
    · exact .before htrans (hstarted v) (ownChanges_dispatch hrefl htrans _ _ _)

end Changing

/-! ### Running the plans -/

section Passes

variable (exec : Exec) (s : Setup) (w : World)

theorem run_visitLive (visit : World → Int32 → Plan World) (ids : List Int32) :
    (visitLive visit w ids).run exec s = w.visitLive (fun w id => (visit w id).run exec s) ids := by
  refine (run_foldlM exec s _ ids w).trans ?_
  unfold World.visitLive
  congr
  funext w id
  split_ifs <;> rfl

@[simp] theorem run_fire (id : Int32) (type : Nat) (subtype : Int32) (other : Option Int32) :
    (fire w id type subtype other).run exec s = w.fire exec s id type subtype other :=
  run_start ..

@[simp] theorem trace_fire (id : Int32) (type : Nat) (subtype : Int32) (other : Option Int32) :
    (fire w id type subtype other).trace exec s = [(w, .event id type subtype other)] :=
  trace_start ..

@[simp] theorem run_dispatch (type : Nat) (subtype : Int32) :
    (dispatch w type subtype).run exec s = w.dispatch exec s type subtype := by
  simp only [dispatch, run_visitLive, run_fire, World.dispatch]

theorem run_tickAlarm (id : Int32) (slot : Fin alarmCount) :
    (tickAlarm id w slot).run exec s = w.tickAlarm exec s id slot := by
  unfold tickAlarm World.tickAlarm
  cases w.instance? id with
  | none => rfl
  | some i =>
    dsimp only
    split_ifs
    · rfl
    · cases i.tickAlarm? slot with
      | none => rfl
      | some r =>
        dsimp only
        split_ifs
        · exact run_fire ..
        · rfl

theorem run_runAlarms : (runAlarms w).run exec s = w.runAlarms exec s := by
  have htick (w : World) (id : Int32) : (tickAlarms w id).run exec s = w.tickAlarms exec s id := by
    unfold tickAlarms World.tickAlarms
    split_ifs
    · simp only [run_foldlM, run_tickAlarm]
    · rfl
  simp only [runAlarms, run_foldlM, htick, World.runAlarms]

theorem run_runKeys : (runKeys w).run exec s = w.runKeys exec s := by
  simp only [runKeys, run_foldlM, run_dispatch, World.runKeys]

theorem run_collide (ids : List Int32) (id : Int32) :
    (collide s.game ids w id).run exec s = w.collide exec s ids id := by
  unfold collide World.collide
  cases w.instance? id with
  | none => rfl
  | some i =>
    dsimp only
    cases i.box? s.game with
    | none => rfl
    | some box =>
      refine (run_foldlM exec s _ _ w).trans (congrArg (List.foldlM · w _) ?_)
      funext w kind
      unfold collideWith
      split_ifs
      · cases w.firstHit? s.game box id kind ids with
        | none => rfl
        | some other => exact run_fire ..
      · rfl

theorem run_runCollisions : (runCollisions s.game w).run exec s = w.runCollisions exec s := by
  simp only [runCollisions, run_visitLive, run_collide, World.runCollisions]

theorem run_runOutside : (runOutside s.game w).run exec s = w.runOutside exec s := by
  have hcheck (width height : Float) (w : World) (id : Int32) :
      (checkOutside s.game width height w id).run exec s =
        w.checkOutside exec s width height id := by
    unfold checkOutside World.checkOutside
    cases w.instance? id with
    | none => rfl
    | some i =>
      dsimp only
      split_ifs
      · rfl
      · exact run_fire ..
      · rfl
  simp only [runOutside, run_visitLive, hcheck, World.runOutside]

theorem run_runAnimation : (runAnimation s.game w).run exec s = w.runAnimation exec s := by
  have hanimate (w : World) (id : Int32) :
      (animate s.game w id).run exec s = w.animate exec s id := by
    unfold animate World.animate
    cases w.instance? id with
    | none => rfl
    | some i =>
      dsimp only
      split_ifs
      · rfl
      · exact run_fire ..
      · rfl
  simp only [runAnimation, run_visitLive, hanimate, World.runAnimation]

theorem run_placeAll (g : Game) (carried : List Int32) (placements : List Placement) :
    (placeAll g carried placements w).run exec s = World.placeAll exec g carried placements w := by
  induction placements generalizing w with
  | nil => rfl
  | cons p rest ih =>
    unfold placeAll World.placeAll
    split_ifs
    · exact ih _
    · simp only [run_bind, run_start, ih]
      rfl
    · simp only [run_bind, ih]
      rfl

theorem run_runCreationCode (g : Game) (room : Room) :
    (runCreationCode g room w).run exec s = w.runCreationCode exec g room := by
  unfold runCreationCode World.runCreationCode
  split_ifs
  · cases w.instances.ids.head? with
    | none =>
      simp only [run_bind, run_start]
      rfl
    | some id => exact run_start ..
  · rfl

theorem run_startRoom (placed : List Int32) :
    (startRoom placed w).run exec s = w.startRoom exec s placed := by
  have hgame (w : World) : (startGame w).run exec s = w.startGame exec s := by
    unfold startGame World.startGame
    split_ifs
    · rfl
    · exact run_dispatch ..
  simp only [startRoom, run_bind, run_visitLive, run_fire, hgame, run_dispatch, World.startRoom]
  rfl

theorem run_enterRoom (index : Int32) :
    (enterRoom s.game w index).run exec s = w.enterRoom exec s index := by
  unfold enterRoom World.enterRoom
  cases s.game.room? index with
  | none => rfl
  | some room =>
    simp only [fillRoom, run_bind, run_dispatch, run_placeAll, run_runCreationCode, run_startRoom]
    rfl

theorem run_enterPending : (enterPending s.game w).run exec s = w.enterPending exec s := by
  unfold enterPending World.enterPending
  cases w.pendingRoom with
  | none => rfl
  | some index => exact run_enterRoom ..

/-- Running the plan of a frame is playing the frame. -/
theorem run_step : (step s.game w).run exec s = w.step exec s := by
  simp only [step, playOn, run_bind, run_pure, run_enterPending, run_dispatch, run_runAlarms,
    run_runKeys, run_runCollisions, run_runOutside, run_runAnimation, World.step]
  rfl

theorem run_drawInstance (id : Int32) :
    (drawInstance s.game w id).run exec s = w.drawInstance exec s id := by
  unfold drawInstance World.drawInstance
  cases w.instance? id with
  | none => rfl
  | some i =>
    dsimp only
    split_ifs
    · rfl
    · cases s.game.drawHandler? i.objectIndex with
      | none => rfl
      | some r => exact run_start ..

theorem run_drawLayers (room : Room) :
    (drawLayers s.game room w).run exec s = w.drawLayers exec s room := by
  simp only [drawLayers, drawDepth, run_bind, run_foldlM, run_visitLive, run_drawInstance]
  rfl

theorem run_draw : (draw s.game w).run exec s = w.draw exec s := by
  have hview (room : Room) (w : World) (index : Nat) :
      (drawView s.game room w index).run exec s = w.drawView exec s room index := by
    unfold drawView World.drawView
    cases w.views[index]? with
    | none => rfl
    | some v =>
      dsimp only
      cases World.clampView room v with
      | none => rfl
      | some v => exact run_drawLayers ..
  unfold draw World.draw
  cases s.game.room? w.room with
  | none => rfl
  | some room =>
    dsimp only
    generalize ({ w with screen := w.screen.begin } : World) = v
    cases v.enabledViews with
    | nil => exact run_drawLayers ..
    | cons first rest => simp only [run_foldlM, hview]

end Passes

end Plan

end GameRunner

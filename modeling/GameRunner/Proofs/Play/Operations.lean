import GameRunner.Proofs.Machine.Running
import GameRunner.Proofs.Play.Changes

/-!
# Playing is an activity

The passes of a frame, the entering of a room and the drawing of a room run code on one instance
after the other. Apart from the code they change the world in the ways that there are.
-/

namespace GameRunner

namespace Activity

variable {g : Game} {α : Type} {p : α → World} {w v : World} {m : Exec → Option α}

theorem ofCode (h : Activity (Deed g) p w m) : Activity (Happening g) p w m :=
  h.mono fun _ _ he => he.toAbiding.mono fun _ _ => .code

theorem altered (h : Activity (Happening g) p v m) (he : Happening g w v) :
    Activity (Happening g) p w m :=
  .act he h

theorem logged {s : Severity} {line : Unit → String}
    (h : Activity (Happening g) p (w.log s line) m) : Activity (Happening g) p w m :=
  h.altered ⟨.quiet (Quiet.log w s line), .log w s line⟩

end Activity

theorem Instance.isPicture_spriteCommand? (i : Instance) {c : DrawCommand}
    (h : i.spriteCommand? = some c) : c.isPicture = true := by
  unfold spriteCommand? at h
  split_ifs at h
  cases h
  rfl

theorem Game.isPicture_tileCommands (g : Game) {room : Room} {depth : Int32} {c : DrawCommand}
    (h : c ∈ g.tileCommands room depth) : c.isPicture = true := by
  obtain ⟨t, -, rfl⟩ := List.mem_map.mp h
  rfl

theorem Game.isPicture_layerCommands (g : Game) {room : Room} {foreground : Bool} {c : DrawCommand}
    (h : c ∈ g.layerCommands room foreground) : c.isPicture = true := by
  obtain ⟨l, -, rfl⟩ := List.mem_map.mp h
  rfl

namespace World

theorem happening_mapLive {g : Game} {w : World} {f : Instance → Instance}
    (hf : ∀ i : Instance, i.Moved (f i)) : Happening g w (w.mapLive f) :=
  ⟨.mapLive hf, .of_eq rfl rfl rfl rfl rfl⟩

theorem activity_visitLive {E : World → World → Prop} {visit : Exec → World → Int32 → Option World}
    (h : ∀ w c, Activity E id w fun exec => visit exec w c) (w : World) (ids : List Int32) :
    Activity E id w fun exec => w.visitLive (visit exec) ids := by
  refine Activity.foldlM (fun w c => ?_) ids w
  split_ifs
  · exact h w c
  · exact .done (p := id) w

theorem activity_dispatch (s : Setup) (w : World) (type : Nat) (subtype : Int32) :
    Activity (Happening s.game) id w fun exec => w.dispatch exec s type subtype :=
  activity_visitLive (fun w c => (activity_fire s w c type subtype none).ofCode) w _

/-! ### The passes of a frame -/

theorem activity_tickAlarm (s : Setup) (self : Int32) (w : World) (slot : Fin alarmCount) :
    Activity (Happening s.game) id w fun exec => w.tickAlarm exec s self slot := by
  unfold tickAlarm
  split
  · exact .done (p := id) w
  · next i hi =>
    split_ifs
    · exact .done (p := id) w
    · split
      · exact .done (p := id) w
      · next ticked expired htick =>
        obtain ⟨hobject, hdestroyed⟩ := Instance.retains_tickAlarm? htick
        have htick : Happening s.game w (w.modify self fun _ => ticked) :=
          ⟨.modify hi hobject hdestroyed.trans, .of_eq rfl rfl rfl rfl rfl⟩
        dsimp only
        split_ifs
        · exact (activity_fire s _ self _ _ none).ofCode.logged.altered htick
        · exact .finish (p := id) htick

theorem activity_runAlarms (s : Setup) (w : World) :
    Activity (Happening s.game) id w fun exec => w.runAlarms exec s := by
  refine Activity.foldlM (fun w c => ?_) _ w
  unfold tickAlarms
  split_ifs
  · exact Activity.foldlM (activity_tickAlarm s c) _ w
  · exact .done (p := id) w

theorem activity_collide (s : Setup) (ids : List Int32) (w : World) (self : Int32) :
    Activity (Happening s.game) id w fun exec => w.collide exec s ids self := by
  unfold collide
  split
  · exact .done (p := id) w
  · split
    · exact .done (p := id) w
    · refine Activity.foldlM (fun w kind => ?_) _ w
      split_ifs
      · split
        · exact (activity_fire s w self _ kind _).ofCode
        · exact .done (p := id) w
      · exact .done (p := id) w

theorem activity_runCollisions (s : Setup) (w : World) :
    Activity (Happening s.game) id w fun exec => w.runCollisions exec s :=
  activity_visitLive (fun w c => activity_collide s _ w c) w _

theorem activity_runKeys (s : Setup) (w : World) :
    Activity (Happening s.game) id w fun exec => w.runKeys exec s :=
  Activity.foldlM (fun w key => activity_dispatch s w _ key) _ w

theorem activity_checkOutside (s : Setup) (width height : Float) (w : World) (self : Int32) :
    Activity (Happening s.game) id w fun exec => w.checkOutside exec s width height self := by
  unfold checkOutside
  split
  · exact .done (p := id) w
  · next i hi =>
    have hmark (outside : Bool) :
        Happening s.game w (w.modify self fun i => { i with outsideRoom := outside }) :=
      ⟨.modify hi rfl fun h => h, .of_eq rfl rfl rfl rfl rfl⟩
    dsimp only
    split_ifs
    · exact .done (p := id) w
    · exact (activity_fire s _ self _ _ none).ofCode.altered (hmark _)
    · exact .finish (p := id) (hmark _)

theorem activity_animate (s : Setup) (w : World) (self : Int32) :
    Activity (Happening s.game) id w fun exec => w.animate exec s self := by
  unfold animate
  split
  · exact .done (p := id) w
  · next i hi =>
    have hanimate (pictures : Nat) :
        Happening s.game w (w.modify self fun _ => (i.animate pictures).1) :=
      ⟨.modify hi (i.moved_animate pictures).objectIndex (i.moved_animate pictures).destroyed.trans,
        .of_eq rfl rfl rfl rfl rfl⟩
    dsimp only
    split_ifs
    · exact .done (p := id) w
    · exact (activity_fire s _ self _ _ none).ofCode.altered (hanimate _)
    · exact .finish (p := id) (hanimate _)

/-! ### Entering a room -/

theorem activity_placeAll (g : Game) (carried : List Int32) {placements : List Placement}
    (hp : placements ⊆ g.placements) (w : World) :
    Activity (Happening g) Prod.snd w fun exec => placeAll exec g carried placements w := by
  induction placements generalizing w with
  | nil => exact .done (p := Prod.snd) (_, w)
  | cons p rest ih =>
    obtain ⟨hp, hrest⟩ := List.cons_subset.mp hp
    unfold placeAll
    split_ifs with hcarried hcode
    · exact (ih hrest _).logged
    · refine Activity.altered ?_ ⟨.place hp, .of_eq rfl rfl rfl rfl rfl⟩
      refine Activity.bind (p := id) (.run p.creationCode (w.place g p).1 none) fun v => ?_
      exact (ih hrest v).bind fun r => .done (p := Prod.snd) (_ :: r.1, r.2)
    · refine Activity.altered ?_ ⟨.place hp, .of_eq rfl rfl rfl rfl rfl⟩
      exact (ih hrest _).bind fun r => .done (p := Prod.snd) (_ :: r.1, r.2)

theorem activity_runCreationCode (g : Game) (room : Room) (w : World) :
    Activity (Happening g) id w fun exec => w.runCreationCode exec g room := by
  unfold runCreationCode
  split_ifs
  · split
    · exact .run _ _ none
    · refine Activity.altered ?_ ⟨.code (.create (-1) 0 0), .of_eq rfl rfl rfl rfl rfl⟩
      refine (Activity.run room.creationCode _ none).bind fun v => ?_
      exact .finish (p := id) ⟨.code (.modify _ retains_destroyed), .of_eq rfl rfl rfl rfl rfl⟩
  · exact .done (p := id) w

theorem activity_startRoom (s : Setup) (placed : List Int32) (w : World) :
    Activity (Happening s.game) id w fun exec => w.startRoom exec s placed := by
  have hcreate (w : World) (c : Int32) : Activity (Happening s.game) id w fun exec =>
      w.fire exec s c EventType.create 0 none := (activity_fire s w c EventType.create 0 none).ofCode
  refine (activity_visitLive hcreate w placed).bind fun v => ?_
  have hstart : Activity (Happening s.game) id v fun exec => v.startGame exec s := by
    unfold startGame
    split_ifs
    · exact .done (p := id) v
    · exact (activity_dispatch s _ _ _).altered ⟨.still rfl rfl rfl, .of_eq rfl rfl rfl rfl rfl⟩
  exact hstart.bind fun u => activity_dispatch s u _ _

theorem activity_enterRoom (s : Setup) (w : World) (index : Int32) :
    Activity (Happening s.game) id w fun exec => w.enterRoom exec s index := by
  unfold enterRoom
  split
  · exact .finish (p := id) ⟨.quiet (Quiet.log w _ _), .log w _ _⟩
  · next room hroom =>
    have hfill (carried : List Int32) (w : World) : Activity (Happening s.game) id w fun exec =>
        (placeAll exec s.game carried room.placements w).bind fun r =>
          (r.2.runCreationCode exec s.game room).bind fun w => w.startRoom exec s r.1 :=
      (activity_placeAll s.game carried (Game.sublist_placements hroom).subset w).bind fun r =>
        (activity_runCreationCode s.game room r.2).bind fun w => activity_startRoom s r.1 w
    refine (activity_dispatch s w _ _).bind fun v => ?_
    exact (hfill _ _).logged.altered (w := v)
      ⟨.drop _ rfl rfl rfl, .of_eq rfl rfl rfl rfl rfl⟩

theorem activity_enterPending (s : Setup) (w : World) :
    Activity (Happening s.game) id w fun exec => w.enterPending exec s := by
  unfold enterPending
  split
  · exact (activity_enterRoom s _ _).altered ⟨.still rfl rfl rfl, .of_eq rfl rfl rfl rfl rfl⟩
  · exact .done (p := id) w

/-- A frame, once it has begun. -/
theorem activity_frame (s : Setup) (w : World) :
    Activity (Happening s.game) id w.beginFrame fun exec => w.step exec s := by
  refine (activity_enterPending s _).bind fun w => ?_
  refine Activity.altered ?_ (happening_mapLive Instance.moved_rememberPlace)
  refine (activity_dispatch s _ _ _).bind fun w => ?_
  refine (activity_runAlarms s w).bind fun w => ?_
  refine (activity_runKeys s w).bind fun w => ?_
  refine (activity_dispatch s w _ _).bind fun w => ?_
  refine (activity_runCollisions s w).bind fun w => ?_
  refine (activity_dispatch s w _ _).bind fun w => ?_
  refine Activity.altered ?_ (happening_mapLive (Instance.moved_followPath s.game))
  refine Activity.altered ?_ (happening_mapLive Instance.moved_applyMotion)
  refine (activity_visitLive (activity_checkOutside s _ _) _ _).bind fun w => ?_
  refine (activity_visitLive (activity_animate s) w _).bind fun w => ?_
  exact .finish (p := id) ⟨.drop Instance.live rfl rfl rfl, .of_eq rfl rfl rfl rfl rfl⟩

theorem still_beginFrame (g : Game) (w : World) : Change g w w.beginFrame := by
  unfold beginFrame
  dsimp only
  split <;> exact .still rfl rfl rfl

theorem cutOff_beginFrame (w : World) : w.beginFrame.cutOff = w.cutOff := by
  unfold beginFrame
  dsimp only
  split <;> rfl

/-! ### Drawing -/

theorem happening_paintAll {g : Game} (w : World) (commands : List DrawCommand) :
    Happening g w (w.paintAll commands) := by
  have h : (w.paintAll commands).instances = w.instances ∧
      (w.paintAll commands).nextId = w.nextId ∧ (w.paintAll commands).context = w.context ∧
      w.Abides (w.paintAll commands) := by
    unfold paintAll
    induction commands generalizing w with
    | nil => exact ⟨rfl, rfl, rfl, .refl w⟩
    | cons c rest ih =>
      obtain ⟨hi, hn, hc, ha⟩ := ih (w.paint c)
      exact ⟨hi, hn, hc, .trans (v := w.paint c) (.of_eq rfl rfl rfl rfl rfl) ha⟩
  exact ⟨.still h.1 h.2.1 h.2.2.1, h.2.2.2⟩

/-! Between two changes of the view only pictures are drawn, by code or by the engine. -/

section Layers

variable {E : World → World → Prop}
  (hpaint : ∀ (w : World) (commands : List DrawCommand), (∀ c ∈ commands, c.isPicture = true) →
    E w (w.paintAll commands))

include hpaint

theorem activity_drawInstance (s : Setup) (w : World) (self : Int32) :
    Activity E id w fun exec => w.drawInstance exec s self := by
  unfold drawInstance
  split
  · exact .done (p := id) w
  · next i _ =>
    split_ifs
    · exact .done (p := id) w
    · split
      · exact activity_during _ (activity_runAll self none _ _)
      · refine .finish (p := id) (hpaint w _ fun c hc => ?_)
        exact i.isPicture_spriteCommand? (Option.mem_toList.mp hc)

theorem activity_drawLayers (s : Setup) (room : Room) (w : World) :
    Activity E id w fun exec => w.drawLayers exec s room := by
  have hdepth (w : World) (depth : Int32) :
      Activity E id w fun exec => w.drawDepth exec s room depth :=
    .act (hpaint w _ fun _ => s.game.isPicture_tileCommands)
      (activity_visitLive (activity_drawInstance hpaint s) _ _)
  refine .act (hpaint w (s.game.layerCommands room false) fun _ => s.game.isPicture_layerCommands) ?_
  refine (Activity.foldlM hdepth _ _).bind fun w => ?_
  exact .finish (p := id) (hpaint w _ fun _ => s.game.isPicture_layerCommands)

end Layers

theorem activity_drawOnto (s : Setup) (room : Room) (commands : List DrawCommand) (w : World) :
    Activity (Happening s.game) id w fun exec => (w.paintAll commands).drawLayers exec s room :=
  .act (happening_paintAll w commands)
    (activity_drawLayers (fun w commands _ => happening_paintAll w commands) s room _)

theorem activity_drawView (s : Setup) (room : Room) (w : World) (index : Nat) :
    Activity (Happening s.game) id w fun exec => w.drawView exec s room index := by
  unfold drawView
  split
  · exact .done (p := id) w
  · next view _ =>
    cases clampView room view with
    | none => exact .stuck
    | some clamped =>
      exact (activity_drawOnto s room _ _).altered ⟨.still rfl rfl rfl, .of_eq rfl rfl rfl rfl rfl⟩

theorem activity_draw (s : Setup) (w : World) :
    Activity (Happening s.game) id w fun exec => w.draw exec s := by
  unfold draw
  split
  · exact .done (p := id) w
  · next room _ =>
    refine Activity.altered (v := { w with screen := w.screen.begin }) ?_
      ⟨.still rfl rfl rfl, .of_eq rfl rfl rfl rfl rfl⟩
    dsimp only
    split
    · exact (activity_drawOnto s room _ _).altered ⟨.still rfl rfl rfl, .of_eq rfl rfl rfl rfl rfl⟩
    · exact Activity.foldlM (activity_drawView s room) _ _

end World

end GameRunner

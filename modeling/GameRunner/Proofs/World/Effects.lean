import GameRunner.Library.Action
import GameRunner.Proofs.World.Abiding
import GameRunner.Proofs.World.Activity
import GameRunner.Proofs.World.Pictures
import GameRunner.Proofs.World.Strokes

/-!
# Effects of code

Whatever code does to the world comes down to three effects: it changes an instance, it makes a new
one, or it changes something that concerns neither the roster nor the course of the game. All of them
stay within the frame, and whatever code adds to the screen is a picture. In particular every write to
a variable is made of such effects.
-/

namespace GameRunner

/-- A change of instances that leaves the object alone and does not bring back what is destroyed. -/
structure Instance.Retains (f : Instance → Instance) : Prop where
  objectIndex (i : Instance) : (f i).objectIndex = i.objectIndex
  destroyed (i : Instance) : i.destroyed = true → (f i).destroyed = true

/-- A change of the world that concerns neither the roster nor the course of the game. -/
structure Quiet (w v : World) : Prop where
  instances : v.instances = w.instances
  nextId : v.nextId = w.nextId
  room : v.room = w.room
  viewCount : v.views.length = w.views.length
  frame : v.frame = w.frame
  started : v.started = w.started
  recording : v.recording = w.recording
  playback : v.playback = w.playback
  context : v.context = w.context

/-- What code can do to the world at a time. -/
inductive Effect (g : Game) : World → World → Prop
  | quiet {w v : World} : Quiet w v → Effect g w v
  | modify {w : World} (id : Int32) {f : Instance → Instance} :
    Instance.Retains f → Effect g w (w.modify id f)
  | create {w : World} (object : Int32) (x y : Float) :
    Effect g w (w.create g object x y none).2

/-- A change that besides concerns neither the keys, the entries that were cut off nor the screen. -/
structure Mild (w v : World) : Prop where
  instances : v.instances = w.instances
  nextId : v.nextId = w.nextId
  room : v.room = w.room
  viewCount : v.views.length = w.views.length
  frame : v.frame = w.frame
  started : v.started = w.started
  recording : v.recording = w.recording
  playback : v.playback = w.playback
  context : v.context = w.context
  keys : v.keys = w.keys
  cutOff : v.cutOff = w.cutOff
  screen : v.screen = w.screen

/-- What code can do to the world: it stays within the frame, and all that it draws are pictures. -/
structure Deed (g : Game) (w v : World) : Prop extends Abiding (Effect g) w v where
  pictures : w.AddsPictures v

/-- What code can do to the world by and by. -/
abbrev Deeds (g : Game) : World → World → Prop := Relation.ReflTransGen (Deed g)

namespace Instance

theorem Retains.of_eq {f : Instance → Instance}
    (h : ∀ i, (f i).objectIndex = i.objectIndex ∧ (f i).destroyed = i.destroyed) : Retains f :=
  ⟨fun i => (h i).1, fun i hi => (h i).2.trans hi⟩

theorem retains_withField? {i j : Instance} {name : String} {v : Value}
    (h : i.withField? name v = some j) :
    j.objectIndex = i.objectIndex ∧ j.destroyed = i.destroyed := by
  unfold withField? at h
  split at h <;> cases h <;> exact ⟨rfl, rfl⟩

theorem retains_store (name : String) (v : Value) : Retains fun i => i.store name v := by
  have h (i : Instance) : (i.store name v).objectIndex = i.objectIndex ∧
      (i.store name v).destroyed = i.destroyed := by
    unfold store
    split
    · next hj => exact retains_withField? hj
    · exact ⟨rfl, rfl⟩
  exact .of_eq h

theorem retains_storeElement (name : String) (index : Int32) (v : Value) :
    Retains fun i => i.storeElement name index v := by
  have h (i : Instance) : (i.storeElement name index v).objectIndex = i.objectIndex ∧
      (i.storeElement name index v).destroyed = i.destroyed := by
    unfold storeElement
    split_ifs <;> exact ⟨rfl, rfl⟩
  exact .of_eq h

theorem retains_startPath (path : Int32) (speed : Float) (endAction : Int32) (absolute : Bool)
    (start : PathPoint) : Retains fun i => i.startPath path speed endAction absolute start := by
  have h (i : Instance) : (i.startPath path speed endAction absolute start).objectIndex =
      i.objectIndex ∧ (i.startPath path speed endAction absolute start).destroyed =
        i.destroyed := by
    unfold startPath
    dsimp only
    split_ifs <;> exact ⟨rfl, rfl⟩
  exact .of_eq h

end Instance

namespace Mild

variable {w v u : World}

theorem refl (w : World) : Mild w w := by
  constructor <;> rfl

theorem trans (h : Mild w v) (h' : Mild v u) : Mild w u where
  instances := h'.instances.trans h.instances
  nextId := h'.nextId.trans h.nextId
  room := h'.room.trans h.room
  viewCount := h'.viewCount.trans h.viewCount
  frame := h'.frame.trans h.frame
  started := h'.started.trans h.started
  recording := h'.recording.trans h.recording
  playback := h'.playback.trans h.playback
  context := h'.context.trans h.context
  keys := h'.keys.trans h.keys
  cutOff := h'.cutOff.trans h.cutOff
  screen := h'.screen.trans h.screen

theorem quiet (h : Mild w v) : Quiet w v :=
  ⟨h.instances, h.nextId, h.room, h.viewCount, h.frame, h.started, h.recording, h.playback,
    h.context⟩

theorem abides (h : Mild w v) : w.Abides v :=
  .of_eq h.keys h.frame h.recording h.playback h.cutOff

theorem log (w : World) (s : Severity) (line : Unit → String) : Mild w (w.log s line) := by
  unfold World.log
  split_ifs <;> constructor <;> rfl

end Mild

theorem Quiet.log (w : World) (s : Severity) (line : Unit → String) : Quiet w (w.log s line) :=
  (Mild.log w s line).quiet

namespace Effect

theorem context_eq {g : Game} {w v : World} (h : Effect g w v) : v.context = w.context := by
  cases h with
  | quiet h => exact h.context
  | modify id h => rfl
  | create object x y => rfl

end Effect

namespace Abiding

variable {g : Game} {w v : World}

theorem context_eq (h : Abiding (Effect g) w v) : v.context = w.context := h.effect.context_eq

theorem mild (h : Mild w v) : Abiding (Effect g) w v := ⟨.quiet h.quiet, h.abides⟩

theorem paint (w : World) (c : DrawCommand) : Abiding (Effect g) w (w.paint c) :=
  ⟨.quiet (by constructor <;> rfl), .of_eq rfl rfl rfl rfl rfl⟩

end Abiding

namespace Deed

variable {g : Game} {w v : World}

theorem mild (h : Mild w v) : Deed g w v := ⟨.mild h, .of_eq h.screen⟩

theorem paint (w : World) {c : DrawCommand} (hc : c.isPicture = true) : Deed g w (w.paint c) :=
  ⟨.paint w c, .paint w hc⟩

theorem editKeys (w : World) (e : KeyState.Edit) : Deed g w { w with keys := w.keys.edit e } where
  effect := .quiet (by constructor <;> rfl)
  abides := ⟨⟨[e], rfl⟩, rfl, rfl, rfl, le_rfl⟩
  pictures := .of_eq rfl

/-- An entry that is cut off is counted. -/
theorem countCutOff (h : Mild w v) : Deed g w { v with cutOff := w.cutOff + 1 } where
  effect := .quiet ⟨h.instances, h.nextId, h.room, h.viewCount, h.frame, h.started, h.recording,
    h.playback, h.context⟩
  abides := ⟨⟨[], h.keys⟩, h.frame, h.recording, h.playback, Nat.le_succ w.cutOff⟩
  pictures := .of_eq h.screen

theorem modify (id : Int32) {f : Instance → Instance} (h : Instance.Retains f) :
    Deed g w (w.modify id f) :=
  ⟨⟨.modify id h, .of_eq rfl rfl rfl rfl rfl⟩, .of_eq rfl⟩

theorem create (object : Int32) (x y : Float) : Deed g w (w.create g object x y none).2 :=
  ⟨⟨.create object x y, .of_eq rfl rfl rfl rfl rfl⟩, .of_eq rfl⟩

end Deed

namespace Deeds

variable {g : Game}

theorem mild {w v : World} (h : Mild w v) : Deeds g w v := .single (.mild h)

theorem modify (w : World) (id : Int32) {f : Instance → Instance} (h : Instance.Retains f) :
    Deeds g w (w.modify id f) := .single (.modify id h)

/-- Writing variables comes down to such deeds. -/
theorem of_strokes {w v : World} (h : Strokes w v) : Deeds g w v := by
  refine Relation.ReflTransGen.mono (fun w v hstroke => ?_) _ _ h
  cases hstroke with
  | globals d => exact .mild (by constructor <;> rfl)
  | persistence rooms => exact .mild (by constructor <;> rfl)
  | views hlength => exact .mild ⟨rfl, rfl, rfl, hlength, rfl, rfl, rfl, rfl, rfl, rfl, rfl, rfl⟩
  | lastKey key => exact .editKeys w (.setLast key)
  | store id name v => exact .modify id (Instance.retains_store name v)
  | storeElement id name index v => exact .modify id (Instance.retains_storeElement name index v)

end Deeds

namespace Activity

variable {g : Game} {α : Type} {p : α → World} {w v : World} {m : Exec → Option α}

theorem mildly (hq : Mild w v) (h : Activity (Deed g) p v m) : Activity (Deed g) p w m :=
  .act (.mild hq) h

/-- Some deeds, and then an activity. -/
theorem deeds (he : Deeds g w v) (h : Activity (Deed g) p v m) : Activity (Deed g) p w m := by
  induction he using Relation.ReflTransGen.head_induction_on with
  | refl => exact h
  | head hwv _ ih => exact .act hwv ih

theorem finishes {a : α} (he : Deeds g w (p a)) : Activity (Deed g) p w fun _ => some a :=
  .deeds he (.done a)

end Activity

end GameRunner

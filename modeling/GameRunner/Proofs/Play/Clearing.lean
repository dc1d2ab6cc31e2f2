import GameRunner.Proofs.Play.Layers
import GameRunner.Proofs.Play.Operations

/-!
# When the window is filled

A room may have a colour with which the window is filled before anything is drawn. This is done where
no view is enabled and the whole room is shown, and for the first view. So it is not done at all if
some views are enabled, but the first one is not: neither the engine nor code fills the window then.
-/

namespace GameRunner

namespace DrawCommand

/-- The colour that a command fills the window with. -/
def filling? : DrawCommand → Option Int32
  | .clear color => some color
  | _ => none

theorem filling?_of_isPicture {c : DrawCommand} (h : c.isPicture = true) : c.filling? = none := by
  cases c with
  | clear color => cases h
  | _ => rfl

/-- The colours that the window is filled with, one after the other. -/
def fillings (commands : List DrawCommand) : List Int32 := commands.filterMap filling?

@[simp] theorem fillings_view_cons (rect : ViewRect) (commands : List DrawCommand) :
    fillings (.view rect :: commands) = fillings commands := rfl

@[simp] theorem fillings_clear_cons (color : Int32) (commands : List DrawCommand) :
    fillings (.clear color :: commands) = color :: fillings commands := rfl

theorem fillings_eq_nil {commands : List DrawCommand} (h : ∀ c ∈ commands, c.filling? = none) :
    fillings commands = [] := List.filterMap_eq_nil_iff.mpr h

/-- The commands before the first picture. -/
def opening (commands : List DrawCommand) : List DrawCommand :=
  commands.takeWhile fun c => !c.isPicture

@[simp] theorem opening_view_cons (rect : ViewRect) (commands : List DrawCommand) :
    opening (.view rect :: commands) = .view rect :: opening commands := rfl

@[simp] theorem opening_clear_cons (color : Int32) (commands : List DrawCommand) :
    opening (.clear color :: commands) = .clear color :: opening commands := rfl

theorem mem_of_mem_opening {commands : List DrawCommand} {c : DrawCommand}
    (h : c ∈ opening commands) : c ∈ commands := (List.takeWhile_sublist _).subset h

/-- The window is filled with a colour, and this before the first picture is drawn. -/
def ClearedFirst (color : Int32) (commands : List DrawCommand) : Prop :=
  color ∈ fillings (opening commands)

instance (color : Int32) (commands : List DrawCommand) : Decidable (ClearedFirst color commands) :=
  inferInstanceAs (Decidable (color ∈ _))

end DrawCommand

open DrawCommand

/-- Code draws pictures and nothing else. -/
theorem Machine.addsPictures_execute (s : Setup) (depth : Nat) :
    (execute s depth).Keeps World.AddsPictures :=
  keeps_execute (fun _ _ he => he.pictures) (fun _ _ _ => .trans) (fun _ _ => .of_eq rfl) depth

namespace World

/-! ### The views that are enabled -/

theorem mem_enabledViews {w : World} {index : Nat} :
    index ∈ w.enabledViews ↔ ∃ view, w.views[index]? = some view ∧ view.enabled = true := by
  simp [enabledViews, List.mem_zipIdx_iff_getElem?]

/-- The views are shown in the order in which they stand in the list. -/
theorem pairwise_enabledViews (w : World) : w.enabledViews.Pairwise (· < ·) := by
  have hall : (w.views.zipIdx.map Prod.snd).Pairwise (· < ·) := by
    rw [List.zipIdx_map_snd]
    exact List.pairwise_lt_range'
  exact hall.sublist (List.filter_sublist.map Prod.snd)

/-- No view is enabled, or the first one is. -/
def fillsWindow (w : World) : Bool :=
  w.views.all (fun view => !view.enabled) || w.views.head?.any (·.enabled)

theorem enabledViews_eq_nil_iff {w : World} :
    w.enabledViews = [] ↔ ∀ view ∈ w.views, view.enabled = false := by
  constructor
  · intro hnone view hview
    obtain ⟨index, hindex⟩ := List.mem_iff_getElem?.mp hview
    by_contra henabled
    have hmem := mem_enabledViews.mpr ⟨view, hindex, Bool.eq_true_of_not_eq_false henabled⟩
    exact absurd (hnone ▸ hmem) List.not_mem_nil
  · intro hnone
    refine List.eq_nil_iff_forall_not_mem.mpr fun index hindex => ?_
    obtain ⟨view, hview, henabled⟩ := mem_enabledViews.mp hindex
    exact absurd henabled (Bool.eq_false_iff.mp (hnone view (List.mem_of_getElem? hview)))

theorem fillsWindow_iff {w : World} :
    w.fillsWindow = true ↔ w.enabledViews = [] ∨ 0 ∈ w.enabledViews := by
  rw [enabledViews_eq_nil_iff, mem_enabledViews, ← List.head?_eq_getElem?, fillsWindow,
    Bool.or_eq_true, Option.any_eq_true]
  simp

/-- With views enabled, it is the first one of these that tells. -/
theorem fillsWindow_iff_of_cons {w : World} {index : Nat} {indices : List Nat}
    (h : w.enabledViews = index :: indices) :
    (w.fillsWindow = true ↔ index = 0) ∧ ∀ i ∈ indices, i ≠ 0 := by
  obtain ⟨hfirst, -⟩ := List.pairwise_cons.mp (h ▸ pairwise_enabledViews w)
  refine ⟨?_, fun i hi => Nat.ne_zero_of_lt (hfirst i hi)⟩
  rw [fillsWindow_iff, h]
  constructor
  · rintro (hnil | hzero)
    · cases hnil
    · rcases List.mem_cons.mp hzero with hzero | hzero
      · exact hzero.symm
      · exact absurd (hfirst 0 hzero) (Nat.not_lt_zero index)
  · rintro rfl
    exact .inr List.mem_cons_self

/-- The commands that fill the window when the room is drawn. -/
def fillCommands (room : Room) (w : World) : List DrawCommand :=
  if w.fillsWindow then clearCommands room else []

/-! ### What is drawn in each view -/

/-- A room with a view that is enabled is drawn once in each such view. -/
theorem draw_eq_foldlM {exec : Exec} {s : Setup} {room : Room} {w : World}
    (hroom : s.game.room? w.room = some room) (hviews : w.enabledViews ≠ []) :
    w.draw exec s =
      w.enabledViews.foldlM (drawView exec s room) { w with screen := w.screen.begin } := by
  simp only [draw, hroom]
  cases hindices : w.enabledViews with
  | nil => exact absurd hindices hviews
  | cons index rest =>
    rw [show enabledViews { w with screen := w.screen.begin } = index :: rest from hindices]

theorem draw_eq_drawLayers {exec : Exec} {s : Setup} {room : Room} {w : World}
    (hroom : s.game.room? w.room = some room) (hviews : w.enabledViews = []) :
    w.draw exec s =
      ((({ w with screen := w.screen.begin, currentView := 0 } : World).paint
        (.view (wholeRoom s.game room))).paintAll (clearCommands room)).drawLayers exec s room := by
  simp only [draw, hroom]
  rw [show enabledViews { w with screen := w.screen.begin } = [] from hviews]

section Drawing

variable {exec : Exec} (hexec : exec.Keeps AddsPictures) {s : Setup} {room : Room} {w v : World}

include hexec

theorem addsPictures_drawLayers (h : w.drawLayers exec s room = some v) : w.AddsPictures v := by
  have hpaint (w : World) (commands : List DrawCommand) (hc : ∀ c ∈ commands, c.isPicture = true) :
      w.AddsPictures (w.paintAll commands) := ⟨commands, commands_paintAll w commands, hc⟩
  exact (activity_drawLayers hpaint s room w).rel (fun _ _ he => he) (fun _ _ _ => .trans)
    (fun _ _ => .of_eq rfl) hexec h

/-- A view is chosen, the window is filled if the view is the first one, and pictures are drawn. -/
theorem exists_drawView {index : Nat} {view : View} (hview : w.views[index]? = some view)
    (h : w.drawView exec s room index = some v) :
    ∃ rect pictures, v.screen.commands = w.screen.commands ++
        .view rect :: ((if index = 0 then clearCommands room else []) ++ pictures) ∧
      ∀ c ∈ pictures, c.isPicture = true := by
  simp only [drawView, hview] at h
  obtain ⟨clamped, -, h⟩ := Option.bind_eq_some_iff.mp h
  obtain ⟨pictures, hv, hpictures⟩ := addsPictures_drawLayers hexec h
  refine ⟨viewRect clamped, pictures, ?_, hpictures⟩
  rw [hv, commands_paintAll, paint, Screen.commands_add]
  simp

theorem adds_drawView {index : Nat} (hindex : index ≠ 0)
    (h : w.drawView exec s room index = some v) : w.Adds (·.filling? = none) v := by
  cases hview : w.views[index]? with
  | none =>
    simp only [drawView, hview] at h
    cases h
    exact .refl w
  | some view =>
    obtain ⟨rect, pictures, hv, hpictures⟩ := exists_drawView hexec hview h
    rw [if_neg hindex, List.nil_append] at hv
    refine ⟨.view rect :: pictures, hv, List.forall_mem_cons.mpr ⟨rfl, fun c hc => ?_⟩⟩
    exact filling?_of_isPicture (hpictures c hc)

/-- No view but the first fills the window. -/
theorem adds_drawViews {indices : List Nat} (hindices : ∀ index ∈ indices, index ≠ 0)
    (h : indices.foldlM (drawView exec s room) w = some v) : w.Adds (·.filling? = none) v := by
  induction indices generalizing w with
  | nil =>
    cases h
    exact .refl _
  | cons index rest ih =>
    obtain ⟨hindex, hrest⟩ := List.forall_mem_cons.mp hindices
    obtain ⟨u, hu, h⟩ := Option.bind_eq_some_iff.mp h
    exact (adds_drawView hexec hindex hu).trans (ih hrest h)

/-- The first view is drawn first, before any code has had a chance to change the views. -/
theorem exists_draw (hroom : s.game.room? w.room = some room) (h : w.draw exec s = some v) :
    ∃ rect rest, v.screen.commands = .view rect :: (fillCommands room w ++ rest) ∧
      ∀ c ∈ rest, c.filling? = none := by
  cases hindices : w.enabledViews with
  | nil =>
    have hfills : w.fillsWindow = true := fillsWindow_iff.mpr (.inl hindices)
    rw [draw_eq_drawLayers hroom hindices] at h
    obtain ⟨pictures, hv, hpictures⟩ := addsPictures_drawLayers hexec h
    refine ⟨wholeRoom s.game room, pictures, ?_, fun c hc => filling?_of_isPicture (hpictures c hc)⟩
    rw [hv, commands_paintAll, paint, Screen.commands_add, fillCommands, if_pos hfills]
    rfl
  | cons index indices =>
    rw [draw_eq_foldlM hroom (hindices ▸ List.cons_ne_nil index indices), hindices] at h
    obtain ⟨u, hu, h⟩ := Option.bind_eq_some_iff.mp h
    obtain ⟨view, hview, -⟩ := mem_enabledViews.mp (hindices ▸ List.mem_cons_self)
    obtain ⟨hfills, hrest⟩ := fillsWindow_iff_of_cons hindices
    obtain ⟨rect, pictures, hu, hpictures⟩ :=
      exists_drawView (w := { w with screen := w.screen.begin }) hexec hview hu
    obtain ⟨more, hv, hmore⟩ := adds_drawViews hexec hrest h
    refine ⟨rect, pictures ++ more, ?_, fun c hc => ?_⟩
    · rw [hv, hu, Screen.commands_begin, fillCommands]
      simp [hfills]
    · rcases List.mem_append.mp hc with hc | hc
      · exact filling?_of_isPicture (hpictures c hc)
      · exact hmore c hc

end Drawing

end World

/-! ### Before the first picture -/

/-- A room that is drawn fills the window with its colour before the first picture if and only if it
has a colour and none of the views is enabled, or the first one is. Otherwise the window is not filled
at all, and it is never filled again. -/
theorem clearedFirst_iff {s : Setup} {depth : Nat} {w v : World} {room : Room}
    (hroom : s.game.room? w.room = some room) (h : w.draw (Machine.execute s depth) s = some v) :
    (ClearedFirst room.bgColor v.screen.commands ↔
        room.drawBgColor = true ∧ w.fillsWindow = true) ∧
      fillings v.screen.commands =
        if room.drawBgColor = true ∧ w.fillsWindow = true then [room.bgColor] else [] := by
  obtain ⟨rect, rest, hv, hrest⟩ :=
    World.exists_draw (Machine.addsPictures_execute s depth) hroom h
  have hnone : fillings rest = [] := fillings_eq_nil hrest
  have hbefore : fillings (opening rest) = [] :=
    fillings_eq_nil fun c hc => hrest c (mem_of_mem_opening hc)
  rw [ClearedFirst, hv, World.fillCommands, World.clearCommands]
  by_cases hfills : w.fillsWindow = true
  · by_cases hcolor : room.drawBgColor = true
    · simp [hfills, hcolor, hnone]
    · simp [hcolor, hnone, hbefore]
  · simp [hfills, hnone, hbefore]

/-- A room with a colour. -/
def shadedRoom : Room := { bgColor := 255, drawBgColor := true }

def shadedSetup : Setup :=
  { Machine.farewellSetup with
    game := { Machine.farewellSetup.game with rooms := #[shadedRoom] } }

/-- An instance with a sprite in a room with two views, each of which may be enabled. -/
def shaded (first second : Bool) : World where
  instances := ⟨[{ Instance.create 1 0 0 0 with spriteIndex := 0 }], by decide⟩
  nextId := 2
  room := 0
  views := [{ (default : View) with enabled := first }, { (default : View) with enabled := second }]
  generator := .ofSeed 1

/-- With both views enabled, the room is drawn twice and the window filled once. -/
theorem clearedFirst_iff_shaded :
    shadedSetup.game.room? (shaded true true).room = some shadedRoom ∧
      ∃ v, (shaded true true).draw (Machine.execute shadedSetup 0) shadedSetup = some v ∧
        v.screen.commands.map isPicture = [false, false, true, false, true] ∧
        ClearedFirst 255 v.screen.commands ∧ fillings v.screen.commands = [255] := by
  have hsome : ((shaded true true).draw (Machine.execute shadedSetup 0) shadedSetup).isSome := by
    decide +kernel
  obtain ⟨v, hv⟩ := Option.isSome_iff_exists.mp hsome
  have hpictures : ∀ v ∈ (shaded true true).draw (Machine.execute shadedSetup 0) shadedSetup,
      v.screen.commands.map isPicture = [false, false, true, false, true] := by
    decide +kernel
  have hroom : shadedSetup.game.room? (shaded true true).room = some shadedRoom := rfl
  obtain ⟨hfirst, hfillings⟩ := clearedFirst_iff hroom hv
  exact ⟨hroom, v, hv, hpictures v hv, hfirst.mpr (by decide), hfillings⟩

/-- With the second view enabled only, the same room is drawn and its colour is not. -/
theorem not_clearedFirst_second_view :
    shadedSetup.game.room? (shaded false true).room = some shadedRoom ∧
      shadedRoom.drawBgColor = true ∧
      ∃ v, (shaded false true).draw (Machine.execute shadedSetup 0) shadedSetup = some v ∧
        v.screen.commands.map isPicture = [false, true] ∧
        ¬ClearedFirst shadedRoom.bgColor v.screen.commands := by
  have hsome : ((shaded false true).draw (Machine.execute shadedSetup 0) shadedSetup).isSome := by
    decide +kernel
  obtain ⟨v, hv⟩ := Option.isSome_iff_exists.mp hsome
  have hend : ∀ v ∈ (shaded false true).draw (Machine.execute shadedSetup 0) shadedSetup,
      v.screen.commands.map isPicture = [false, true] ∧
        ¬ClearedFirst shadedRoom.bgColor v.screen.commands := by
    decide +kernel
  exact ⟨rfl, rfl, v, hv, hend v hv⟩

end GameRunner

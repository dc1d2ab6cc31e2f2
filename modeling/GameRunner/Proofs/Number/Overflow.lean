import GameRunner.Proofs.Play.Clearing
import GameRunner.Proofs.Play.Liveness
import GameRunner.Proofs.World.Traversal

/-!
# Where a number is out of range

Game code hands any words it likes to the functions of texts, and stores any words in the sizes of
views. The functions take one from a position, and to keep a view within the room its size is taken
from that of the room. Both are done on words, and the result may not be a word. Then the program
breaks off: it does so for the least word as a position, and for a view whose size is too far from
that of the room. For all other positions and sizes the answers are those of exact arithmetic.
-/

namespace GameRunner

/-- An integer that is a word. -/
def FitsWord (n : Int) : Prop := -2147483648 ≤ n ∧ n ≤ 2147483647

instance (n : Int) : Decidable (FitsWord n) := inferInstanceAs (Decidable (_ ∧ _))

theorem fitsWord_toInt (a : Int32) : FitsWord a.toInt :=
  ⟨Int32.le_toInt a, Int.le_of_lt_add_one (Int32.toInt_lt a)⟩

theorem toInt_ofInt_of_fitsWord {n : Int} (h : FitsWord n) : (Int32.ofInt n).toInt = n :=
  Int32.toInt_ofInt_of_le h.1 (Int.lt_add_one_of_le h.2)

theorem difference?_eq (a b : Int32) :
    Number.difference? a b =
      if FitsWord (a.toInt - b.toInt) then some (Int32.ofInt (a.toInt - b.toInt)) else none :=
  rfl

/-- What is computed from the difference of words is computed from that of integers, or it is not
computed at all. -/
theorem map_difference? {α : Type} {f : Int32 → α} {g : Int → α}
    (hfg : ∀ d : Int32, f d = g d.toInt) (a b : Int32) :
    (Number.difference? a b).map f =
      if FitsWord (a.toInt - b.toInt) then some (g (a.toInt - b.toInt)) else none := by
  rw [difference?_eq]
  split_ifs with h
  · rw [Option.map_some, hfg, toInt_ofInt_of_fitsWord h]
  · rfl

/-! ### Positions in texts -/

namespace Builtin

theorem fitsWord_sub_one_iff {position : Int32} :
    FitsWord (position.toInt - 1) ↔ position ≠ Int32.minValue := by
  obtain ⟨hlow, hhigh⟩ := fitsWord_toInt position
  rw [Ne, ← Int32.toInt_inj, show Int32.minValue.toInt = -2147483648 from rfl, FitsWord]
  omega

/-- The characters from a position on, by index, where integers are not bounded. -/
def exactSpan (count : Nat) (position length : Int) : Nat × Nat :=
  let start := min (position - 1).toNat count
  (start, min (start + length.toNat) count)

def exactCopy (s : String) (position length : Int) : String :=
  let (start, stop) := exactSpan s.toList.length position length
  String.ofList ((s.toList.drop start).take (stop - start))

def exactDelete (s : String) (position length : Int) : String :=
  let (start, stop) := exactSpan s.toList.length position length
  String.ofList (s.toList.take start ++ s.toList.drop stop)

def exactCharAt (s : String) (position : Int) : String :=
  if 1 ≤ position then ((s.toList[(position - 1).toNat]?).map String.singleton).getD "" else ""

section Exact

variable (s : String) (position length : Int32)

theorem span_eq (count : Nat) :
    span count position length =
      if FitsWord (position.toInt - 1) then some (exactSpan count position.toInt length.toInt)
      else none :=
  map_difference?
    (g := fun n => (min n.toNat count, min (min n.toNat count + length.toInt.toNat) count))
    (fun _ => rfl) position 1

theorem copyText_eq :
    copyText s position length =
      if FitsWord (position.toInt - 1) then some (exactCopy s position.toInt length.toInt)
      else none := by
  rw [copyText, span_eq]
  split_ifs <;> rfl

theorem deleteText_eq :
    deleteText s position length =
      if FitsWord (position.toInt - 1) then some (exactDelete s position.toInt length.toInt)
      else none := by
  rw [deleteText, span_eq]
  split_ifs <;> rfl

theorem charAt_eq :
    charAt s position =
      if FitsWord (position.toInt - 1) then some (exactCharAt s position.toInt) else none := by
  refine (map_difference? (g := fun n => exactCharAt s (n + 1)) (fun index => ?_)
    position 1).trans ?_
  · have hfirst : 0 ≤ index ↔ 1 ≤ index.toInt + 1 := by
      rw [Int32.le_iff_toInt_le, show (0 : Int32).toInt = 0 from rfl]
      omega
    rw [exactCharAt, Int.add_sub_cancel]
    refine if_congr hfirst ?_ rfl
    cases s.toList[index.toInt.toNat]? <;> rfl
  · rw [show (1 : Int32).toInt = 1 from rfl, Int.sub_add_cancel]

end Exact

/-- A function gives a value for these arguments, to whoever calls it, if a number is a word. If it
is not, the program breaks off. -/
structure AnswersInRange (exec : Exec) (s : Setup) (w : World) (name : String) (args : List Value)
    (n : Int) (v : Value) : Prop where
  answers : FitsWord n → World.Answers exec s w name args v
  called (self other : Int32) :
    (w.call exec s name args self other).map Prod.fst =
      if FitsWord n then some (.ok v) else none

theorem AnswersInRange.call_eq_none {exec : Exec} {s : Setup} {w : World} {name : String}
    {args : List Value} {n : Int} {v : Value} (h : AnswersInRange exec s w name args n v)
    (hn : ¬FitsWord n) (self other : Int32) : w.call exec s name args self other = none :=
  Option.map_eq_none_iff.mp ((h.called self other).trans (if_neg hn))

section Answering

variable (exec : Exec) (s : Setup) (w : World)

theorem answersInRange_attempting {name : String} {f : List Value → Except Fault (Option Value)}
    {args : List Value} {n : Int} {v : Value} (hname : named? name = some (attempting f))
    (hf : f args = .ok (if FitsWord n then some v else none)) :
    AnswersInRange exec s w name args n v := by
  constructor
  · intro hn
    refine ⟨_, hname, ?_⟩
    simp only [World.callBuiltin, World.callAction, attempting, hf, if_pos hn, Except.map,
      Action.perform, Option.map_some]
  · intro self other
    rw [World.call]
    simp only [World.asCaller, hname, attempting, World.callAction, hf, Except.map, Action.perform]
    split_ifs <;> rfl

variable (t position length : Value)

theorem answersInRange_copy :
    AnswersInRange exec s w "string_copy" [t, position, length] (position.toInt.toInt - 1)
      (.str (exactCopy t.toText position.toInt.toInt length.toInt.toInt)) := by
  apply answersInRange_attempting exec s w rfl
  change Except.ok ((copyText _ _ _).map Value.str) = _
  rw [copyText_eq]
  split_ifs <;> rfl

theorem answersInRange_delete :
    AnswersInRange exec s w "string_delete" [t, position, length] (position.toInt.toInt - 1)
      (.str (exactDelete t.toText position.toInt.toInt length.toInt.toInt)) := by
  apply answersInRange_attempting exec s w rfl
  change Except.ok ((deleteText _ _ _).map Value.str) = _
  rw [deleteText_eq]
  split_ifs <;> rfl

theorem answersInRange_charAt :
    AnswersInRange exec s w "string_char_at" [t, position] (position.toInt.toInt - 1)
      (.str (exactCharAt t.toText position.toInt.toInt)) := by
  apply answersInRange_attempting exec s w rfl
  change Except.ok ((charAt _ _).map Value.str) = _
  rw [charAt_eq]
  split_ifs <;> rfl

end Answering

end Builtin

/-! ### Views within the room -/

namespace World

/-- A coordinate of a view kept within the room, given how much space the view leaves there. Both are
integers without bounds. -/
def exactWithin (coordinate space : Int) : Int := max 0 (min coordinate (max space 0))

/-- What is kept within the room is a word again. -/
theorem fitsWord_exactWithin (coordinate : Int32) (space : Int) :
    FitsWord (exactWithin coordinate.toInt space) := by
  have hcoordinate := fitsWord_toInt coordinate
  unfold FitsWord exactWithin at *
  omega

theorem keepWithin_eq (coordinate room view : Int32) :
    keepWithin coordinate room view =
      if FitsWord (room.toInt - view.toInt) then
        some (Int32.ofInt (exactWithin coordinate.toInt (room.toInt - view.toInt)))
      else none := by
  have hzero : (0 : Int32).toInt = 0 := rfl
  have hkept (space : Int32) :
      (let most := if 0 ≤ space then space else 0
        if coordinate < 0 then 0 else if most < coordinate then most else coordinate) =
        Int32.ofInt (exactWithin coordinate.toInt space.toInt) := by
    rw [← Int32.toInt_inj, toInt_ofInt_of_fitsWord (fitsWord_exactWithin coordinate _)]
    unfold exactWithin
    simp only [Int32.le_iff_toInt_le, Int32.lt_iff_toInt_lt, hzero]
    split_ifs <;> simp only [hzero] at * <;> omega
  exact map_difference? (g := fun n => Int32.ofInt (exactWithin coordinate.toInt n)) hkept room view

/-- A view kept within the room, where integers are not bounded. -/
def exactClamp (room : Room) (view : View) : View :=
  { view with
    viewX := Int32.ofInt (exactWithin view.viewX.toInt (room.width.toInt - view.viewW.toInt))
    viewY := Int32.ofInt (exactWithin view.viewY.toInt (room.height.toInt - view.viewH.toInt)) }

/-- The sizes of the room less those of a view are words. -/
def ViewFits (room : Room) (view : View) : Prop :=
  FitsWord (room.width.toInt - view.viewW.toInt) ∧ FitsWord (room.height.toInt - view.viewH.toInt)

instance (room : Room) (view : View) : Decidable (ViewFits room view) :=
  inferInstanceAs (Decidable (_ ∧ _))

theorem clampView_eq (room : Room) (view : View) :
    clampView room view = if ViewFits room view then some (exactClamp room view) else none := by
  by_cases hwidth : FitsWord (room.width.toInt - view.viewW.toInt) <;>
    by_cases hheight : FitsWord (room.height.toInt - view.viewH.toInt) <;>
    simp [clampView, keepWithin_eq, ViewFits, exactClamp, hwidth, hheight]

theorem clampView_eq_some_iff {room : Room} {view clamped : View} :
    clampView room view = some clamped ↔ ViewFits room view ∧ exactClamp room view = clamped := by
  rw [clampView_eq, Option.ite_none_right_eq_some, Option.some_inj]

/-! ### The views that are shown -/

/-- The rectangles of the view that a command chooses. -/
def rect? : DrawCommand → Option ViewRect
  | .view rect => some rect
  | _ => none

/-- The views that are shown, one after the other. -/
def shown (w : World) : List ViewRect := w.screen.commands.filterMap rect?

theorem rect?_of_isPicture {c : DrawCommand} (h : c.isPicture = true) : rect? c = none := by
  cases c with
  | view rect => cases h
  | _ => rfl

theorem AddsPictures.shown_eq {w v : World} (h : w.AddsPictures v) : v.shown = w.shown := by
  obtain ⟨pictures, hv, hpictures⟩ := h
  have hnone : pictures.filterMap rect? = [] :=
    List.filterMap_eq_nil_iff.mpr fun c hc => rect?_of_isPicture (hpictures c hc)
  rw [shown, hv, List.filterMap_append, hnone, List.append_nil, shown]

theorem shown_paint_view (w : World) (rect : ViewRect) :
    (w.paint (.view rect)).shown = w.shown ++ [rect] := by
  rw [shown, paint, Screen.commands_add, List.filterMap_append]
  rfl

/-- To fill the window shows no view. -/
theorem shown_paintAll_clearCommands (w : World) (room : Room) :
    (w.paintAll (clearCommands room)).shown = w.shown := by
  have hnone : (clearCommands room).filterMap rect? = [] := by
    unfold clearCommands
    split <;> rfl
  rw [shown, commands_paintAll, List.filterMap_append, hnone, List.append_nil, shown]

/-- The views with these indices as they are when it is their turn. What is drawn in one view may
change the next. -/
def viewsAtTurn (exec : Exec) (s : Setup) (room : Room) : List Nat → World → List View
  | [], _ => []
  | index :: rest, w =>
    w.views[index]?.toList ++
      ((w.drawView exec s room index).map (viewsAtTurn exec s room rest)).getD []

/-- The views in which the room is drawn. -/
def viewsDrawn (exec : Exec) (s : Setup) (room : Room) (w : World) : List View :=
  viewsAtTurn exec s room w.enabledViews { w with screen := w.screen.begin }

/-- What the window shows if each view is kept within the room by integers. A room with no view that
is enabled is shown as a whole. -/
def exactRects (exec : Exec) (s : Setup) (room : Room) (w : World) : List ViewRect :=
  if w.enabledViews = [] then [wholeRoom s.game room]
  else (w.viewsDrawn exec s room).map fun view => viewRect (exactClamp room view)

section Drawing

variable {exec : Exec} {s : Setup} {room : Room} {w v : World}

theorem viewFits_of_drawView {index : Nat} (h : w.drawView exec s room index = some v) :
    ∀ view ∈ w.views[index]?.toList, ViewFits room view := by
  intro view hview
  simp only [drawView, Option.mem_toList.mp hview] at h
  obtain ⟨clamped, hclamped, -⟩ := Option.bind_eq_some_iff.mp h
  exact (clampView_eq_some_iff.mp hclamped).1

theorem viewFits_of_drawViews {indices : List Nat}
    (h : indices.foldlM (drawView exec s room) w = some v) :
    ∀ view ∈ viewsAtTurn exec s room indices w, ViewFits room view := by
  induction indices generalizing w with
  | nil =>
    intro view hview
    cases hview
  | cons index rest ih =>
    obtain ⟨u, hu, h⟩ := Option.bind_eq_some_iff.mp h
    rw [viewsAtTurn, hu]
    exact List.forall_mem_append.mpr ⟨viewFits_of_drawView hu, ih h⟩

theorem viewFits_of_draw (hroom : s.game.room? w.room = some room) (h : w.draw exec s = some v) :
    ∀ view ∈ w.viewsDrawn exec s room, ViewFits room view := by
  by_cases hviews : w.enabledViews = []
  · simp [viewsDrawn, hviews, viewsAtTurn]
  · rw [draw_eq_foldlM hroom hviews] at h
    exact viewFits_of_drawViews h

section Ending

variable (hends : ∀ w code id other, (exec w code id other).isSome)

include hends

theorem isSome_drawLayers (w : World) : (w.drawLayers exec s room).isSome := by
  rw [← Plan.run_drawLayers]
  exact Plan.isSome_run hends (Plan.starts_drawLayers ..)

theorem isSome_drawView {index : Nat}
    (hfits : ∀ view ∈ w.views[index]?.toList, ViewFits room view) :
    (w.drawView exec s room index).isSome := by
  cases hview : w.views[index]? with
  | none =>
    simp only [drawView, hview]
    rfl
  | some view =>
    have hclamped : clampView room view = some (exactClamp room view) :=
      clampView_eq_some_iff.mpr ⟨hfits view (Option.mem_toList.mpr hview), rfl⟩
    simp only [drawView, hview, hclamped]
    exact isSome_drawLayers hends _

theorem isSome_drawViews {indices : List Nat}
    (hfits : ∀ view ∈ viewsAtTurn exec s room indices w, ViewFits room view) :
    (indices.foldlM (drawView exec s room) w).isSome := by
  induction indices generalizing w with
  | nil => rfl
  | cons index rest ih =>
    rw [viewsAtTurn] at hfits
    obtain ⟨hfirst, hrest⟩ := List.forall_mem_append.mp hfits
    obtain ⟨u, hu⟩ := Option.isSome_iff_exists.mp (isSome_drawView hends hfirst)
    rw [List.foldlM_cons, hu]
    exact ih (by simpa only [hu, Option.map_some, Option.getD_some] using hrest)

/-- Where all code comes to an end, only a view that does not fit breaks off the drawing. -/
theorem isSome_draw_iff (hroom : s.game.room? w.room = some room) :
    (w.draw exec s).isSome ↔ ∀ view ∈ w.viewsDrawn exec s room, ViewFits room view := by
  constructor
  · intro h
    obtain ⟨v, hv⟩ := Option.isSome_iff_exists.mp h
    exact viewFits_of_draw hroom hv
  · intro hfits
    by_cases hviews : w.enabledViews = []
    · rw [draw_eq_drawLayers hroom hviews]
      exact isSome_drawLayers hends _
    · rw [draw_eq_foldlM hroom hviews]
      exact isSome_drawViews hends hfits

end Ending

section Showing

variable (hexec : exec.Keeps AddsPictures)

include hexec

theorem shown_drawView {index : Nat} (h : w.drawView exec s room index = some v) :
    v.shown =
      w.shown ++ (w.views[index]?.toList).map fun view => viewRect (exactClamp room view) := by
  cases hview : w.views[index]? with
  | none =>
    simp only [drawView, hview] at h
    cases h
    exact (List.append_nil _).symm
  | some view =>
    simp only [drawView, hview] at h
    obtain ⟨clamped, hclamped, h⟩ := Option.bind_eq_some_iff.mp h
    obtain ⟨-, rfl⟩ := clampView_eq_some_iff.mp hclamped
    rw [AddsPictures.shown_eq (addsPictures_drawLayers hexec h)]
    split_ifs
    · rw [shown_paintAll_clearCommands, shown_paint_view]
      rfl
    · exact shown_paint_view _ _

theorem shown_drawViews {indices : List Nat}
    (h : indices.foldlM (drawView exec s room) w = some v) :
    v.shown = w.shown ++
      (viewsAtTurn exec s room indices w).map fun view => viewRect (exactClamp room view) := by
  induction indices generalizing w with
  | nil =>
    cases h
    exact (List.append_nil _).symm
  | cons index rest ih =>
    obtain ⟨u, hu, h⟩ := Option.bind_eq_some_iff.mp h
    rw [ih h, shown_drawView hexec hu, viewsAtTurn, hu, List.map_append, List.append_assoc]
    rfl

theorem shown_draw (hroom : s.game.room? w.room = some room) (h : w.draw exec s = some v) :
    v.shown = w.exactRects exec s room := by
  have hbegin (w : World) : shown { w with screen := w.screen.begin } = [] := by
    rw [shown, Screen.commands_begin]
    rfl
  unfold exactRects
  split_ifs with hviews
  · rw [draw_eq_drawLayers hroom hviews] at h
    rw [AddsPictures.shown_eq (addsPictures_drawLayers hexec h), shown_paintAll_clearCommands,
      shown_paint_view]
    exact congrArg (· ++ _) (hbegin w)
  · rw [draw_eq_foldlM hroom hviews] at h
    rw [shown_drawViews hexec h, hbegin, List.nil_append, viewsDrawn]

end Showing

end Drawing

/-- To store an element of a view array changes the view that is there. -/
theorem view?_of_storeViewElement? (w : World) (name : String) (index : Int32) (value : Value) :
    ((w.storeViewElement? name index value).bind fun v => v.view? index) =
      (w.view? index).bind fun view => viewWith? view name value := by
  unfold storeViewElement?
  cases hview : w.view? index with
  | none => rfl
  | some view =>
    cases hchanged : viewWith? view name value with
    | none => simp [hchanged]
    | some changed =>
      unfold view? at hview
      split_ifs at hview with hindex
      obtain ⟨hlt, -⟩ := List.getElem?_eq_some_iff.mp hview
      simp only [Option.bind_some, hchanged, Option.map_some, view?, if_pos hindex]
      exact List.getElem?_set_self hlt

end World

open Builtin World

/-- A position less one is a word if it is not the least word. Then the functions of texts answer as
with integers, and otherwise they break off, whoever calls them. The values stored as sizes of views
are truncated to words. A view is kept within the room as with integers if the sizes of the room less
those of the view are words, and otherwise this breaks off. So the drawing of a room has no result as
soon as there is a view that does not fit when it is its turn, and only then if all code comes to an
end. If it has one, the window shows the views where integers place them. -/
theorem in_range_or_breaks_off {s : Setup} {w : World} {room : Room}
    (hroom : s.game.room? w.room = some room) (depth : Nat) :
    (∀ position : Value,
      (FitsWord (position.toInt.toInt - 1) ↔ position.toInt ≠ Int32.minValue) ∧
        ∀ t length : Value,
          AnswersInRange (Machine.execute s depth) s w "string_copy" [t, position, length]
              (position.toInt.toInt - 1)
              (.str (exactCopy t.toText position.toInt.toInt length.toInt.toInt)) ∧
            AnswersInRange (Machine.execute s depth) s w "string_delete" [t, position, length]
              (position.toInt.toInt - 1)
              (.str (exactDelete t.toText position.toInt.toInt length.toInt.toInt)) ∧
            AnswersInRange (Machine.execute s depth) s w "string_char_at" [t, position]
              (position.toInt.toInt - 1) (.str (exactCharAt t.toText position.toInt.toInt))) ∧
      (∀ (index : Int32) (value : Value),
        ((w.storeViewElement? "view_wview" index value).bind fun u => u.view? index) =
            (w.view? index).map (fun view => { view with viewW := value.toInt }) ∧
          ((w.storeViewElement? "view_hview" index value).bind fun u => u.view? index) =
            (w.view? index).map fun view => { view with viewH := value.toInt }) ∧
      (∀ view : View,
        clampView room view = (if ViewFits room view then some (exactClamp room view) else none) ∧
          (exactClamp room view).viewX.toInt =
            exactWithin view.viewX.toInt (room.width.toInt - view.viewW.toInt) ∧
          (exactClamp room view).viewY.toInt =
            exactWithin view.viewY.toInt (room.height.toInt - view.viewH.toInt)) ∧
      (∀ exec : Exec, (∀ v code self other, (exec v code self other).isSome) →
        ((w.draw exec s).isSome ↔ ∀ view ∈ w.viewsDrawn exec s room, ViewFits room view)) ∧
      ((∃ view ∈ w.viewsDrawn (Machine.execute s depth) s room, ¬ViewFits room view) →
        w.draw (Machine.execute s depth) s = none) ∧
      ∀ v, w.draw (Machine.execute s depth) s = some v →
        v.shown = w.exactRects (Machine.execute s depth) s room := by
  refine ⟨fun position => ⟨fitsWord_sub_one_iff, fun t length => ⟨answersInRange_copy ..,
    answersInRange_delete .., answersInRange_charAt ..⟩⟩, fun index value => ⟨?_, ?_⟩,
    fun view => ⟨clampView_eq room view, ?_, ?_⟩, fun exec hends => isSome_draw_iff hends hroom,
    ?_, fun v hv => shown_draw (Machine.addsPictures_execute s depth) hroom hv⟩
  · rw [view?_of_storeViewElement?]
    exact Option.map_eq_bind.symm
  · rw [view?_of_storeViewElement?]
    exact Option.map_eq_bind.symm
  · exact toInt_ofInt_of_fitsWord (fitsWord_exactWithin _ _)
  · exact toInt_ofInt_of_fitsWord (fitsWord_exactWithin _ _)
  · rintro ⟨view, hview, hfits⟩
    refine Option.eq_none_iff_forall_ne_some.mpr fun v hv => ?_
    exact hfits (viewFits_of_draw hroom hv view hview)

/-- Two views are shown, both at the places where integers put them; the second character of a text
is cut out of it. -/
theorem in_range_or_breaks_off_shaded :
    shadedSetup.game.room? (shaded true true).room = some shadedRoom ∧
      (∃ v, (shaded true true).draw (Machine.execute shadedSetup 0) shadedSetup = some v ∧
        v.shown =
          (shaded true true).exactRects (Machine.execute shadedSetup 0) shadedSetup shadedRoom ∧
        v.shown.length = 2) ∧
      ((shaded true true).call (Machine.execute shadedSetup 0) shadedSetup "string_delete"
        [.str "hello", .real 2, .real 1] 1 1).map Prod.fst = some (.ok (.str "hllo")) := by
  have hroom : shadedSetup.game.room? (shaded true true).room = some shadedRoom := rfl
  have hsome : ((shaded true true).draw (Machine.execute shadedSetup 0) shadedSetup).isSome := by
    decide +kernel
  obtain ⟨v, hv⟩ := Option.isSome_iff_exists.mp hsome
  have hlength : ∀ v ∈ (shaded true true).draw (Machine.execute shadedSetup 0) shadedSetup,
      v.shown.length = 2 := by
    decide +kernel
  obtain ⟨htexts, -, -, -, -, hshown⟩ := in_range_or_breaks_off hroom 0
  obtain ⟨-, hanswers⟩ := htexts (.real 2)
  obtain ⟨-, hdelete, -⟩ := hanswers (.str "hello") (.real 1)
  have hfits : FitsWord ((Value.real 2).toInt.toInt - 1) := by decide +kernel
  have hcut : exactDelete (Value.str "hello").toText (Value.real 2).toInt.toInt
      (Value.real 1).toInt.toInt = "hllo" := by
    decide +kernel
  refine ⟨hroom, ⟨v, hv, hshown v hv, hlength v hv⟩, ?_⟩
  rw [hdelete.called, if_pos hfits, hcut]

/-- The world with two views, after code has stored a place and a width of the first one. -/
def widened (width : Value) : Option World :=
  ((shaded true true).storeViewElement? "view_xview" 0 (.real 50)).bind fun w =>
    w.storeViewElement? "view_wview" 0 width

/-- Code that copies three characters of a text from a position on. -/
def copyingSetup (position : Int32) : Setup :=
  { shadedSetup with
    game :=
      { shadedSetup.game with
        functionTable := #[⟨"string_copy", 1, 0⟩]
        strings := #["hello"] }
    program :=
      { shadedSetup.program with
        code := #[⟨#[(Statement.pushImmediate 3).instruction 0,
          (Statement.pushInt32 position).instruction 4, (Statement.pushString 0).instruction 12,
          { (Statement.call 0 3).instruction 20 with functionIndex := 0 },
          Statement.popz.instruction 28, Statement.exit.instruction 32]⟩] } }

/-- A real far below all words becomes the least one. As a position it makes copying, deleting and
looking up a character break off, where with integers three characters would be copied or deleted and
there would be no character; the code that calls such a function breaks off with it, as it does not
for the next word. As the width of a view it makes the drawing break off, where with integers the view
would stay in its place. -/
theorem breaks_off_at_least_word :
    ¬FitsWord ((Value.real (-10000000000)).toInt.toInt - 1) ∧
      (∀ self other : Int32,
        (shaded true true).call (Machine.execute shadedSetup 0) shadedSetup "string_copy"
            [.str "hello", .real (-10000000000), .real 3] self other = none ∧
          (shaded true true).call (Machine.execute shadedSetup 0) shadedSetup "string_delete"
            [.str "hello", .real (-10000000000), .real 3] self other = none ∧
          (shaded true true).call (Machine.execute shadedSetup 0) shadedSetup "string_char_at"
            [.str "hello", .real (-10000000000)] self other = none) ∧
      exactCopy "hello" (Value.real (-10000000000)).toInt.toInt 3 = "hel" ∧
      exactDelete "hello" (Value.real (-10000000000)).toInt.toInt 3 = "lo" ∧
      exactCharAt "hello" (Value.real (-10000000000)).toInt.toInt = "" ∧
      [Int32.minValue, Int32.minValue + 1].map (fun position =>
        (Machine.execute (copyingSetup position) 1 (shaded true true) 0 1 none).isSome) =
          [false, true] ∧
      ∃ w, widened (.real (-10000000000)) = some w ∧
        (w.views.map fun view => decide (ViewFits shadedRoom view)) = [false, true] ∧
        w.draw (Machine.execute shadedSetup 0) shadedSetup = none ∧
        (w.exactRects (Machine.execute shadedSetup 0) shadedSetup shadedRoom).map (·.viewX) =
          [50] := by
  have hleast : ¬FitsWord ((Value.real (-10000000000)).toInt.toInt - 1) := by decide +kernel
  have hsome : (widened (.real (-10000000000))).isSome := by decide +kernel
  obtain ⟨w, hw⟩ := Option.isSome_iff_exists.mp hsome
  have hdrawing : ∀ w ∈ widened (.real (-10000000000)),
      (w.views.map fun view => decide (ViewFits shadedRoom view)) = [false, true] ∧
        (w.draw (Machine.execute shadedSetup 0) shadedSetup).isNone ∧
        (w.exactRects (Machine.execute shadedSetup 0) shadedSetup shadedRoom).map (·.viewX) =
          [50] := by
    decide +kernel
  obtain ⟨hfits, hnone, hexact⟩ := hdrawing w hw
  refine ⟨hleast, fun self other => ⟨(answersInRange_copy ..).call_eq_none hleast self other,
    (answersInRange_delete ..).call_eq_none hleast self other,
    (answersInRange_charAt ..).call_eq_none hleast self other⟩, by decide +kernel, by decide +kernel,
    by decide +kernel, by decide +kernel, w, hw, hfits, Option.isNone_iff_eq_none.mp hnone, hexact⟩

end GameRunner

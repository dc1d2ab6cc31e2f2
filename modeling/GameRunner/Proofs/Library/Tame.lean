import GameRunner.Library.Table
import GameRunner.Proofs.Library.Arguments
import GameRunner.Proofs.World.Pictures
import Mathlib.Tactic

/-!
# What the library does not do

The settings tell how many instructions an entry may take. No function of the library looks at this
limit, whatever its arguments are. Nor does any of them choose a view or fill the window: what a
function draws is a picture.
-/

namespace GameRunner

/-- The same game with another limit of instructions. -/
def Setup.withLimit (s : Setup) (limit : Nat) : Setup :=
  { s with settings := { s.settings with maxInstructions := limit } }

/-- An action looks up the same under every limit, and what it draws is a picture. -/
def Action.Tame : Action → Prop
  | .query f => ∀ s limit w, f (s.withLimit limit) w = f s w
  | .paint f => (∀ s limit w, f (s.withLimit limit) w = f s w) ∧
    ∀ s w c, f s w = some c → c.isPicture = true
  | _ => True

/-- Performing such an action is the same under every limit. -/
theorem Action.perform_withLimit {a : Action} (h : a.Tame) (exec : Exec) (s : Setup)
    (limit : Nat) (w : World) : a.perform exec (s.withLimit limit) w = a.perform exec s w := by
  cases a with
  | query f => exact congrArg (fun v => some (v, w)) (h s limit w)
  | paint f =>
    simp only [perform]
    rw [h.1 s limit w]
  | _ => rfl

namespace Builtin

/-- A function arrives at such actions. -/
def Tame : Builtin → Prop
  | .action plan => ∀ args, WorksOut Action.Tame (plan args)
  | .runScript => True

@[simp] theorem tame_compute (f : List Value → Except Fault Value) : (compute f).Tame := by
  intro args
  apply WorksOut.map
  intro v _
  trivial

@[simp] theorem tame_attempting (f : List Value → Except Fault (Option Value)) :
    (attempting f).Tame := by
  intro args
  apply WorksOut.map
  intro v _
  trivial

@[simp] theorem tame_number (f : List Value → Except Fault Float) : (number f).Tame :=
  tame_compute _

@[simp] theorem tame_constant (v : Value) : (constant v).Tame := by
  intro args
  exact .pure trivial

theorem tame_asking {f : List Value → Except Fault (Setup → World → Value)}
    (h : ∀ args, WorksOut (fun look => ∀ s limit w, look (s.withLimit limit) w = look s w) (f args)) :
    (asking f).Tame := by
  intro args
  exact (h args).map

@[simp] theorem tame_collecting (f : List Value → Except Fault (Collections → Collections)) :
    (collecting f).Tame := by
  intro args
  apply WorksOut.bind
  intro change _
  exact .pure trivial

@[simp] theorem tame_penInt (f : Pen → Int32 → Pen) : (penInt f).Tame := by
  intro args
  apply WorksOut.bind
  intro n _
  exact .pure trivial

@[simp] theorem tame_ofFirst (f : Option Value → Value) : (ofFirst f).Tame := by
  intro args
  exact .pure trivial

@[simp] theorem tame_arraySize (f : List (Int32 × List (Int32 × Value)) → Nat) :
    (arraySize f).Tame :=
  tame_compute _

@[simp] theorem tame_textual (f : String → String) : (textual f).Tame := tame_compute _

@[simp] theorem tame_askingMap (f : Option (Dict String Value) → Value) : (askingMap f).Tame := by
  apply tame_asking
  intro args
  apply WorksOut.bind
  intro id _
  exact .pure fun _ _ _ => rfl

@[simp] theorem tame_askingKey (f : Option (Dict String Value) → String → Value) :
    (askingKey f).Tame := by
  apply tame_asking
  intro args
  apply WorksOut.bind
  intro key _
  apply WorksOut.bind
  intro id _
  exact .pure fun _ _ _ => rfl

@[simp] theorem tame_askingKeys (f : KeyState → Int32 → Bool) : (askingKeys f).Tame := by
  apply tame_asking
  intro args
  apply WorksOut.bind
  intro key _
  exact .pure fun _ _ _ => rfl

@[simp] theorem tame_askingAsset {α : Type} (find : Game → Int32 → Option α) (f : Option α → Value) :
    (askingAsset find f).Tame := by
  apply tame_asking
  intro args
  apply WorksOut.bind
  intro index _
  exact .pure fun _ _ _ => rfl

theorem tame_choose (args : List Value) : (choose args).Tame := by
  unfold choose
  split_ifs <;> trivial

/-! ### The tables -/

/-- All functions of a table arrive at such actions. -/
def AllTame (table : FunctionTable) : Prop := ∀ e ∈ table, e.2.Tame

theorem AllTame.append {t t' : FunctionTable} (h : AllTame t) (h' : AllTame t') :
    AllTame (t ++ t') := by
  intro e he
  rcases List.mem_append.mp he with he | he
  · exact h e he
  · exact h' e he

theorem allTame_chance : AllTame chance := by
  simp only [AllTame, chance, List.forall_mem_cons, List.not_mem_nil, false_implies,
    implies_true, and_true]
  refine ⟨?_, ?_, ?_, ?_, ?_, ?_, ?_⟩ <;> intro args
  · apply WorksOut.bind
    intro n _
    exact .pure trivial
  · apply WorksOut.bind
    intro low _
    apply WorksOut.bind
    intro high _
    exact .pure trivial
  · apply WorksOut.bind
    intro high _
    exact .pure trivial
  · apply WorksOut.bind
    intro low _
    apply WorksOut.bind
    intro high _
    exact .pure trivial
  · exact .pure (tame_choose args)
  · exact .pure trivial
  · apply WorksOut.bind
    intro seed _
    exact .pure trivial

theorem allTame_numbers : AllTame numbers := by
  simp [AllTame, numbers]

theorem allTame_colors : AllTame colors := by
  simp [AllTame, colors]

theorem allTame_texts : AllTame texts := by
  simp only [AllTame, texts, character, List.forall_mem_cons, List.not_mem_nil, false_implies,
    implies_true, and_true, tame_compute, tame_attempting, tame_number, tame_textual]

theorem tame_paint_some {f : World → DrawCommand} (h : ∀ w, (f w).isPicture = true) :
    (Action.paint fun _ w => some (f w)).Tame := by
  refine ⟨fun _ _ _ => rfl, fun s w c hc => ?_⟩
  cases hc
  exact h w

theorem tame_paintSprite {args : List Value} {style : Except Fault SpriteStyle} :
    WorksOut Action.Tame (paintSprite args style) := by
  unfold paintSprite
  repeat' (with_reducible apply WorksOut.bind; intro _ _)
  exact .pure (tame_paint_some fun _ => rfl)

theorem tame_paintText : paintText.Tame := by
  intro args
  repeat' (with_reducible apply WorksOut.bind; intro _ _)
  exact .pure (tame_paint_some fun _ => rfl)

theorem tame_paintBackground : paintBackground.Tame := by
  intro args
  repeat' (with_reducible apply WorksOut.bind; intro _ _)
  refine .pure ⟨fun _ _ _ => rfl, fun s w c hc => ?_⟩
  dsimp only at hc
  split_ifs at hc
  cases hc
  rfl

theorem allTame_pictures : AllTame pictures := by
  simp only [AllTame, pictures, List.forall_mem_cons, List.not_mem_nil, false_implies,
    implies_true, and_true, tame_paintText, tame_paintBackground, true_and]
  refine ⟨?_, ?_, ?_⟩ <;> intro args
  · exact tame_paintSprite
  · exact tame_paintSprite
  · repeat' (with_reducible apply WorksOut.bind; intro _ _)
    exact .pure (tame_paint_some fun _ => rfl)

theorem allTame_pens : AllTame pens := by
  simp only [AllTame, pens, List.forall_mem_cons, List.not_mem_nil, false_implies,
    implies_true, and_true, tame_penInt, tame_constant, true_and]
  refine ⟨?_, ?_, ?_⟩
  · exact tame_asking fun _ => .pure fun _ _ _ => rfl
  · intro args
    apply WorksOut.bind
    intro alpha _
    exact .pure trivial
  · exact tame_asking fun _ => .pure fun _ _ _ => rfl

theorem allTame_instances : AllTame instances := by
  simp only [AllTame, instances, List.forall_mem_cons, List.not_mem_nil, false_implies,
    implies_true, and_true]
  refine ⟨?_, ?_, ?_, ?_, ?_, ?_, ?_, ?_, ?_, trivial, ?_⟩
  all_goals
    first | with_reducible apply tame_asking | skip
    intro args
    repeat' (with_reducible apply WorksOut.bind; intro _ _)
    first | exact .pure trivial | exact .pure fun _ _ _ => rfl

theorem allTame_places : AllTame places := by
  simp only [AllTame, places, List.forall_mem_cons, List.not_mem_nil, false_implies,
    implies_true, and_true]
  refine ⟨?_, ?_, ?_, ?_, ?_, ?_⟩
  all_goals
    first | with_reducible apply tame_asking | skip
    intro args
    repeat' (with_reducible apply WorksOut.bind; intro _ _)
    first | exact .pure trivial | exact .pure fun _ _ _ => rfl

theorem tame_creating (create : Collections → Int32 × Collections) :
    (action fun _ => .ok (.collect fun c => let r := create c; (.ofInt r.1, r.2))).Tame := by
  intro args
  exact .pure trivial

theorem allTame_maps : AllTame maps := by
  simp only [AllTame, maps, storeKey, List.forall_mem_cons, List.not_mem_nil, false_implies,
    implies_true, and_true, tame_collecting, tame_askingMap, tame_askingKey]
  exact tame_creating Collections.createMap

theorem allTame_lists : AllTame lists := by
  simp only [AllTame, lists, List.forall_mem_cons, List.not_mem_nil, false_implies,
    implies_true, and_true, tame_collecting, true_and]
  refine ⟨tame_creating Collections.createList, ?_, ?_⟩
  all_goals
    apply tame_asking
    intro args
    repeat' (with_reducible apply WorksOut.bind; intro _ _)
    exact .pure fun _ _ _ => rfl

theorem allTame_keys : AllTame keys := by
  simp only [AllTame, keys, List.forall_mem_cons, List.not_mem_nil, false_implies,
    implies_true, and_true, tame_askingKeys, true_and]
  intro args
  apply WorksOut.bind
  intro key _
  exact .pure trivial

theorem allTame_types : AllTame types := by
  simp [AllTame, types]

theorem allTame_globals : AllTame globals := by
  simp only [AllTame, globals, List.forall_mem_cons, List.not_mem_nil, false_implies,
    implies_true, and_true]
  refine ⟨?_, ?_, ?_⟩
  all_goals
    first | with_reducible apply tame_asking | skip
    intro args
    repeat' (with_reducible apply WorksOut.bind; intro _ _)
    first | exact .pure trivial | exact .pure fun _ _ _ => rfl

theorem allTame_assets : AllTame assets := by
  simp [AllTame, assets]

theorem allTame_services : AllTame services := by
  have hidle : AllTame (idleNames.map fun name => (name, constant .zero)) := by
    intro e he
    obtain ⟨name, -, rfl⟩ := List.mem_map.mp he
    exact tame_constant .zero
  refine AllTame.append ?_ hidle
  simp only [AllTame, List.forall_mem_cons, List.not_mem_nil, false_implies,
    implies_true, and_true, tame_constant, true_and]
  refine ⟨?_, ?_, ?_, ?_, ?_, ?_, ?_, ?_, ?_, ?_⟩
  all_goals
    first | with_reducible apply tame_asking | skip
    intro args
    first | exact .pure trivial | exact .pure fun _ _ _ => rfl

/-- No function of the library looks at the limit, and what any of them draws is a picture. -/
theorem allTame_library : AllTame library := by
  have hnumbers := (allTame_chance.append allTame_numbers).append allTame_colors
  have htexts := hnumbers.append allTame_texts
  have hpictures := (htexts.append allTame_pictures).append allTame_pens
  have hscene := (hpictures.append allTame_instances).append allTame_places
  have hcollections := (hscene.append allTame_maps).append allTame_lists
  have hvalues := (hcollections.append allTame_keys).append allTame_types
  have hglobals := hvalues.append allTame_globals
  exact (hglobals.append allTame_assets).append allTame_services

theorem tame_of_named? {name : String} {b : Builtin} (h : named? name = some b) :
    b.Tame := by
  obtain ⟨l₁, l₂, hl, -⟩ := List.lookup_eq_some_iff.mp h
  have hmem : (name, b) ∈ library := by
    rw [hl]
    exact List.mem_append_right l₁ List.mem_cons_self
  exact allTame_library (name, b) hmem

end Builtin

end GameRunner

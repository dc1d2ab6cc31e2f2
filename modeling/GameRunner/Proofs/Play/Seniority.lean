import GameRunner.Proofs.Play.Endings
import GameRunner.Proofs.Play.Layers

/-!
# In which order instances are drawn

At the same depth instances are drawn in the order of the roster. A new instance stands behind all
others, and nobody else changes places. So the roster is in the order in which its instances were made,
unless one was made under an id in use: that one takes the place of an instance that was made before.
-/

namespace GameRunner

theorem dedup_concat {α : Type} [DecidableEq α] (l : List α) (a : α) :
    (l ++ [a]).dedup = (l.dedup.filter fun b => b ≠ a) ++ [a] := by
  induction l with
  | nil => rfl
  | cons b rest ih =>
    rw [List.cons_append]
    by_cases hb : b ∈ rest
    · rw [List.dedup_cons_of_mem (List.mem_append_left _ hb), List.dedup_cons_of_mem hb, ih]
    · by_cases hba : b = a
      · rw [List.dedup_cons_of_mem (by simp [hba]), List.dedup_cons_of_notMem hb, ih]
        simp [hba]
      · rw [List.dedup_cons_of_notMem (by simp [hb, hba]), List.dedup_cons_of_notMem hb, ih]
        simp [hba]

namespace World

/-- The roster is in the order in which its instances were made. If several have been made under one
id, it is the last of them that counts. -/
def InOrder (w : World) (made : List Int32) : Prop := w.instances.ids.Sublist made.dedup

variable {g : Game} {w v : World} {made : List Int32}

theorem InOrder.wanes (h : w.InOrder made) (hv : w.Wanes v) : v.InOrder made := hv.ids.trans h

/-- An instance under an id that is free stands behind all others. -/
theorem InOrder.create (h : w.InOrder made) {object : Int32} {x y : Float} {id? : Option Int32}
    (hfree : (w.create g object x y id?).1 ∉ w.instances.ids) :
    (w.create g object x y id?).2.InOrder (made ++ [(w.create g object x y id?).1]) := by
  let id := (w.create g object x y id?).1
  let new := dress g (.create id object x y)
  have hid : new.id = id := id_dress g _
  have hlist : (w.create g object x y id?).2.instances.toList = w.instances.toList ++ [new] :=
    Roster.insertList_of_not_mem (hid ▸ hfree)
  have hids : (w.create g object x y id?).2.instances.ids = w.instances.ids ++ [id] := by
    rw [Roster.ids, hlist, List.map_append, List.map_singleton, hid]
    rfl
  have hothers : (w.instances.ids.filter fun k => k ≠ id) = w.instances.ids := by
    rw [List.filter_eq_self]
    intro k hk
    exact decide_eq_true (ne_of_mem_of_not_mem hk hfree)
  rw [InOrder, hids, dedup_concat]
  exact (hothers ▸ h.filter _).append (.refl _)

end World

/-- In what is noted from a world on there is a moment at which an instance is made under an id in
use. -/
def ReusesId (g : Game) (w : World) (l : List Mark) : Prop :=
  ∃ before id after u, l = before ++ .created id :: after ∧
    Annals World.Wanes g w before u ∧ id ∈ u.instances.ids

section Following

variable {g : Game} {w v : World} {m : Mark} {l : List Mark} {made : List Int32}

theorem ReusesId.between (h : ReusesId g v l) (hwanes : w.Wanes v) : ReusesId g w l := by
  obtain ⟨before, id, after, u, hl, hu, hid⟩ := h
  exact ⟨before, id, after, u, hl, .between hwanes hu, hid⟩

theorem ReusesId.note (h : ReusesId g v l) (hnoted : Noted g w m v) : ReusesId g w (m :: l) := by
  obtain ⟨before, id, after, u, rfl, hu, hid⟩ := h
  exact ⟨m :: before, id, after, u, rfl, .note hnoted hu, hid⟩

theorem Noted.creates_or_keeps (h : Noted g w m v) :
    (∃ object x y id?, m = .created (w.create g object x y id?).1 ∧
      v = (w.create g object x y id?).2) ∨
    (m.created? = none ∧ v.instances.ids = w.instances.ids) := by
  cases h with
  | created object x y id? => exact .inl ⟨object, x, y, id?, rfl, rfl⟩
  | ending _ => exact .inr ⟨rfl, rfl⟩
  | _ => exact .inr ⟨rfl, Roster.ids_modify ..⟩

/-- The roster stays in order until an instance is made under an id in use. -/
theorem Annals.inOrder (h : Annals World.Wanes g w l v) (hw : w.InOrder made) :
    v.InOrder (made ++ l.filterMap Mark.created?) ∨ ReusesId g w l := by
  induction h generalizing made with
  | refl => exact .inl (by simpa using hw)
  | between hwanes _ ih => exact (ih (hw.wanes hwanes)).imp_right fun h => h.between hwanes
  | @note w v _ m l hnoted _ ih =>
    rcases hnoted.creates_or_keeps with ⟨object, x, y, id?, rfl, rfl⟩ | ⟨hm, hids⟩
    · by_cases hused : (w.create g object x y id?).1 ∈ w.instances.ids
      · exact .inr ⟨[], _, l, w, rfl, .refl w, hused⟩
      · have hmade := (ih (hw.create hused)).imp_right fun h => h.note hnoted
        rw [List.append_assoc, List.singleton_append] at hmade
        exact hmade
    · have hv : v.InOrder made := by
        rw [World.InOrder, hids]
        exact hw
      rw [List.filterMap_cons_none hm]
      exact (ih hv).imp_right fun h => h.note hnoted

end Following

/-- Where no instance has code to draw itself with, a room is drawn in full: its backgrounds, then one
command for each tile and each instance that can be drawn, the deepest first, at one depth the tiles
in the order of the room before the instances in the order of the roster, and then its foregrounds.
The roster is in the order in which its instances were made, unless one was made under an id in use.
Every operation comes down to what is noted about it, between which no instance is made and none
changes places. -/
theorem drawn_in_order_of_creation (s : Setup) :
    (∀ w : World, w.DrawnBySprites s.game → ∀ exec room,
      ∃ (v : World) (drawn : List (Int32 × DrawCommand)), w.drawLayers exec s room = some v ∧
        v.screen.commands = w.screen.commands ++ (s.game.layerCommands room false ++
          drawn.map Prod.snd ++ s.game.layerCommands room true) ∧
        drawn.Perm (s.game.tileItems room ++ w.spriteItems) ∧
        (drawn.Pairwise fun a b => b.1 ≤ a.1) ∧
        ∀ depth, drawn.filter (fun a => a.1 = depth) =
          (s.game.tileItems room ++ w.spriteItems).filter fun a => a.1 = depth) ∧
    (∀ entropy journal l w, Annals World.Wanes s.game (.ofSetup s entropy journal) l w →
      w.InOrder (l.filterMap Mark.created?) ∨
        ReusesId s.game (.ofSetup s entropy journal) l) ∧
    ∀ (op : Operation) depth w v, op.run (Machine.execute s depth) s w = some v →
      Annals World.Wanes s.game w (op.marks (Machine.execute s depth) (Machine.marks s depth) s w)
        v := by
  refine ⟨fun w hw exec room => World.exists_drawLayers hw exec room, ?_, ?_⟩
  · intro entropy journal l w hl
    have hstart : (World.ofSetup s entropy journal).InOrder [] := List.nil_sublist _
    exact hl.inOrder hstart
  · intro op depth w v hrun
    exact (op.records (Machine.records_execute s depth) w).ended v hrun

/-- A room with placements for the first object and the third one. The code of the first placement makes
two instances of the second object. Each object has a sprite of its own. -/
def gallerySetup : Setup where
  game :=
    { functionTable := #[⟨"instance_create", 1, 0⟩]
      objects := #[{ sprite := 0 }, { sprite := 1 }, { sprite := 2 }]
      rooms := #[{ placements := [placementOf 0 100000 0, placementOf 2 100001 (-1)] }] }
  program :=
    { code := #[⟨#[(Statement.pushImmediate 1).instruction 0, (Statement.pushImmediate 0).instruction 4,
        (Statement.pushImmediate 0).instruction 8,
        { (Statement.call 0 3).instruction 12 with functionIndex := 0 },
        Statement.popz.instruction 20,
        (Statement.pushImmediate 1).instruction 24, (Statement.pushImmediate 0).instruction 28,
        (Statement.pushImmediate 0).instruction 32,
        { (Statement.call 0 3).instruction 36 with functionIndex := 0 },
        Statement.popz.instruction 44]⟩]
      references := ⟨[], []⟩
      scripts := .empty }
  settings := {}

/-- Two instances that the host makes one after the other. -/
theorem drawn_in_order_of_creation_pair :
    let s := gallerySetup
    let w := (((World.ofSetup s 0 default).create s.game 2 0 0 none).2.create s.game 1 0 0 none).2
    w.instances.ids = [100000, 100001] ∧
      ∃ (v : World) (drawn : List (Int32 × DrawCommand)),
        w.drawLayers (Machine.execute s 2) s {} = some v ∧
          v.screen.commands = drawn.map Prod.snd ∧ drawn.length = 2 := by
  intro s w
  have hsprites : w.DrawnBySprites s.game := by
    unfold World.DrawnBySprites
    decide +kernel
  obtain ⟨hdraw, -, -⟩ := drawn_in_order_of_creation s
  obtain ⟨v, drawn, hv, hcommands, hperm, -⟩ := hdraw w hsprites (Machine.execute s 2) {}
  have hlayers : ∀ foreground, s.game.layerCommands {} foreground = [] := fun _ => rfl
  have hscreen : w.screen.commands = [] := rfl
  have htwo : (s.game.tileItems {} ++ w.spriteItems).length = 2 := by decide +kernel
  refine ⟨by decide +kernel, v, drawn, hv, ?_, hperm.length_eq.trans htwo⟩
  rw [hcommands, hlayers, hlayers, hscreen]
  simp

/-- The sprite that a command draws. -/
def DrawCommand.sprite? : DrawCommand → Option Int32
  | sprite index _ _ _ _ => some index
  | _ => none

/-- The instance of the second placement is the last one that is made, and it is drawn before one that
the code has made: it takes the place of the other one, whose id it is given. -/
theorem drawn_before_elder :
    let s := gallerySetup
    let exec := Machine.execute s 2
    let w : World := { World.ofSetup s 0 default with pendingRoom := some 0 }
    let made := (Operation.step.marks exec (Machine.marks s 2) s w).filterMap Mark.created?
    made = [100000, 100001, 100002, 100001] ∧
      (w.step exec s).map (fun v => v.instances.toList.map fun i => (i.id, i.objectIndex)) =
        some [(100000, 0), (100001, 2), (100002, 1)] ∧
      ((w.step exec s).bind fun v => v.draw exec s).map
        (fun v => v.screen.commands.filterMap DrawCommand.sprite?) = some [0, 2, 1] := by
  decide +kernel

end GameRunner

import GameRunner.Proofs.Event.Dispatch

/-!
# What is drawn, layer by layer

A room is drawn from back to front: its backgrounds, then the tiles and instances from the deepest to
the nearest, then its foregrounds. Where no instance has code to draw itself with, each of them is one
command, and the commands are known before anything is drawn. What is found depth by depth is then the
same as the tiles and instances all together, put into the order of their depths.
-/

namespace GameRunner

/-! ### Depths -/

theorem mem_insertDescending {m n : Int32} {l : List Int32} :
    m ∈ insertDescending n l ↔ m = n ∨ m ∈ l := by
  induction l with
  | nil => simp [insertDescending]
  | cons k rest ih =>
    unfold insertDescending
    split_ifs with hlt heq
    · exact List.mem_cons
    · simp [heq]
    · rw [List.mem_cons, ih, List.mem_cons, or_left_comm]

theorem pairwise_insertDescending (n : Int32) {l : List Int32}
    (h : l.Pairwise fun a b => b < a) : (insertDescending n l).Pairwise fun a b => b < a := by
  induction l with
  | nil => exact List.pairwise_singleton _ _
  | cons k rest ih =>
    obtain ⟨hk, hrest⟩ := List.pairwise_cons.mp h
    unfold insertDescending
    split_ifs with hlt heq
    · refine List.pairwise_cons.mpr ⟨fun m hm => ?_, h⟩
      rcases List.mem_cons.mp hm with rfl | hm
      · exact hlt
      · exact Int32.lt_trans (hk m hm) hlt
    · exact h
    · refine List.pairwise_cons.mpr ⟨fun m hm => ?_, ih hrest⟩
      rcases mem_insertDescending.mp hm with rfl | hm
      · exact Int32.lt_of_le_of_ne (Int32.not_lt.mp hlt) (Ne.symm heq)
      · exact hk m hm

theorem mem_descending {n : Int32} {l : List Int32} : n ∈ descending l ↔ n ∈ l := by
  induction l with
  | nil => rfl
  | cons m rest ih =>
    rw [descending, List.foldr_cons, mem_insertDescending, List.mem_cons]
    exact or_congr_right ih

theorem pairwise_descending (l : List Int32) : (descending l).Pairwise fun a b => b < a := by
  induction l with
  | nil => exact .nil
  | cons n rest ih => exact pairwise_insertDescending n ih

section Collecting

variable {α : Type} {key : α → Int32} {ks : List Int32} {items : List α}

/-- What is collected key by key, for different keys, is put together from the whole. -/
theorem flatMap_filter_perm (hks : ks.Nodup) (hitems : ∀ a ∈ items, key a ∈ ks) :
    (ks.flatMap fun k => items.filter fun a => key a = k).Perm items := by
  induction ks generalizing items with
  | nil =>
    obtain rfl : items = [] := List.eq_nil_iff_forall_not_mem.mpr fun a ha => by
      simpa using hitems a ha
    exact .nil
  | cons k rest ih =>
    obtain ⟨hk, hrest⟩ := List.nodup_cons.mp hks
    let others := items.filter fun a => !decide (key a = k)
    have hothers : ∀ a ∈ others, key a ∈ rest := by
      intro a ha
      obtain ⟨ha, hne⟩ := List.mem_filter.mp ha
      exact (List.mem_cons.mp (hitems a ha)).resolve_left (by simpa using hne)
    have hcollect : (rest.flatMap fun k => items.filter fun a => key a = k) =
        rest.flatMap fun k => others.filter fun a => key a = k := by
      refine List.flatMap_congr fun k' hk' => ?_
      rw [List.filter_filter]
      refine List.filter_congr fun a _ => ?_
      by_cases ha : key a = k'
      · have hne : k' ≠ k := fun he => hk (he ▸ hk')
        simp [ha, hne]
      · simp [ha]
    rw [List.flatMap_cons, hcollect]
    exact ((ih hrest hothers).append_left _).trans (List.filter_append_perm _ items)

/-- Those of one key are collected in the order in which they stand in the whole. -/
theorem filter_flatMap_filter (hks : ks.Nodup) (hitems : ∀ a ∈ items, key a ∈ ks) (k : Int32) :
    (ks.flatMap fun k => items.filter fun a => key a = k).filter (fun a => key a = k) =
      items.filter fun a => key a = k := by
  have hcollected (ks : List Int32) (hks : ks.Nodup) :
      (ks.flatMap fun k => items.filter fun a => key a = k).filter (fun a => key a = k) =
        if k ∈ ks then items.filter fun a => key a = k else [] := by
    induction ks with
    | nil => rfl
    | cons k' rest ih =>
      obtain ⟨hk', hrest⟩ := List.nodup_cons.mp hks
      rw [List.flatMap_cons, List.filter_append, ih hrest]
      by_cases he : k = k'
      · simp [he, hk']
      · have hnone : (items.filter fun a => key a = k').filter (fun a => key a = k) = [] := by
          rw [List.filter_eq_nil_iff]
          intro a ha
          have ha : key a = k' := by simpa using (List.mem_filter.mp ha).2
          simpa [ha] using Ne.symm he
        simp [hnone, he]
  rw [hcollected ks hks]
  split_ifs with hk
  · rfl
  · symm
    rw [List.filter_eq_nil_iff]
    rintro a ha
    simpa using fun he : key a = k => hk (he ▸ hitems a ha)

theorem pairwise_flatMap_filter (hks : ks.Pairwise fun k k' => k' < k) :
    (ks.flatMap fun k => items.filter fun a => key a = k).Pairwise fun a b => key b ≤ key a := by
  rw [List.pairwise_flatMap]
  constructor
  · intro k _
    refine List.pairwise_of_forall_mem_list fun a ha b hb => ?_
    have ha : key a = k := by simpa using (List.mem_filter.mp ha).2
    have hb : key b = k := by simpa using (List.mem_filter.mp hb).2
    rw [ha, hb]
    exact Int32.le_refl k
  · refine hks.imp fun {k k'} hlt a ha b hb => ?_
    have ha : key a = k := by simpa using (List.mem_filter.mp ha).2
    have hb : key b = k' := by simpa using (List.mem_filter.mp hb).2
    rw [ha, hb]
    exact Int32.le_of_lt hlt

end Collecting

/-! ### Painting -/

namespace World

@[simp] theorem instances_paintAll (w : World) (commands : List DrawCommand) :
    (w.paintAll commands).instances = w.instances := by
  induction commands generalizing w with
  | nil => rfl
  | cons c rest ih => exact ih (w.paint c)

theorem commands_paintAll (w : World) (commands : List DrawCommand) :
    (w.paintAll commands).screen.commands = w.screen.commands ++ commands := by
  induction commands generalizing w with
  | nil => exact (List.append_nil _).symm
  | cons c rest ih =>
    refine (ih (w.paint c)).trans ?_
    rw [paint, Screen.commands_add, List.append_assoc, List.singleton_append]

theorem paintAll_append (w : World) (commands rest : List DrawCommand) :
    w.paintAll (commands ++ rest) = (w.paintAll commands).paintAll rest :=
  List.foldl_append

/-- If everyone who is visited paints what depends on the instances only, it is all painted. -/
theorem foldlM_paintAll {γ : Type} {visit : World → γ → Option World} {c : γ → List DrawCommand}
    {l : List γ} {w : World} (h : ∀ v, v.instances = w.instances → ∀ a ∈ l,
      visit v a = some (v.paintAll (c a))) :
    l.foldlM visit w = some (w.paintAll (l.flatMap c)) := by
  induction l generalizing w with
  | nil => rfl
  | cons a rest ih =>
    rw [List.foldlM_cons, h w rfl a List.mem_cons_self, List.flatMap_cons, paintAll_append]
    refine ih fun v hv b hb => h v (hv.trans ?_) b (List.mem_cons_of_mem a hb)
    exact instances_paintAll w (c a)

end World

/-! ### Tiles and instances -/

/-- The commands for the tiles of a room, each with its depth, in the order of the room. -/
def Game.tileItems (g : Game) (room : Room) : List (Int32 × DrawCommand) :=
  (room.tiles.filter fun t => g.isDrawable t.background).map fun t =>
    (t.depth, .tile t.background t.x t.y t.depth)

/-- An instance that is drawn by its sprite, with its depth. -/
def Instance.item? (i : Instance) : Option (Int32 × DrawCommand) :=
  if i.visible then i.spriteCommand?.map (i.depth, ·) else none

theorem Instance.depth_of_item? {i : Instance} {a : Int32 × DrawCommand} (h : i.item? = some a) :
    a.1 = i.depth := by
  unfold item? at h
  split_ifs at h
  obtain ⟨c, -, rfl⟩ := Option.map_eq_some_iff.mp h
  rfl

namespace World

/-- The commands for the live instances, each with its depth, in the order of the roster. -/
def spriteItems (w : World) : List (Int32 × DrawCommand) := w.instances.live.filterMap Instance.item?

/-- The commands for all tiles and instances, each with its depth, the tiles first. -/
def items (g : Game) (room : Room) (w : World) : List (Int32 × DrawCommand) :=
  g.tileItems room ++ w.spriteItems

/-- No instance that is drawn has code to draw itself with. -/
def DrawnBySprites (g : Game) (w : World) : Prop :=
  ∀ i ∈ w.instances.live, i.visible = true → g.drawHandler? i.objectIndex = none

end World

theorem Game.tileCommands_eq (g : Game) (room : Room) (depth : Int32) :
    g.tileCommands room depth =
      ((g.tileItems room).filter fun a => a.1 = depth).map Prod.snd := by
  rw [tileItems, List.filter_map, List.map_map, List.filter_filter]
  rfl

namespace World

variable {s : Setup} {room : Room} {w v : World}

theorem instance?_of_mem_live (hv : v.instances = w.instances) {i : Instance}
    (hi : i ∈ w.instances.live) : v.instance? i.id = some i := by
  unfold instance?
  rw [hv]
  exact instance?_of_mem (List.mem_of_mem_filter hi)

theorem drawInstance_eq (h : w.DrawnBySprites s.game) (hv : v.instances = w.instances)
    {i : Instance} (hi : i ∈ w.instances.live) (exec : Exec) :
    v.drawInstance exec s i.id = some (v.paintAll (i.item?.map Prod.snd).toList) := by
  unfold drawInstance Instance.item?
  rw [instance?_of_mem_live hv hi]
  dsimp only
  by_cases hvisible : i.visible = true
  · simp [hvisible, h i hi hvisible, Option.map_map, Function.comp_def]
  · simp [hvisible, paintAll]

theorem spriteItems_filter (w : World) (depth : Int32) :
    w.spriteItems.filter (fun a => a.1 = depth) =
      (w.instances.live.filter fun i => i.depth = depth).filterMap Instance.item? := by
  unfold spriteItems
  rw [List.filter_filterMap, List.filterMap_filter]
  refine List.filterMap_congr fun i _ => ?_
  cases ha : i.item? with
  | none => simp
  | some a => simp [Option.filter, Instance.depth_of_item? ha]

theorem drawDepth_eq (h : w.DrawnBySprites s.game) (hv : v.instances = w.instances) (exec : Exec)
    (depth : Int32) :
    v.drawDepth exec s room depth =
      some (v.paintAll (((w.items s.game room).filter fun a => a.1 = depth).map Prod.snd)) := by
  let u := v.paintAll (s.game.tileCommands room depth)
  have hu : u.instances = w.instances := (instances_paintAll v _).trans hv
  have hids : u.liveAt depth = (w.instances.live.filter fun i => i.depth = depth).map (·.id) := by
    rw [liveAt, hu]
  have hvisit : u.visitLive (drawInstance exec s) (u.liveAt depth) =
      some (u.paintAll ((w.instances.live.filter fun i => i.depth = depth).flatMap fun i =>
        (i.item?.map Prod.snd).toList)) := by
    rw [hids, visitLive, List.foldlM_map]
    refine foldlM_paintAll fun x hx i hi => ?_
    have hi := List.mem_of_mem_filter hi
    have hinstances : x.instances = w.instances := hx.trans hu
    have hlive : x.isLive i.id = true :=
      (isLive_eq (instance?_of_mem_live hinstances hi)).trans (List.mem_filter.mp hi).2
    rw [if_pos hlive]
    exact drawInstance_eq h hinstances hi exec
  refine hvisit.trans ?_
  rw [items, List.filter_append, List.map_append, paintAll_append, spriteItems_filter,
    List.map_filterMap, List.filterMap_eq_flatMap_toList, ← Game.tileCommands_eq]

theorem key_mem_depths {a : Int32 × DrawCommand} (ha : a ∈ w.items s.game room) :
    a.1 ∈ depths room w := by
  rw [depths, mem_descending, List.mem_append]
  rcases List.mem_append.mp ha with ha | ha
  · obtain ⟨t, ht, rfl⟩ := List.mem_map.mp ha
    exact .inl (List.mem_map_of_mem (List.mem_of_mem_filter ht))
  · obtain ⟨i, hi, ha⟩ := List.mem_filterMap.mp ha
    rw [Instance.depth_of_item? ha]
    exact .inr (List.mem_map_of_mem hi)

/-- Without code to draw with, a room is drawn depth by depth between its layers. -/
theorem drawLayers_eq (h : w.DrawnBySprites s.game) (exec : Exec) (room : Room) :
    w.drawLayers exec s room = some (w.paintAll (s.game.layerCommands room false ++
      ((depths room w).flatMap fun depth =>
        (w.items s.game room).filter fun a => a.1 = depth).map Prod.snd ++
      s.game.layerCommands room true)) := by
  let v := w.paintAll (s.game.layerCommands room false)
  have hv : v.instances = w.instances := instances_paintAll w _
  have hdepths : depths room v = depths room w := by rw [depths, depths, hv]
  have hdraw : (depths room v).foldlM (drawDepth exec s room) v =
      some (v.paintAll ((depths room w).flatMap fun depth =>
        ((w.items s.game room).filter fun a => a.1 = depth).map Prod.snd)) := by
    rw [hdepths]
    exact foldlM_paintAll fun u hu depth _ => drawDepth_eq h (hu.trans hv) exec depth
  unfold drawLayers
  dsimp only
  rw [hdraw, List.map_flatMap, paintAll_append, paintAll_append]
  rfl

/-- Without code to draw with, the drawing of a room comes to an end. Between the layers there is one
command for each tile and each instance that can be drawn, the deepest first and those of one depth in
order. -/
theorem exists_drawLayers (h : w.DrawnBySprites s.game) (exec : Exec) (room : Room) :
    ∃ (v : World) (drawn : List (Int32 × DrawCommand)), w.drawLayers exec s room = some v ∧
      v.screen.commands = w.screen.commands ++ (s.game.layerCommands room false ++
        drawn.map Prod.snd ++ s.game.layerCommands room true) ∧
      drawn.Perm (w.items s.game room) ∧ (drawn.Pairwise fun a b => b.1 ≤ a.1) ∧
      ∀ depth, drawn.filter (fun a => a.1 = depth) =
        (w.items s.game room).filter fun a => a.1 = depth := by
  have hdepths := pairwise_descending (room.tiles.map (·.depth) ++ w.instances.live.map (·.depth))
  have hnodup : (depths room w).Nodup := hdepths.imp (Ne.symm <| Int32.ne_of_lt ·)
  have hkeys : ∀ a ∈ w.items s.game room, a.1 ∈ depths room w := fun _ => key_mem_depths
  exact ⟨_, _, drawLayers_eq h exec room, commands_paintAll .., flatMap_filter_perm hnodup hkeys,
    pairwise_flatMap_filter hdepths, filter_flatMap_filter hnodup hkeys⟩

end World

end GameRunner

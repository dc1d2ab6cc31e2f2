import GameRunner.Proofs.Archive.CodeTable
import Mathlib

/-!
# Records in their places

Each kind of record that a draft writes is read back as it was, wherever in the archive it stands.
The block of a record is taken apart into its fields, each in its place, where the reader finds it.
-/

namespace GameRunner

namespace Archive.Block.StandsIn

theorem f32At {b : ByteArray} {pos : Nat} {x : Float32} (h : (single x).StandsIn b pos) :
    f32At b pos = .ok x := by
  rw [Archive.f32At, u32At h, ok_bind, Float32.ofBits_toBits]
  rfl

end Archive.Block.StandsIn

namespace Draft

open Archive Archive.Block Archive.Block.StandsIn

theorem size_variableBlock (d : Draft) (v : Variable) : (d.variableBlock v).size = 20 := rfl

namespace Named

variable {d : Draft} {b : ByteArray} {pos : Nat} (h : d.Named b)
include h

theorem sprite_eq {s : Sprite} (hs : s.name ∈ d.names) (hframes : s.frames = [])
    (hp : (d.spriteBlock s).StandsIn b pos) (items : PointerIndex) :
    sprite b items pos = pure s := by
  simp only [spriteBlock, append_iff, size_append, size_stringRef, size_int, size_zeros, and_assoc,
    Nat.reduceAdd] at hp
  obtain ⟨hname, hwidth, hheight, hleft, hright, hbottom, htop, -, hx, hy, hlist⟩ := hp
  simp only [Archive.sprite, spriteFrames, h.stringRefAt hs hname, hlist.list_nil h.size_lt,
    hwidth.i32At, hheight.i32At, hleft.i32At, hright.i32At, hbottom.i32At, htop.i32At, hx.i32At,
    hy.i32At, lift_ok, lift_pure, pure_bind, ok_bind, List.map_nil, Load.orEmpty_pure, ← hframes]

theorem pathPoints_eq {points : List PathPoint}
    (hp : (nat points.length ++ Block.concat (points.map fun q =>
      single q.x ++ single q.y ++ single q.speed)).StandsIn b pos) :
    pathPoints b pos = .ok points := by
  obtain ⟨hcount, bytes, hbytes⟩ := hp.counted (n := 12) (fun _ _ => rfl) (by simp) h.size_lt
  have hpoints := (append_iff.mp hp).2.mapM_range (m := Read) (n := 12) (g := id)
    (f := fun p => do return ⟨← f32At b p, ← f32At b (p + 4), ← f32At b (p + 8)⟩)
    (fun _ _ => rfl) fun q _ p hq => by
      simp only [append_iff, size_append, size_single, and_assoc, Nat.reduceAdd] at hq
      obtain ⟨hx, hy, hspeed⟩ := hq
      simp only [hx.f32At, hy.f32At, hspeed.f32At, ok_bind]
      rfl
  simp only [Archive.pathPoints, hcount, hbytes, ok_bind]
  rwa [List.map_id] at hpoints

theorem path_eq {p : Path} (hs : p.name ∈ d.names) (hp : (d.pathBlock p).StandsIn b pos) :
    path b pos = pure p := by
  simp only [pathBlock, append_iff, size_append, size_stringRef, size_flag, size_int, size_nat,
    and_assoc, Nat.reduceAdd] at hp
  obtain ⟨hname, hsmooth, hclosed, hprecision, hcount, hpoints⟩ := hp
  simp only [Archive.path, h.stringRefAt hs hname, hsmooth.boolAt, hclosed.boolAt, hprecision.i32At,
    h.pathPoints_eq (append_iff.mpr ⟨hcount, hpoints⟩), lift_ok, pure_bind, Load.orEmpty_pure]

theorem script_eq {s : Script} (hs : s.name ∈ d.names) (hp : (d.scriptBlock s).StandsIn b pos) :
    script b pos = .ok s := by
  obtain ⟨hname, hcode⟩ := append_iff.mp hp
  rw [size_stringRef] at hcode
  simp only [Archive.script, h.stringRefAt hs hname, hcode.i32At, ok_bind]
  rfl

theorem variableRecord_eq {v : Variable} (hs : v.name ∈ d.names)
    (hp : (d.variableBlock v).StandsIn b pos) : variableRecord b pos = .ok v := by
  simp only [variableBlock, append_iff, size_append, size_stringRef, size_int, and_assoc,
    Nat.reduceAdd] at hp
  obtain ⟨hname, htype, hid, hcount, hfirst⟩ := hp
  simp only [Archive.variableRecord, h.stringRefAt hs hname, htype.i32At, hid.i32At, hcount.i32At,
    hfirst.i32At, ok_bind]
  rfl

theorem functionRecord_eq {f : Function} (hs : f.name ∈ d.names)
    (hp : (d.functionBlock f).StandsIn b pos) : functionRecord b pos = .ok f := by
  simp only [functionBlock, append_iff, size_append, size_stringRef, size_int, and_assoc,
    Nat.reduceAdd] at hp
  obtain ⟨hname, hcount, hfirst⟩ := hp
  simp only [Archive.functionRecord, h.stringRefAt hs hname, hcount.i32At, hfirst.i32At, ok_bind]
  rfl

/-- Variable records fill their chunk. -/
theorem variablesFrom_eq {table : List Variable} (hs : ∀ v ∈ table, v.name ∈ d.names)
    (hp : (Block.concat (table.map d.variableBlock)).StandsIn b pos) {fuel : Nat}
    (hfuel : table.length ≤ fuel) :
    variablesFrom b (pos + 20 * table.length) fuel pos = .ok table := by
  induction table generalizing pos fuel with
  | nil =>
    cases fuel with
    | zero => rfl
    | succ fuel =>
      rw [Archive.variablesFrom, if_neg (by simp)]
      rfl
  | cons v rest ih =>
    obtain ⟨fuel, rfl⟩ : ∃ n, fuel = n + 1 := Nat.exists_eq_add_one.mpr (by simp at hfuel; omega)
    rw [List.map_cons, concat_cons, append_iff, size_variableBlock] at hp
    obtain ⟨hv, hrest⟩ := hp
    obtain ⟨hname, hs⟩ := List.forall_mem_cons.mp hs
    have hstop : pos + 20 * (v :: rest).length = pos + 20 + 20 * rest.length := by
      rw [List.length_cons]
      omega
    rw [hstop, Archive.variablesFrom, if_pos (by omega), h.variableRecord_eq hname hv, ok_bind,
      ih hs hrest (by simpa using hfuel), ok_bind]
    rfl

/-! ### General information -/

theorem gives_info {c : Chunk} (hc : d.infoBlock.StandsIn b c.start) :
    Load.Gives (Archive.info b c) d.info := by
  simp only [infoBlock, append_iff, size_append, size_ofBytes, List.length_cons, List.length_nil,
    size_zeros, size_int, size_stringRef, size_nat, and_assoc, Nat.reduceAdd] at hc
  obtain ⟨hversion, -, hid, -, hname, -, hwidth, hheight, -, hdisplay, -, hcount, horder⟩ := hc
  have hversion : u8At b (c.start + 1) = .ok d.info.bytecodeVersion :=
    hversion.u8At (k := 1) (by simp)
  have hname := h.stringRefAt (by simp [names]) hname
  have hdisplay := h.stringRefAt (by simp [names]) hdisplay
  obtain ⟨hlength, bytes, hbytes⟩ := counted (n := 4) (append_iff.mpr ⟨hcount, horder⟩)
    (fun _ _ => rfl) (by simp) h.size_lt
  have horder := horder.mapM_range (m := Load) (n := 4) (g := id) (f := fun p => liftM (i32At b p))
    (fun _ _ => rfl) fun n _ p hn => by rw [hn.i32At, lift_ok, id]
  simp only [Archive.info, hlength, hbytes, lift_ok, pure_bind]
  rw [horder]
  simp only [pure_bind, hversion, hname, hdisplay, hid.i32At, hwidth.i32At, hheight.i32At, lift_ok,
    List.map_id]
  exact .bind (.note _ _) (.pure _)

/-! ### Objects -/

theorem eventHandler_eq {handler : EventHandler}
    (hcode : ∀ code ∈ handler.actions, IsIndex code d.code.length)
    (hp : (handlerBlock handler).StandsIn b pos) :
    eventHandler b d.codeIndex pos = pure handler := by
  obtain ⟨hsubtype, hlist⟩ := append_iff.mp hp
  obtain ⟨pointers, hpointers, hactions⟩ := hlist.exists_pointers (m := Load) (g := id)
    (f := fun p => do actionCode d.codeIndex (← i32At b (p + 0x20))) h.size_lt
    fun code hmem p hp => by
      obtain ⟨-, hcodeAt⟩ := append_iff.mp hp
      rw [size_zeros] at hcodeAt
      rw [hcodeAt.i32At, lift_ok, pure_bind]
      exact actionCode_codeIndex (hcode code hmem)
  rw [size_int] at hpointers
  simp only [Archive.eventHandler, hpointers, hsubtype.i32At, lift_ok, pure_bind]
  rw [hactions, List.map_id, pure_bind]

theorem eventTable_eq {events : List (List EventHandler)}
    (hcode : ∀ handlers ∈ events, ∀ h ∈ handlers, ∀ code ∈ h.actions, IsIndex code d.code.length)
    (hp : (Block.list (events.map fun handlers =>
      .list (handlers.map handlerBlock))).StandsIn b pos) :
    eventTable b d.codeIndex pos = pure events := by
  obtain ⟨types, htypes, hevents⟩ := hp.exists_pointers (m := Load) (g := id)
    (f := fun p => do (← pointerList b p).mapM (Archive.eventHandler b d.codeIndex)) h.size_lt
    fun handlers hmem p hp => by
      obtain ⟨pointers, hpointers, hhandlers⟩ := hp.exists_pointers (m := Load) (g := id)
        h.size_lt fun handler hhandler p hp =>
          h.eventHandler_eq (hcode handlers hmem handler hhandler) hp
      rw [hpointers, lift_ok, pure_bind, hhandlers, List.map_id, id]
  rw [Archive.eventTable, htypes, lift_ok, pure_bind, hevents, List.map_id]

theorem object_eq {o : GameObject} (hs : o.name ∈ d.names)
    (hcode : ∀ handlers ∈ o.events, ∀ h ∈ handlers, ∀ code ∈ h.actions, IsIndex code d.code.length)
    (hp : (d.objectBlock o).StandsIn b pos) : object b d.codeIndex pos = pure o := by
  simp only [objectBlock, append_iff, size_append, size_stringRef, size_flag, size_int, size_zeros,
    and_assoc, Nat.reduceAdd] at hp
  obtain ⟨hname, hsprite, hvisible, hsolid, hdepth, hpersistent, hparent, hmask, hzeros,
    hevents⟩ := hp
  have hvertices : natAt b (pos + 0x40) = .ok 0 := hzeros.natAt_zeros (m := 0x20) (by omega)
  simp only [Archive.object, h.stringRefAt hs hname, hvertices, Nat.zero_mul, Nat.add_zero,
    h.eventTable_eq hcode hevents, hsprite.i32At, hvisible.boolAt, hsolid.boolAt, hdepth.i32At,
    hpersistent.boolAt, hparent.i32At, hmask.i32At, lift_ok, pure_bind, Load.orEmpty_pure]

/-! ### Rooms -/

end Named

section Room

variable {d : Draft} {b : ByteArray} {pos : Nat}

theorem view_eq {v : View} (hp : (viewBlock v).StandsIn b pos) : view b pos = .ok v := by
  simp only [viewBlock, List.map_cons, List.map_nil, concat_cons, append_iff, size_flag, size_int,
    Nat.add_assoc, Nat.reduceAdd] at hp
  obtain ⟨henabled, hx, hy, hw, hh, hportX, hportY, hportW, hportH, hborderH, hborderV, hspeedH,
    hspeedV, hfollow, -⟩ := hp
  simp only [view, henabled.boolAt, hx.i32At, hy.i32At, hw.i32At, hh.i32At, hportX.i32At,
    hportY.i32At, hportW.i32At, hportH.i32At, hborderH.i32At, hborderV.i32At, hspeedH.i32At,
    hspeedV.i32At, hfollow.i32At, ok_bind]
  rfl

/-- A placement whose creation code is a code entry or none. -/
def placedPlacement (d : Draft) (p : Placement) : Placement :=
  { p with creationCode := d.creationCode p.creationCode }

theorem placement_eq {p : Placement}
    (hsize : d.firstRecord + 16 * d.code.length < 2 ^ 31)
    (hp : (d.placementBlock p).StandsIn b pos) :
    placement b d.codeIndex pos = .ok (d.placedPlacement p) := by
  simp only [placementBlock, append_iff, size_append, size_int, size_single, and_assoc,
    Nat.reduceAdd] at hp
  obtain ⟨hx, hy, hobject, hid, hcode, hscaleX, hscaleY, hcolor, hrotation⟩ := hp
  simp only [placement, hx.i32At, hy.i32At, hobject.i32At, hid.i32At, hcode.i32At, hscaleX.f32At,
    hscaleY.f32At, hcolor.i32At, hrotation.f32At, ok_bind, creationCode_codeIndex hsize]
  rfl

/-- A list of records behind a pointer that leads to a distance from where it stands. -/
theorem recordsVia_eq {α β : Type} {block : α → Block} {record : Nat → Read β} {g : α → β}
    {l : List α} {distance : Nat} (hb : b.size < 2 ^ 31)
    (hpointer : (pointer distance).StandsIn b pos)
    (hlist : (Block.list (l.map block)).StandsIn b (pos + distance))
    (hrecord : ∀ x ∈ l, ∀ p, (block x).StandsIn b p → record p = .ok (g x)) :
    recordsVia b record pos = .ok (l.map g) := by
  have hle := hlist.le_size
  obtain ⟨pointers, hpointers, hrecords⟩ := hlist.exists_pointers (m := Read) hb hrecord
  simp only [recordsVia, records, hpointer.natAt_pointer (by omega), ok_bind, hpointers]
  exact hrecords

theorem recordsVia_nil {α : Type} (record : Nat → Read α) {distance : Nat} (hb : b.size < 2 ^ 31)
    (hpointer : (pointer distance).StandsIn b pos)
    (hlist : (Block.list []).StandsIn b (pos + distance)) : recordsVia b record pos = .ok [] := by
  have hle := hlist.le_size
  simp only [recordsVia, records, hpointer.natAt_pointer (by omega), ok_bind, hlist.list_nil hb]
  rfl

theorem Named.room_eq (h : d.Named b) {r : Room} (hname : r.name ∈ d.names)
    (hcaption : r.caption ∈ d.names) (hpictures : r.backgrounds = [] ∧ r.tiles = [])
    (hsize : d.firstRecord + 16 * d.code.length < 2 ^ 31) (hp : (d.roomBlock r).StandsIn b pos) :
    room b d.codeIndex pos = pure (d.placedRoom r) := by
  simp only [roomBlock, append_iff, size_append, size_stringRef, size_int, size_flag, size_pointer,
    and_assoc, Nat.reduceAdd, size_list [], List.length_nil, concat_nil, size_empty] at hp
  obtain ⟨hnameAt, hcaptionAt, hwidth, hheight, hspeed, hpersistent, hcolor, hdraw, hcode, hflags,
    hbackgroundsPtr, hviewsPtr, hplacementsPtr, htilesPtr, hbackgrounds, hviews, hplacements,
    htiles⟩ := hp
  have hbackgrounds := recordsVia_nil (backgroundLayer b) h.size_lt hbackgroundsPtr hbackgrounds
  have hviews := recordsVia_eq (g := id) h.size_lt hviewsPtr hviews
    fun v _ p hv => view_eq hv
  have hplacements := recordsVia_eq h.size_lt hplacementsPtr
    (by convert hplacements using 1; omega) fun q _ p hq => placement_eq hsize hq
  have htiles := recordsVia_nil (tile b) h.size_lt htilesPtr (by convert htiles using 1; omega)
  simp only [Archive.room, h.stringRefAt hname hnameAt, hbackgrounds, hviews, hplacements, htiles,
    h.stringRefAt hcaption hcaptionAt, hwidth.i32At, hheight.i32At, hspeed.i32At,
    hpersistent.boolAt, hcolor.i32At, hdraw.boolAt, hcode.i32At, hflags.i32At, lift_ok, pure_bind,
    Load.orEmpty_pure, List.map_id, creationCode_codeIndex hsize]
  simp only [placedRoom, hpictures]
  rfl

end Room

end Draft

end GameRunner

import GameRunner.Proofs.Archive.RoundTrip

/-!
# Indices of a loaded game

Tables of an archive refer to one another in two ways. Frames, pictures and code are referred to by
the position of a record, and the reader looks up which record starts there. Whatever the archive
holds, this gives an index into the table or none. All other references are numbers, which are taken
over as they stand in the records, whether there is such an entry or not.
-/

namespace GameRunner

namespace Archive

open Load

/-! ### Where the tables come from -/

/-- A table is what can be read from the chunk with a tag. -/
def TableOf {α : Type} (found : List Chunk) (tag : String) (f : Chunk → Load α) (a : α) : Prop :=
  ∃ c, chunkWith found tag = .ok c ∧ CanGive (f c) a

/-- The tables of a game are what can be read from the chunks of an archive, given where the records
of texture items and of code start. -/
structure ReadFrom (b : ByteArray) (found : List Chunk) (itemIndex codeIndex : PointerIndex)
    (g : Game) : Prop where
  info : TableOf found "GEN8" (info b) g.info
  textureItems : TableOf found "TPAG" (textureItems b) (itemIndex, g.textureItems.toList)
  texturePages : TableOf found "TXTR" (texturePages b) g.texturePages.toList
  sprites : TableOf found "SPRT" (sprites b itemIndex) g.sprites.toList
  backgrounds : TableOf found "BGND" (backgrounds b itemIndex) g.backgrounds.toList
  fonts : TableOf found "FONT" (fonts b itemIndex) g.fonts.toList
  code : TableOf found "CODE" (codeEntries b) (codeIndex, g.code.toList)
  objects : TableOf found "OBJT" (objects b codeIndex) g.objects.toList
  rooms : TableOf found "ROOM" (rooms b codeIndex) g.rooms.toList
  scripts : TableOf found "SCPT" (fun c => liftM (scripts b c)) g.scripts.toList
  buffer : g.buffer = b

theorem yields_bind_table {α β : Type} {found : List Chunk} {tag : String} {f : Chunk → Load α}
    {rest : α → Load β} {R : β → Prop} (h : ∀ a, TableOf found tag f a → Yields (rest a) R) :
    Yields (do
      let c ← (chunkWith found tag : Load Chunk)
      let a ← f c
      rest a) R :=
  .read fun c hc => (Yields.canGive _).bind fun a ha => h a ⟨c, hc, ha⟩

theorem yields_game (b : ByteArray) :
    Yields (game b) fun g => ∃ found itemIndex codeIndex, CanGive (chunks b) found ∧
      ReadFrom b found itemIndex codeIndex g := by
  unfold game
  refine (Yields.canGive _).bind fun found hfound => .skip fun _ => yields_bind_table fun _ _ => ?_
  refine yields_bind_table fun info hinfo => ?_
  refine yields_bind_table fun ⟨itemIndex, textureItems⟩ hitems => ?_
  refine yields_bind_table fun texturePages hpages => ?_
  refine yields_bind_table fun sprites hsprites => ?_
  refine yields_bind_table fun backgrounds hbackgrounds => yields_bind_table fun _ _ => ?_
  refine yields_bind_table fun fonts hfonts => ?_
  refine yields_bind_table fun ⟨codeIndex, code⟩ hcode => ?_
  refine yields_bind_table fun objects hobjects => yields_bind_table fun rooms hrooms => ?_
  refine yields_bind_table fun scripts hscripts => yields_bind_table fun _ _ => ?_
  refine yields_bind_table fun _ _ => .skip fun _ => .skip fun _ => .pure ?_
  exact ⟨found, itemIndex, codeIndex, hfound, hinfo, hitems, hpages, hsprites, hbackgrounds, hfonts,
    hcode, hobjects, hrooms, hscripts, rfl⟩

section Tables

variable {α : Type} {b : ByteArray} {pos : Nat} {R : Nat → α → Prop}

/-- The entries of a table come from the records that its pointers lead to. -/
def Entries (b : ByteArray) (pos : Nat) (R : Nat → α → Prop) (l : List α) : Prop :=
  ∃ records, pointerList b pos = .ok records ∧ List.Forall₂ R records l

theorem yields_table {f : Nat → Load α} (hf : ∀ ptr, Yields (f ptr) (R ptr))
    (line : List α → Unit → String) :
    Yields (do
      let found ← (← pointerList b pos).mapM f
      note .debug (line found)
      return found) (Entries b pos R) :=
  .read fun pointers hpointers => (Yields.mapM hf pointers).bind fun _ hfound =>
    .skip fun _ => .pure ⟨pointers, hpointers, hfound⟩

theorem forall_of_forall₂ {P : α → Prop} {records : List Nat} {l : List α}
    (h : List.Forall₂ (fun _ x => P x) records l) : ∀ x ∈ l, P x := by
  induction h with
  | nil => simp
  | cons hx _ ih => exact List.forall_mem_cons.mpr ⟨hx, ih⟩

theorem yields_each {P : α → Prop} {f : Nat → Load α} (hf : ∀ ptr, Yields (f ptr) P)
    (line : List α → Unit → String) :
    Yields (do
      let found ← (← pointerList b pos).mapM f
      note .debug (line found)
      return found) fun found => ∀ x ∈ found, P x :=
  (yields_table hf line).mono fun _ ⟨_, _, h⟩ => forall_of_forall₂ h

/-- The entries of a list that the pointer at a position leads to. A list that cannot be read has
none. -/
def EntriesVia (b : ByteArray) (pos : Nat) (R : Nat → α → Prop) (l : List α) : Prop :=
  l = [] ∨ ∃ start, natAt b pos = .ok start ∧ Entries b start R l

theorem yields_recordsVia {record : Nat → Read α} (h : ∀ p, Yields (liftM (record p)) (R p))
    (pos : Nat) (what owner : String) :
    Yields (orEmpty what owner (liftM (recordsVia b record pos))) (EntriesVia b pos R) := by
  refine .orEmpty ?_ (.inl rfl)
  simp only [recordsVia, records, lift_bind, lift_mapM]
  refine .read fun start hstart => .read fun pointers hpointers => ?_
  exact (Yields.mapM h pointers).mono fun _ hl => .inr ⟨start, hstart, pointers, hpointers, hl⟩

theorem forall_of_entriesVia {P : α → Prop} {l : List α} (h : EntriesVia b pos (fun _ x => P x) l) :
    ∀ x ∈ l, P x := by
  obtain rfl | ⟨start, -, pointers, -, hl⟩ := h
  · simp
  · exact forall_of_forall₂ hl

end Tables

/-! ### References by position -/

section Resolved

variable {b : ByteArray} {itemIndex codeIndex : PointerIndex}

theorem yields_textureItems (c : Chunk) :
    Yields (textureItems b c) fun r => r.1.pointers.length = r.2.length := by
  refine .skip fun pointers => (Yields.mapM (fun x => .any _) pointers).bind fun items hitems => ?_
  exact .skip fun _ => .pure hitems.length_eq

theorem yields_codeEntries (c : Chunk) :
    Yields (codeEntries b c) fun r =>
      r.1.pointers.length = r.2.length ∧ r.1.distinct ≤ r.1.pointers.length := by
  refine .skip fun pointers => (Yields.mapM (fun x => .any _) pointers).bind fun code hcode => ?_
  exact .skip fun _ => .pure ⟨hcode.length_eq, PointerIndex.distinct_ofList_le pointers⟩

section Items

variable (hitems : itemIndex.pointers.length < 2 ^ 31)
include hitems

theorem yields_sprites (c : Chunk) :
    Yields (sprites b itemIndex c) fun l =>
      ∀ s ∈ l, ∀ i ∈ s.frames, IsIndex i itemIndex.pointers.length := by
  have hframes (pos : Nat) : Yields (liftM (spriteFrames b itemIndex pos)) fun l =>
      ∀ i ∈ l, IsIndex i itemIndex.pointers.length := by
    simp only [spriteFrames, lift_bind, lift_pure]
    refine .skip fun pointers => .pure fun i hi => ?_
    obtain ⟨p, -, rfl⟩ := List.mem_map.mp hi
    exact itemIndex.isIndex_findOr p hitems
  refine yields_each (fun ptr => ?_) _
  refine .skip fun name => ((hframes _).orEmpty (by simp)).bind fun frames hframes => ?_
  iterate 8 refine .skip fun _ => ?_
  exact .pure hframes

theorem yields_backgrounds (c : Chunk) :
    Yields (backgrounds b itemIndex c) fun l =>
      ∀ x ∈ l, IsIndex x.textureItem itemIndex.pointers.length := by
  refine yields_each (fun ptr => ?_) _
  simp only [background, lift_bind, lift_pure]
  exact .skip fun _ => .skip fun p => .pure (itemIndex.isIndex_findOr p hitems)

theorem yields_fonts (c : Chunk) :
    Yields (fonts b itemIndex c) fun l =>
      ∀ f ∈ l, IsIndex f.textureItem itemIndex.pointers.length := by
  refine yields_each (fun ptr => ?_) _
  iterate 4 refine .skip fun _ => ?_
  exact .skip fun p => .skip fun _ => .skip fun _ => .pure (itemIndex.isIndex_findOr p hitems)

end Items

section Code

variable (hcode : codeIndex.pointers.length < 2 ^ 31)
include hcode

/-- A stored number may be read as a position and as an index. Either way it names a code entry. -/
theorem yields_actionCode (hdistinct : codeIndex.distinct ≤ codeIndex.pointers.length)
    (raw : Int32) :
    Yields (actionCode codeIndex raw) fun c => IsIndex c codeIndex.pointers.length := by
  unfold actionCode
  split_ifs with hneg
  · exact .pure (.inl rfl)
  · dsimp only
    split
    · next i hi => exact .pure (isIndex_ofNat (PointerIndex.find?_lt hi) hcode)
    · split_ifs with hlt
      · exact .pure (.inr ⟨Int32.not_lt.mp hneg, hlt.trans_le hdistinct⟩)
      · exact .skip fun _ => .pure (.inl rfl)

theorem isIndex_creationCode (raw : Int32) :
    IsIndex (creationCode codeIndex raw) codeIndex.pointers.length := by
  unfold creationCode
  split_ifs
  · exact .inl rfl
  · exact codeIndex.isIndex_findOr _ hcode

theorem yields_objects (hdistinct : codeIndex.distinct ≤ codeIndex.pointers.length) (c : Chunk) :
    Yields (objects b codeIndex c) fun l => ∀ o ∈ l, ∀ handlers ∈ o.events, ∀ h ∈ handlers,
      ∀ code ∈ h.actions, IsIndex code codeIndex.pointers.length := by
  have hhandler (ptr : Nat) : Yields (eventHandler b codeIndex ptr) fun h =>
      ∀ code ∈ h.actions, IsIndex code codeIndex.pointers.length := by
    refine .skip fun pointers => ?_
    have haction (p : Nat) := Yields.skip (m := liftM (i32At b (p + 0x20)))
      fun raw => yields_actionCode hcode hdistinct raw
    exact (Yields.mapM haction pointers).bind fun actions hactions =>
      .skip fun _ => .pure (forall_of_forall₂ hactions)
  have htable (pos : Nat) : Yields (eventTable b codeIndex pos) fun t => ∀ handlers ∈ t,
      ∀ h ∈ handlers, ∀ code ∈ h.actions, IsIndex code codeIndex.pointers.length := by
    refine .skip fun types => (Yields.mapM (fun type => ?_) types).mono fun _ => forall_of_forall₂
    exact .skip fun pointers => (Yields.mapM hhandler pointers).mono fun _ => forall_of_forall₂
  refine yields_each (fun ptr => ?_) _
  refine .skip fun _ => .skip fun _ => ((htable _).orEmpty (by simp)).bind fun events hevents => ?_
  iterate 7 refine .skip fun _ => ?_
  exact .pure hevents

theorem yields_rooms (c : Chunk) :
    Yields (rooms b codeIndex c) fun l => ∀ r ∈ l,
      IsIndex r.creationCode codeIndex.pointers.length ∧
        ∀ p ∈ r.placements, IsIndex p.creationCode codeIndex.pointers.length := by
  have hplacement (ptr : Nat) : Yields (liftM (placement b codeIndex ptr)) fun p =>
      IsIndex p.creationCode codeIndex.pointers.length := by
    simp only [placement, lift_bind, lift_pure]
    iterate 4 refine .skip fun _ => ?_
    refine .skip fun raw => ?_
    iterate 4 refine .skip fun _ => ?_
    exact .pure (isIndex_creationCode hcode raw)
  refine yields_each (fun ptr => ?_) _
  refine .skip fun _ => .skip fun _ => .skip fun _ => ?_
  refine (yields_recordsVia hplacement _ _ _).bind fun placements hplacements => ?_
  iterate 8 refine .skip fun _ => ?_
  refine .skip fun raw => .skip fun _ => .pure ?_
  exact ⟨isIndex_creationCode hcode raw, forall_of_entriesVia hplacements⟩

end Code

end Resolved

/-! ### References by number -/

section Stored

variable {b : ByteArray} {codeIndex : PointerIndex}

/-- The sprite, the parent and the mask of an object are the numbers in its record. -/
def StoredObject (b : ByteArray) (p : Nat) (o : GameObject) : Prop :=
  i32At b (p + 4) = .ok o.sprite ∧ i32At b (p + 0x18) = .ok o.parent ∧
    i32At b (p + 0x1c) = .ok o.mask

/-- What the lists of a room refer to are the numbers in their records. -/
structure StoredRoom (b : ByteArray) (p : Nat) (r : Room) : Prop where
  backgrounds :
    EntriesVia b (p + 0x28) (fun q x => i32At b (q + 8) = .ok x.background) r.backgrounds
  views : EntriesVia b (p + 0x2c) (fun q v => i32At b (q + 52) = .ok v.followObject) r.views
  placements : EntriesVia b (p + 0x30) (fun q x => i32At b (q + 8) = .ok x.object) r.placements
  tiles : EntriesVia b (p + 0x34) (fun q x => i32At b (q + 8) = .ok x.background) r.tiles

/-- The order of rooms is the row of numbers behind its length. -/
def StoredOrder (b : ByteArray) (pos : Nat) (order : List Int32) : Prop :=
  ∃ count, natAt b (pos + 0x80) = .ok count ∧
    List.Forall₂ (fun i room => i32At b (pos + 0x84 + i * 4) = .ok room) (List.range count) order

theorem yields_objects_stored (c : Chunk) :
    Yields (objects b codeIndex c) (Entries b c.start (StoredObject b)) := by
  refine yields_table (fun ptr => ?_) _
  refine .skip fun _ => .skip fun _ => .skip fun _ => .read fun sprite hsprite => ?_
  iterate 4 refine .skip fun _ => ?_
  exact .read fun parent hparent => .read fun mask hmask => .pure ⟨hsprite, hparent, hmask⟩

theorem yields_rooms_stored (c : Chunk) :
    Yields (rooms b codeIndex c) (Entries b c.start (StoredRoom b)) := by
  have hlayer (p : Nat) : Yields (liftM (backgroundLayer b p)) fun x =>
      i32At b (p + 8) = .ok x.background := by
    simp only [backgroundLayer, lift_bind, lift_pure]
    refine .skip fun _ => .skip fun _ => .read fun background h => ?_
    iterate 7 refine .skip fun _ => ?_
    exact .pure h
  have hview (p : Nat) : Yields (liftM (view b p)) fun v =>
      i32At b (p + 52) = .ok v.followObject := by
    simp only [view, lift_bind, lift_pure]
    iterate 13 refine .skip fun _ => ?_
    exact .read fun follow h => .pure h
  have hplacement (p : Nat) : Yields (liftM (placement b codeIndex p)) fun x =>
      i32At b (p + 8) = .ok x.object := by
    simp only [placement, lift_bind, lift_pure]
    refine .skip fun _ => .skip fun _ => .read fun object h => ?_
    iterate 6 refine .skip fun _ => ?_
    exact .pure h
  have htile (p : Nat) : Yields (liftM (tile b p)) fun x => i32At b (p + 8) = .ok x.background := by
    simp only [tile, lift_bind, lift_pure]
    refine .skip fun _ => .skip fun _ => .read fun background h => ?_
    iterate 9 refine .skip fun _ => ?_
    exact .pure h
  refine yields_table (fun ptr => .skip fun name => ?_) _
  refine (yields_recordsVia hlayer _ _ _).bind fun backgrounds hbackgrounds => ?_
  refine (yields_recordsVia hview _ _ _).bind fun views hviews => ?_
  refine (yields_recordsVia hplacement _ _ _).bind fun placements hplacements => ?_
  refine (yields_recordsVia htile _ _ _).bind fun tiles htiles => ?_
  iterate 9 refine .skip fun _ => ?_
  exact .pure ⟨hbackgrounds, hviews, hplacements, htiles⟩

theorem yields_scripts_stored (c : Chunk) :
    Yields (liftM (scripts b c)) (Entries b c.start fun p s => i32At b (p + 4) = .ok s.code) := by
  have hscript (p : Nat) : Yields (liftM (script b p)) fun s => i32At b (p + 4) = .ok s.code := by
    simp only [script, lift_bind, lift_pure]
    exact .skip fun _ => .read fun code h => .pure h
  simp only [scripts, lift_bind, lift_mapM]
  refine .read fun pointers hpointers => ?_
  exact (Yields.mapM hscript pointers).mono fun _ hl => ⟨pointers, hpointers, hl⟩

theorem yields_info_stored (c : Chunk) :
    Yields (info b c) fun i => StoredOrder b c.start i.roomOrder := by
  refine .read fun count hcount => .skip fun _ => ?_
  refine (Yields.mapM (fun i => Yields.lift fun _ h => h) _).bind fun order horder => ?_
  iterate 7 refine .skip fun _ => ?_
  exact .pure ⟨count, hcount, horder⟩

/-- All references of a game other than those by position are the numbers that its records hold. -/
structure TakesOver (b : ByteArray) (found : List Chunk) (g : Game) : Prop where
  roomOrder : ∃ c, chunkWith found "GEN8" = .ok c ∧ StoredOrder b c.start g.info.roomOrder
  objects : ∃ c, chunkWith found "OBJT" = .ok c ∧
    Entries b c.start (StoredObject b) g.objects.toList
  rooms : ∃ c, chunkWith found "ROOM" = .ok c ∧ Entries b c.start (StoredRoom b) g.rooms.toList
  scripts : ∃ c, chunkWith found "SCPT" = .ok c ∧
    Entries b c.start (fun p s => i32At b (p + 4) = .ok s.code) g.scripts.toList

end Stored

end Archive

/-- What refers to a texture item or to code, refers to one that is there or to none. -/
structure Game.RefersToEntries (g : Game) : Prop where
  frames : ∀ s ∈ g.sprites.toList, ∀ i ∈ s.frames, IsIndex i g.textureItems.size
  backgrounds : ∀ x ∈ g.backgrounds.toList, IsIndex x.textureItem g.textureItems.size
  fonts : ∀ f ∈ g.fonts.toList, IsIndex f.textureItem g.textureItems.size
  actions : ∀ o ∈ g.objects.toList, ∀ handlers ∈ o.events, ∀ h ∈ handlers, ∀ code ∈ h.actions,
    IsIndex code g.code.size
  rooms : ∀ r ∈ g.rooms.toList, IsIndex r.creationCode g.code.size
  placements : ∀ r ∈ g.rooms.toList, ∀ p ∈ r.placements, IsIndex p.creationCode g.code.size

/-- Whatever an archive holds, if it can be read then everything that refers to a texture item or to
code by position refers to one that is there or to none. The tables must not be too long for indices
of 32 bits. -/
theorem refersToEntries_ofArchive {b : ByteArray} {log : Journal} {g : Game}
    (h : (Game.ofArchive b log).1 = .ok g) (hitems : g.textureItems.size < 2 ^ 31)
    (hcode : g.code.size < 2 ^ 31) : g.RefersToEntries := by
  obtain ⟨found, itemIndex, codeIndex, -, hg⟩ := Archive.yields_game b log g h
  obtain ⟨c, -, htable⟩ := hg.textureItems
  have hlength := (Archive.yields_textureItems c).of_canGive htable
  obtain ⟨c, -, htable⟩ := hg.code
  obtain ⟨hcodeLength, hdistinct⟩ := (Archive.yields_codeEntries c).of_canGive htable
  rw [Array.length_toList] at hlength hcodeLength
  rw [← hlength] at hitems
  rw [← hcodeLength] at hcode
  obtain ⟨c, -, hsprites⟩ := hg.sprites
  obtain ⟨c', -, hbackgrounds⟩ := hg.backgrounds
  obtain ⟨c'', -, hfonts⟩ := hg.fonts
  have hsprites := (Archive.yields_sprites hitems c).of_canGive hsprites
  have hbackgrounds := (Archive.yields_backgrounds hitems c').of_canGive hbackgrounds
  have hfonts := (Archive.yields_fonts hitems c'').of_canGive hfonts
  obtain ⟨c, -, hobjects⟩ := hg.objects
  obtain ⟨c', -, hrooms⟩ := hg.rooms
  have hobjects := (Archive.yields_objects hcode hdistinct c).of_canGive hobjects
  have hrooms := (Archive.yields_rooms hcode c').of_canGive hrooms
  rw [hlength] at hsprites hbackgrounds hfonts
  rw [hcodeLength] at hobjects hrooms
  exact ⟨hsprites, hbackgrounds, hfonts, hobjects, fun r hr => (hrooms r hr).1,
    fun r hr => (hrooms r hr).2⟩

theorem refersToEntries_ofArchive_lodge :
    ∃ g, (Game.ofArchive Draft.lodge.archive .silent).1 = .ok g ∧ g.RefersToEntries :=
  have h := Draft.writable_lodge.gives_game .silent
  ⟨_, h, refersToEntries_ofArchive h (by simp [Draft.game]) (by simp [Draft.game, Draft.lodge])⟩

/-- Whatever an archive holds, if it can be read then objects, rooms, scripts and the order of rooms
refer to what their records say, by the numbers that stand there. No number is looked up in the
table that it refers to. -/
theorem takesOver_ofArchive {b : ByteArray} {log : Journal} {g : Game}
    (h : (Game.ofArchive b log).1 = .ok g) :
    ∃ found, Archive.Load.CanGive (Archive.chunks b) found ∧ Archive.TakesOver b found g := by
  obtain ⟨found, itemIndex, codeIndex, hfound, hg⟩ := Archive.yields_game b log g h
  obtain ⟨gen8, hgen8, hinfo⟩ := hg.info
  obtain ⟨objt, hobjt, hobjects⟩ := hg.objects
  obtain ⟨room, hroom, hrooms⟩ := hg.rooms
  obtain ⟨scpt, hscpt, hscripts⟩ := hg.scripts
  exact ⟨found, hfound, ⟨gen8, hgen8, (Archive.yields_info_stored gen8).of_canGive hinfo⟩,
    ⟨objt, hobjt, (Archive.yields_objects_stored objt).of_canGive hobjects⟩,
    ⟨room, hroom, (Archive.yields_rooms_stored room).of_canGive hrooms⟩,
    ⟨scpt, hscpt, (Archive.yields_scripts_stored scpt).of_canGive hscripts⟩⟩

/-- A game that refers everywhere to the eighth entry of a table that has at most one. -/
def Draft.stray : Draft where
  info := { roomOrder := [7] }
  objects := [{ name := "stray", sprite := 7, parent := 7, mask := 7 }]
  rooms := [{ name := "hall", views := [⟨true, 0, 0, 320, 240, 0, 0, 640, 480, 32, 32, -1, -1, 7⟩],
              placements := [⟨16, 16, 7, 100000, -1, 1, 1, -1, 0⟩] }]
  scripts := [⟨"greet", 7⟩]

theorem Draft.writable_stray : Draft.stray.Writable where
  frames := by simp [stray]
  pictures := by simp [stray]
  actions := by simp [stray]
  size_lt := by decide +kernel

theorem takesOver_ofArchive_stray :
    ∃ g found, (Game.ofArchive Draft.stray.archive .silent).1 = .ok g ∧
      Archive.TakesOver Draft.stray.archive found g :=
  have h := Draft.writable_stray.gives_game .silent
  have ⟨found, _, hg⟩ := takesOver_ofArchive h
  ⟨_, found, h, hg⟩

/-- What objects, rooms, scripts and the order of rooms refer to is there, or they refer to none. -/
structure Game.NamesEntries (g : Game) : Prop where
  sprites : ∀ o ∈ g.objects.toList, IsIndex o.sprite g.sprites.size
  parents : ∀ o ∈ g.objects.toList, IsIndex o.parent g.objects.size
  masks : ∀ o ∈ g.objects.toList, IsIndex o.mask g.sprites.size
  placements : ∀ r ∈ g.rooms.toList, ∀ p ∈ r.placements, IsIndex p.object g.objects.size
  layers : ∀ r ∈ g.rooms.toList, ∀ x ∈ r.backgrounds, IsIndex x.background g.backgrounds.size
  tiles : ∀ r ∈ g.rooms.toList, ∀ x ∈ r.tiles, IsIndex x.background g.backgrounds.size
  views : ∀ r ∈ g.rooms.toList, ∀ v ∈ r.views, IsIndex v.followObject g.objects.size
  scripts : ∀ s ∈ g.scripts.toList, IsIndex s.code g.code.size
  roomOrder : ∀ room ∈ g.info.roomOrder, IsIndex room g.rooms.size

/-- Numbers that refer to nothing are read back as they stand. -/
theorem not_namesEntries_stray :
    ∃ g, (Game.ofArchive Draft.stray.archive .silent).1 = .ok g ∧ ¬ g.NamesEntries := by
  refine ⟨_, Draft.writable_stray.gives_game .silent, fun h => ?_⟩
  have hscript := h.scripts ⟨"greet", 7⟩ (by simp [Draft.game, Draft.stray])
  have hsize : Draft.stray.game.code.size = 0 := rfl
  rw [hsize] at hscript
  exact absurd hscript (by decide)

end GameRunner

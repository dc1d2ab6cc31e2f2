import GameRunner.Archive.Game
import GameRunner.Proofs.Archive.Chunks
import GameRunner.Proofs.Archive.Records

/-!
# Reading what was written

The archive of a draft is read as the game that the draft describes. All chunks are found where they
were placed, and each table is read back record by record.
-/

namespace GameRunner

namespace Archive

open Load

theorem Load.Gives.forIn {α : Type} {l : List α} {f : α → Load (ForInStep PUnit)}
    (h : ∀ x ∈ l, Gives (f x) (.yield ⟨⟩)) : Gives (forIn l PUnit.unit fun x _ => f x) ⟨⟩ := by
  induction l with
  | nil => exact .pure _
  | cons x rest ih =>
    obtain ⟨hx, hrest⟩ := List.forall_mem_cons.mp h
    rw [List.forIn_cons]
    exact .bind hx (ih hrest)

/-- The tables of pictures are read from empty lists. -/
theorem gives_pictures {b : ByteArray} (hb : b.size < 2 ^ 31) (items : PointerIndex) (c : Chunk)
    (hc : (Block.list []).StandsIn b c.start) :
    Gives (textureItems b c) (.ofList [], []) ∧ Gives (texturePages b c) [] ∧
      Gives (backgrounds b items c) [] ∧ Gives (fonts b items c) [] := by
  have hpointers := Gives.lift (hc.list_nil hb)
  refine ⟨?_, ?_, ?_, ?_⟩ <;>
    exact .bind hpointers (.bind (.pure _) (.bind (.note _ _) (.pure _)))

end Archive

namespace Draft

open Archive Load

variable {d : Draft}

/-- A draft without pictures whose event actions are code entries or none, and which is small enough
for its positions to be read as positive numbers. -/
structure Writable (d : Draft) : Prop where
  frames : ∀ s ∈ d.sprites, s.frames = []
  pictures : ∀ r ∈ d.rooms, r.backgrounds = [] ∧ r.tiles = []
  actions : ∀ o ∈ d.objects, ∀ handlers ∈ o.events, ∀ h ∈ handlers, ∀ code ∈ h.actions,
    IsIndex code d.code.length
  size_lt : d.archiveBlock.size < 2 ^ 31

/-- The chunks before the code, by tag and data. -/
def partsBeforeCode (d : Draft) : List (String × Block) :=
  [("STRG", d.stringBlock), ("GEN8", d.infoBlock), ("TPAG", .list []), ("TXTR", .list []),
    ("SPRT", .list (d.sprites.map d.spriteBlock)), ("BGND", .list []),
    ("PATH", .list (d.paths.map d.pathBlock)), ("FONT", .list [])]

/-- The code chunk and those behind it, by tag and data. -/
def partsFromCode (d : Draft) : List (String × Block) :=
  [("CODE", d.codeBlock), ("OBJT", .list (d.objects.map d.objectBlock)),
    ("ROOM", .list (d.rooms.map d.roomBlock)), ("SCPT", .list (d.scripts.map d.scriptBlock)),
    ("VARI", d.variablesBlock), ("FUNC", d.functionsBlock)]

/-- All chunks, by tag and data. -/
def parts (d : Draft) : List (String × Block) := d.partsBeforeCode ++ d.partsFromCode

theorem row_partsBeforeCode (d : Draft) : row d.partsBeforeCode = d.chunksBeforeCode := by
  simp only [partsBeforeCode, chunksBeforeCode, row, Block.append_assoc, Block.append_empty]

theorem row_partsFromCode (d : Draft) : row d.partsFromCode = d.chunksFromCode := by
  simp only [partsFromCode, chunksFromCode, row, Block.append_assoc, Block.append_empty]

theorem row_parts (d : Draft) : row d.parts = d.chunksBeforeCode ++ d.chunksFromCode := by
  rw [parts, row_append, row_partsBeforeCode, row_partsFromCode]

theorem tags_parts (d : Draft) : d.parts.map Prod.fst = requiredTags := rfl

theorem tagged_parts (d : Draft) : Tagged d.parts := by
  have htags : ∀ tag ∈ requiredTags, tag.utf8ByteSize = 4 := by decide
  rwa [← d.tags_parts, List.forall_mem_map] at htags

theorem nodup_parts (d : Draft) : (d.parts.map Prod.fst).Nodup := by
  rw [tags_parts]
  decide

theorem name_mem_of_mem_threadedVariables (d : Draft) :
    ∀ v ∈ d.threadedVariables, v.name ∈ d.names := by
  refine List.forall_mem_map.mpr fun v hv => ?_
  have hmem := List.mem_map_of_mem (f := (·.name)) (List.fst_mem_of_mem_zipIdx hv)
  simp only [names, List.mem_append, Assembly.threadVariable, hmem, or_true, true_or]

theorem name_mem_of_mem_threadedFunctions (d : Draft) :
    ∀ f ∈ d.threadedFunctions, f.name ∈ d.names := by
  refine List.forall_mem_map.mpr fun f hf => ?_
  have hmem := List.mem_map_of_mem (f := (·.name)) (List.fst_mem_of_mem_zipIdx hf)
  simp only [names, List.mem_append, Assembly.threadFunction, hmem, or_true]

theorem size_archive (d : Draft) : d.archive.size = d.archiveBlock.size := by
  rw [archive, Bytes.size_ofList, Block.length_bytes]

namespace Writable

variable (h : d.Writable)
include h

theorem size_archive_lt : d.archive.size < 2 ^ 31 := by
  rw [size_archive]
  exact h.size_lt

theorem envelope :
    tagAt d.archive 0 = .ok "FORM".toUTF8.data.toList ∧
      natAt d.archive 4 = .ok (row d.parts).size ∧ (row d.parts).StandsIn d.archive 8 := by
  have hblock : d.archiveBlock.StandsIn d.archive 0 := ⟨[], [], by simp [archive], rfl⟩
  rw [row_parts]
  simpa using hblock.chunk (by decide) h.size_archive_lt

theorem gives_chunks : Gives (chunks d.archive) (chunksOf 8 d.parts) := by
  obtain ⟨htag, hsize, hrow⟩ := h.envelope
  have hle := hrow.le_size
  refine .bind (.lift htag) ?_
  rw [if_neg (by simp)]
  refine .bind (.lift hsize) ?_
  rw [Nat.min_eq_left hle]
  exact .bind (gives_chunksFrom hrow d.tagged_parts h.size_archive_lt (by omega))
    (.bind (.note _ _) (.pure _))

theorem exists_chunk {tag : String} {data : Block} (hmem : (tag, data) ∈ d.parts) :
    ∃ c, chunkWith (chunksOf 8 d.parts) tag = .ok c ∧ c.size = data.size ∧
      data.StandsIn d.archive c.start :=
  exists_chunkWith h.envelope.2.2 d.tagged_parts d.nodup_parts h.size_archive_lt hmem

theorem named : d.Named d.archive := by
  refine ⟨h.size_archive_lt, ?_⟩
  have hrow : (Block.chunk "STRG" d.stringBlock ++ _).StandsIn d.archive 8 := h.envelope.2.2
  have hchunk := (Block.StandsIn.append_iff.mp hrow).1
  exact (hchunk.chunk (by decide) h.size_archive_lt).2.2

/-- The code chunk is where the draft assumes it to be. -/
theorem exists_codeChunk :
    ∃ c, chunkWith (chunksOf 8 d.parts) "CODE" = .ok c ∧
      c.start + 4 + 4 * d.code.length = d.firstRecord ∧ d.codeBlock.StandsIn d.archive c.start := by
  have htags : Tagged d.partsBeforeCode := fun p hp => d.tagged_parts p (List.mem_append_left _ hp)
  have hfind : chunkWith (chunksOf 8 d.parts) "CODE" = .ok _ :=
    chunkWith_chunksOf htags (by simp [partsBeforeCode])
  have hmem : ("CODE", d.codeBlock) ∈ d.parts := by simp [parts, partsFromCode]
  obtain ⟨c, hc, -, hcode⟩ := h.exists_chunk hmem
  obtain rfl := Except.ok.inj (hc.symm.trans hfind)
  refine ⟨_, hfind, ?_, hcode⟩
  rw [row_partsBeforeCode, firstRecord]

theorem firstRecord_lt : d.firstRecord + 16 * d.code.length < 2 ^ 31 := by
  obtain ⟨c, -, hstart, hcode⟩ := h.exists_codeChunk
  have hle := hcode.le_size
  have hlt := h.size_archive_lt
  have hsize : (Block.list d.codeRecords).size ≤ d.codeBlock.size := Nat.le_add_right _ _
  rw [Block.size_list, Block.size_concat d.size_of_mem_codeRecords, length_codeRecords] at hsize
  omega

/-! ### Tables -/

theorem gives_sprites {c : Chunk} (items : PointerIndex)
    (hc : (Block.list (d.sprites.map d.spriteBlock)).StandsIn d.archive c.start) :
    Gives (Archive.sprites d.archive items c) d.sprites := by
  rw [← d.sprites.map_id]
  refine hc.gives_table h.size_archive_lt (fun s hs p hp => ?_) _
  have hname : s.name ∈ d.names := by
    simp only [names, List.mem_append, List.mem_map_of_mem hs, or_true, true_or]
  exact h.named.sprite_eq hname (h.frames s hs) hp items

theorem gives_paths {c : Chunk}
    (hc : (Block.list (d.paths.map d.pathBlock)).StandsIn d.archive c.start) :
    Gives (Archive.paths d.archive c) d.paths := by
  rw [← d.paths.map_id]
  refine hc.gives_table h.size_archive_lt (fun q hq p hp => ?_) _
  have hname : q.name ∈ d.names := by
    simp only [names, List.mem_append, List.mem_map_of_mem hq, or_true, true_or]
  exact h.named.path_eq hname hp

theorem gives_objects {c : Chunk}
    (hc : (Block.list (d.objects.map d.objectBlock)).StandsIn d.archive c.start) :
    Gives (Archive.objects d.archive d.codeIndex c) d.objects := by
  rw [← d.objects.map_id]
  refine hc.gives_table h.size_archive_lt (fun o ho p hp => ?_) _
  have hname : o.name ∈ d.names := by
    simp only [names, List.mem_append, List.mem_map_of_mem ho, or_true, true_or]
  exact h.named.object_eq hname (h.actions o ho) hp

theorem gives_rooms {c : Chunk}
    (hc : (Block.list (d.rooms.map d.roomBlock)).StandsIn d.archive c.start) :
    Gives (Archive.rooms d.archive d.codeIndex c) (d.rooms.map d.placedRoom) := by
  refine hc.gives_table h.size_archive_lt (fun r hr p hp => ?_) _
  have hnames {s : String} (hs : s ∈ [r.name, r.caption]) : s ∈ d.names := by
    have hmem : s ∈ d.rooms.flatMap fun r => [r.name, r.caption] := List.mem_flatMap_of_mem hr hs
    simp only [names, List.mem_append, hmem, or_true, true_or]
  exact h.named.room_eq (hnames (by simp)) (hnames (by simp)) (h.pictures r hr) h.firstRecord_lt hp

theorem scripts_eq {c : Chunk}
    (hc : (Block.list (d.scripts.map d.scriptBlock)).StandsIn d.archive c.start) :
    Archive.scripts d.archive c = .ok d.scripts := by
  have hscript (s : Script) (hs : s ∈ d.scripts) (p : Nat)
      (hp : (d.scriptBlock s).StandsIn d.archive p) : script d.archive p = pure s := by
    refine h.named.script_eq ?_ hp
    simp only [names, List.mem_append, List.mem_map_of_mem hs, or_true, true_or]
  obtain ⟨pointers, hpointers, hscripts⟩ := hc.exists_pointers (g := id) h.size_archive_lt hscript
  rw [Archive.scripts, hpointers, ok_bind, hscripts, List.map_id]
  rfl

theorem gives_variableTable {c : Chunk} (hsize : c.size = d.variablesBlock.size)
    (hc : d.variablesBlock.StandsIn d.archive c.start) :
    Gives (Archive.variableTable d.archive c) d.threadedVariables := by
  simp only [variablesBlock, Block.StandsIn.append_iff, Block.size_append, Block.size_nat,
    Nat.reduceAdd] at hc hsize
  have hrecords := hc.2
  have hle := hrecords.le_size
  have hsizes : ∀ k ∈ d.threadedVariables.map d.variableBlock, k.size = 20 :=
    List.forall_mem_map.mpr fun v _ => d.size_variableBlock v
  have hconcat := Block.size_concat hsizes
  rw [List.length_map] at hconcat
  have hstop : c.stop = c.start + 12 + 20 * d.threadedVariables.length := by
    rw [Chunk.stop, hsize, hconcat]
    omega
  have hfuel : d.threadedVariables.length ≤ d.archive.size / 20 + 2 := by omega
  have hread := h.named.variablesFrom_eq d.name_mem_of_mem_threadedVariables hrecords hfuel
  rw [← hstop] at hread
  exact .bind (.lift hread) (.bind (.note _ _) (.pure _))

theorem gives_functionTable {c : Chunk} (hc : d.functionsBlock.StandsIn d.archive c.start) :
    Gives (Archive.functionTable d.archive c) d.threadedFunctions := by
  have hlength : d.functionTable.length = d.threadedFunctions.length := by simp [threadedFunctions]
  rw [functionsBlock, hlength] at hc
  obtain ⟨hcount, bytes, hbytes⟩ := hc.counted (n := 12) (fun _ _ => rfl) (by simp)
    h.size_archive_lt
  have hrecords := (Block.StandsIn.append_iff.mp hc).2.mapM_range (m := Load) (n := 12) (g := id)
    (f := fun p => liftM (functionRecord d.archive p)) (fun _ _ => rfl) fun f hf p hp => by
      rw [h.named.functionRecord_eq (d.name_mem_of_mem_threadedFunctions f hf) hp, lift_ok, id]
  rw [Block.size_nat, List.map_id] at hrecords
  refine .bind (.lift hcount) (.bind (.lift hbytes) ?_)
  rw [hrecords, pure_bind]
  exact .bind (.note _ _) (.pure _)

theorem gives_required :
    Gives (forIn requiredTags PUnit.unit fun tag _ => do
      let _ ← (chunkWith (chunksOf 8 d.parts) tag : Load Chunk)
      return .yield ⟨⟩) ⟨⟩ := by
  refine .forIn fun tag htag => ?_
  rw [← d.tags_parts] at htag
  obtain ⟨⟨_, data⟩, hmem, rfl⟩ := List.mem_map.mp htag
  obtain ⟨c, hc, -⟩ := h.exists_chunk hmem
  exact .bind (.lift hc) (.pure _)

/-- A load that starts with the table of a chunk, given what the chunk holds. -/
theorem bind_table {α β : Type} {tag : String} {data : Block} {f : Chunk → Load α} {a : α}
    {rest : α → Load β} {r : β} (hmem : (tag, data) ∈ d.parts)
    (hf : ∀ c, c.size = data.size → data.StandsIn d.archive c.start → Gives (f c) a)
    (hrest : Gives (rest a) r) :
    Gives (do
      let c ← (chunkWith (chunksOf 8 d.parts) tag : Load Chunk)
      let x ← f c
      rest x) r := by
  obtain ⟨c, hc, hsize, hdata⟩ := h.exists_chunk hmem
  exact .bind (.lift hc) (.bind (hf c hsize hdata) hrest)

theorem gives_game : Gives (Archive.game d.archive) d.game := by
  have hbefore {p : String × Block} (hp : p ∈ d.partsBeforeCode) : p ∈ d.parts :=
    List.mem_append_left _ hp
  have hbehind {p : String × Block} (hp : p ∈ d.partsFromCode) : p ∈ d.parts :=
    List.mem_append_right _ hp
  have hempty := gives_pictures h.size_archive_lt (.ofList [])
  unfold Archive.game
  refine .bind h.gives_chunks (.bind h.gives_required ?_)
  refine h.bind_table (hbefore (by simp [partsBeforeCode])) (fun c _ => h.named.gives_strings) ?_
  refine h.bind_table (hbefore (by simp [partsBeforeCode])) (fun c _ => h.named.gives_info) ?_
  refine h.bind_table (hbefore (by simp [partsBeforeCode])) (fun c _ hc => (hempty c hc).1) ?_
  refine h.bind_table (hbefore (by simp [partsBeforeCode])) (fun c _ hc => (hempty c hc).2.1) ?_
  refine h.bind_table (hbefore (by simp [partsBeforeCode])) (fun c _ => h.gives_sprites _) ?_
  refine h.bind_table (hbefore (by simp [partsBeforeCode])) (fun c _ hc => (hempty c hc).2.2.1) ?_
  refine h.bind_table (hbefore (by simp [partsBeforeCode])) (fun c _ => h.gives_paths) ?_
  refine h.bind_table (hbefore (by simp [partsBeforeCode])) (fun c _ hc => (hempty c hc).2.2.2) ?_
  -- Code has to be where the references between code entries were threaded, not just anywhere.
  obtain ⟨c, hfind, hstart, hc⟩ := h.exists_codeChunk
  refine .bind (.lift hfind) (.bind (h.named.gives_codeEntries hstart hc) ?_)
  refine h.bind_table (hbehind (by simp [partsFromCode])) (fun c _ => h.gives_objects) ?_
  refine h.bind_table (hbehind (by simp [partsFromCode])) (fun c _ => h.gives_rooms) ?_
  refine h.bind_table (hbehind (by simp [partsFromCode]))
    (fun c _ hc => .lift (h.scripts_eq hc)) ?_
  refine h.bind_table (hbehind (by simp [partsFromCode])) (fun c => h.gives_variableTable) ?_
  refine h.bind_table (hbehind (by simp [partsFromCode])) (fun c _ => h.gives_functionTable) ?_
  exact .bind (.note _ _) (.bind (.note _ _) (.pure _))

end Writable

/-- Reading undoes writing: the archive of a draft is read as the game that the draft describes, its
code in place and with its references threaded, whatever the journal is. -/
theorem ofArchive_archive (h : d.Writable) (log : Journal) :
    (Game.ofArchive d.archive log).1 = .ok d.game := h.gives_game log

theorem map_arguments_game (d : Draft) :
    d.game.code.toList.map (·.arguments) = d.code.map fun c => c.arguments &&& 0x7fff := by
  apply List.ext_getElem
  · simp [game]
  · intro i _ _
    simp [game, placedCode]

/-- A game with an entry in every table. The number of arguments of its code has the highest bit
set, and the creation code of its room is no code entry. -/
def lodge : Draft where
  info := { bytecodeVersion := 16, name := "lodge", displayName := "The Lodge", gameId := 7,
            windowWidth := 640, windowHeight := 480, roomOrder := [0] }
  strings := ["welcome"]
  sprites := [{ name := "lamp", width := 16, height := 16, marginRight := 15, marginBottom := 15 }]
  paths := [{ name := "round", closed := true, points := [⟨0, 0, 100⟩, ⟨8, 0, 50⟩] }]
  code := [{ name := "arrive", locals := 1, arguments := 0x8001,
             assembly := .ofList [.call 0 0, .popVar Selector.self 0, .exit] }]
  objects := [{ name := "lodger", sprite := 0, events := [[⟨0, [0, -1]⟩]] }]
  rooms := [{ name := "hall", caption := "Hall", width := 320, height := 240, creationCode := 9,
              views := [⟨true, 0, 0, 320, 240, 0, 0, 640, 480, 32, 32, -1, -1, 0⟩],
              placements := [⟨16, 16, 0, 100000, 0, 1, 1, -1, 0⟩] }]
  scripts := [⟨"greet", 0⟩]
  variableTable := [⟨"mood", Selector.self, 7, 0, 0⟩]
  functionTable := [⟨"random", 0, 0⟩]

theorem writable_lodge : lodge.Writable where
  frames := by simp [lodge]
  pictures := by simp [lodge]
  actions := by simp [lodge, IsIndex]
  size_lt := by decide +kernel

theorem ofArchive_archive_lodge :
    lodge.Writable ∧ (Game.ofArchive lodge.archive .silent).1 = .ok lodge.game :=
  ⟨writable_lodge, ofArchive_archive writable_lodge .silent⟩

/-- The highest bit of a number of arguments is not read back. -/
theorem arguments_not_read_back :
    lodge.Writable ∧ ∃ g, (Game.ofArchive lodge.archive .silent).1 = .ok g ∧
      g.code.toList.map (·.arguments) ≠ lodge.code.map (·.arguments) := by
  refine ⟨writable_lodge, _, writable_lodge.gives_game .silent, ?_⟩
  rw [map_arguments_game]
  decide

end Draft

end GameRunner

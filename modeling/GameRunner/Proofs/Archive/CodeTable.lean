import GameRunner.Archive.Code
import GameRunner.Archive.Rooms
import GameRunner.Proofs.Archive.Names
import GameRunner.Proofs.Archive.Pointers

/-!
# The code table of a draft

Code records stand in a row, and behind them the code. Setting the links of references leaves the
sizes of code entries as they are, so that each entry starts where its record says. References to
code from other tables are the positions of code records or, in event tables, indices; no index is
the position of a record.
-/

namespace GameRunner

namespace Assembly

theorem map_size_threadChain (starts : List Nat) (sites : List Site) (code : List ByteArray) :
    (threadChain starts sites code).map (·.size) = code.map (·.size) := by
  fun_induction threadChain starts sites code with
  | case1 code a b rest distance ih =>
    rw [ih]
    apply List.ext_getElem (by simp)
    intro i hi hi'
    simp only [List.getElem_map, List.getElem_modify]
    split_ifs
    · exact Bytes.size_modifyWord _ _ _
    · rfl
  | case2 => rfl

theorem map_size_threadAll (starts : List Nat) (code : List Assembly) (m n : Nat) :
    (threadAll starts code m n).map (·.size) = code.map (·.bytes.size) := by
  have hfold (chains : List (List Site)) (bytes : List ByteArray) :
      (chains.foldl (fun bytes sites => threadChain starts sites bytes) bytes).map (·.size) =
        bytes.map (·.size) := by
    induction chains generalizing bytes with
    | nil => rfl
    | cons sites rest ih => rw [List.foldl_cons, ih, map_size_threadChain]
  rw [threadAll, hfold, List.map_map]
  rfl

end Assembly

theorem Archive.Block.positions_eq_startsFrom (pos : Nat) (items : List Block) :
    positions pos items = startsFrom pos (items.map (·.size)) := by
  induction items generalizing pos with
  | nil => rfl
  | cons k rest ih => rw [positions, ih, List.map_cons, startsFrom]

@[simp] theorem length_startsFrom (pos : Nat) (sizes : List Nat) :
    (startsFrom pos sizes).length = sizes.length := by
  induction sizes generalizing pos with
  | nil => rfl
  | cons size rest ih => simp [startsFrom, ih]

namespace Draft

open Archive

variable {d : Draft} {b : ByteArray} {code : Int32} {i n : Nat}

@[simp] theorem length_codeStarts (d : Draft) : d.codeStarts.length = d.code.length := by
  simp [codeStarts, assemblies]

theorem map_size_threaded (d : Draft) :
    d.threaded.map (·.size) = d.code.map (·.assembly.bytes.size) := by
  rw [threaded, Assembly.map_size_threadAll, assemblies, List.map_map]
  rfl

@[simp] theorem length_threaded (d : Draft) : d.threaded.length = d.code.length := by
  simpa using congrArg List.length d.map_size_threaded

/-! ### References to code -/

/-- Where the code records stand. -/
def codePointers (d : Draft) : List Nat :=
  (List.range d.code.length).map fun i => d.firstRecord + 16 * i

/-- The code records by position. -/
def codeIndex (d : Draft) : PointerIndex := .ofList d.codePointers

theorem nodup_codePointers (d : Draft) : d.codePointers.Nodup :=
  List.nodup_range.map fun i j hij => by omega

theorem find?_codeIndex (hi : i < d.code.length) :
    d.codeIndex.find? (d.firstRecord + 16 * i) = some i := by
  apply PointerIndex.find?_of_nodup d.nodup_codePointers
  simp [codeIndex, PointerIndex.ofList, codePointers, hi]

/-- The number of a code entry is never the position of a record: the pointers to all records stand
before the first of them. -/
theorem find?_codeIndex_of_lt (hn : n < d.code.length) : d.codeIndex.find? n = none := by
  rw [PointerIndex.find?_eq_none_iff]
  intro hmem
  obtain ⟨i, -, hi⟩ := List.mem_map.mp hmem
  dsimp only [firstRecord] at hi
  omega

/-- An event action is read back as it was. -/
theorem actionCode_codeIndex (hcode : IsIndex code d.code.length) :
    actionCode d.codeIndex code = pure code := by
  unfold actionCode
  obtain rfl | ⟨hle, hlt⟩ := hcode
  · rfl
  · rw [if_neg (Int32.not_lt.mpr hle)]
    dsimp only
    have hdistinct : d.codeIndex.distinct = d.code.length := by
      rw [codeIndex, PointerIndex.distinct_ofList_of_nodup d.nodup_codePointers, codePointers,
        List.length_map, List.length_range]
    rw [find?_codeIndex_of_lt hlt, hdistinct]
    exact if_pos hlt

/-- Creation code is read back as it was if it is a code entry, else as none. -/
theorem creationCode_codeIndex (hsize : d.firstRecord + 16 * d.code.length < 2 ^ 31)
    (code : Int32) :
    Archive.creationCode d.codeIndex (d.creationRef code) = d.creationCode code := by
  unfold creationRef Draft.creationCode
  split_ifs with hcode
  · rw [Bool.and_eq_true, decide_eq_true_eq, decide_eq_true_eq] at hcode
    obtain ⟨hle, hlt⟩ := hcode
    have hint := Int32.toInt_ofNat_of_lt (n := d.firstRecord + 16 * code.toInt.toNat) (by omega)
    have hzero : Int32.toInt 0 = 0 := rfl
    have hnonneg : ¬ Int32.ofNat (d.firstRecord + 16 * code.toInt.toNat) < 0 := by
      rw [Int32.lt_iff_toInt_lt, hint, hzero]
      omega
    rw [Archive.creationCode, if_neg hnonneg, hint, PointerIndex.findOr, Int.toNat_natCast,
      find?_codeIndex hlt]
    exact ofNat_toNat_toInt hle
  · rfl

/-! ### Reading the table -/

/-- The code records. -/
def codeRecords (d : Draft) : List Block :=
  (d.code.zip d.codeStarts).map fun c => d.codeRecord c.1 c.2

@[simp] theorem length_codeRecords (d : Draft) : d.codeRecords.length = d.code.length := by
  simp [codeRecords]

theorem size_codeRecord (d : Draft) (c : DraftCode) (start : Nat) :
    (d.codeRecord c start).size = 16 := rfl

theorem size_of_mem_codeRecords (d : Draft) : ∀ k ∈ d.codeRecords, k.size = 16 :=
  List.forall_mem_map.mpr fun c _ => d.size_codeRecord c.1 c.2

theorem positions_codeRecords (d : Draft) :
    Block.positions d.firstRecord d.codeRecords = d.codePointers := by
  rw [Block.positions_eq_map d.size_of_mem_codeRecords, length_codeRecords, codePointers]

/-- The code behind the records. -/
def codeBodies (d : Draft) : List Block :=
  d.threaded.map fun bytes => .ofBytes bytes.data.toList

theorem positions_codeBodies (d : Draft) :
    Block.positions (d.firstRecord + 16 * d.code.length) d.codeBodies = d.codeStarts := by
  have hsizes : d.codeBodies.map (·.size) = d.assemblies.map (·.bytes.size) := by
    rw [codeBodies, assemblies, List.map_map, List.map_map]
    exact d.map_size_threaded
  rw [Block.positions_eq_startsFrom, hsizes]
  rfl

/-- A code entry is read back from its record and its bytes. -/
theorem Named.codeEntry_eq (h : d.Named b) {c : DraftCode} {pos start : Nat} {bytes : ByteArray}
    (hname : c.name ∈ d.names) (hp : (d.codeRecord c start).StandsIn b pos)
    (hbytes : (Block.ofBytes bytes.data.toList).StandsIn b start)
    (hlength : bytes.size = c.assembly.bytes.size) :
    Archive.codeEntry b pos = .ok (placedCode c start bytes) := by
  have hsize := h.size_lt
  have hpos := hp.le_size
  have hstart := hbytes.le_size
  rw [size_codeRecord] at hpos
  rw [Block.size_ofBytes, Array.length_toList, ByteArray.size_data] at hstart
  simp only [codeRecord, Block.StandsIn.append_iff, Block.size_append, size_stringRef,
    Block.size_nat, Block.size_half, and_assoc, Nat.reduceAdd, ← hlength] at hp
  obtain ⟨hnameRef, hcount, hlocals, harguments, haddress⟩ := hp
  have hbytes := hbytes.bytesAt
  rw [Array.length_toList, ByteArray.size_data] at hbytes
  have haddress : i32At b (pos + 12) = _ := Block.StandsIn.i32At haddress
  -- The address is relative to the field, so adding the position of the field gives the start.
  have hrelative : (Int32.ofInt (start - (pos + 12 : Nat))).toInt = start - (pos + 12 : Nat) :=
    Int32.toInt_ofInt_of_le (by omega) (by omega)
  have hoffset : ((pos : Int) + 12 + (start - (pos + 12 : Nat))).toNat = start := by omega
  simp only [Archive.codeEntry, h.stringRefAt hname hnameRef, hcount.natAt (by omega), haddress,
    hlocals.u16At, harguments.u16At, ok_bind, hrelative, hoffset, hbytes]
  rfl

/-- Records and code stand where the draft says that they do. -/
theorem Named.standsIn_code (h : d.Named b) {pos : Nat}
    (hpos : pos + 4 + 4 * d.code.length = d.firstRecord) (hp : d.codeBlock.StandsIn b pos) :
    pointerList b pos = .ok d.codePointers ∧
      List.Forall₂ (fun k p => k.StandsIn b p) d.codeRecords d.codePointers ∧
      List.Forall₂ (fun k p => k.StandsIn b p) d.codeBodies d.codeStarts := by
  have hblock : d.codeBlock = .list d.codeRecords ++ .concat d.codeBodies := rfl
  rw [hblock, Block.StandsIn.append_iff] at hp
  obtain ⟨hrecords, hbodies⟩ := hp
  obtain ⟨hpointers, hrecords⟩ := hrecords.list h.size_lt
  rw [length_codeRecords, hpos, positions_codeRecords] at hpointers hrecords
  have hbehind : pos + (Block.list d.codeRecords).size = d.firstRecord + 16 * d.code.length := by
    rw [Block.size_list, Block.size_concat d.size_of_mem_codeRecords, length_codeRecords]
    omega
  have hbodies := hbodies.concat
  rw [hbehind, positions_codeBodies] at hbodies
  exact ⟨hpointers, hrecords, hbodies⟩

/-- The code entries in their places. -/
def placedEntries (d : Draft) : List CodeEntry :=
  ((d.code.zip d.codeStarts).zip d.threaded).map fun c => placedCode c.1.1 c.1.2 c.2

/-- The code table is read back. -/
theorem Named.gives_codeEntries (h : d.Named b) {c : Chunk}
    (hstart : c.start + 4 + 4 * d.code.length = d.firstRecord)
    (hc : d.codeBlock.StandsIn b c.start) :
    Load.Gives (Archive.codeEntries b c) (d.codeIndex, d.placedEntries) := by
  obtain ⟨hpointers, hrecords, hbodies⟩ := h.standsIn_code hstart hc
  rw [List.forall₂_iff_get] at hrecords hbodies
  have hentries : d.codePointers.mapM (fun p => (liftM (Archive.codeEntry b p) : Load CodeEntry)) =
      pure d.placedEntries := by
    refine mapM_eq_pure (List.forall₂_iff_get.mpr ⟨by simp [codePointers, placedEntries], ?_⟩)
    intro i hi _
    have hi : i < d.code.length := by simpa [codePointers] using hi
    have hrecord := hrecords.2 i (by simpa) (by simpa [codePointers])
    have hbody := hbodies.2 i (by simpa [codeBodies]) (by simpa)
    have hthreaded : i < d.threaded.length := by simpa
    have hsize : d.threaded[i].size = d.code[i].assembly.bytes.size := by
      simpa [hi] using congrArg (·[i]?) d.map_size_threaded
    simp only [codeRecords, codeBodies, List.get_eq_getElem, List.getElem_map, List.getElem_zip,
      placedEntries] at hrecord hbody ⊢
    have hname : d.code[i].name ∈ d.names := by
      have hmem := List.mem_map_of_mem (f := (·.name)) (List.getElem_mem hi)
      simp only [names, List.mem_append, hmem, or_true, true_or]
    rw [h.codeEntry_eq hname hrecord hbody hsize, lift_ok]
  refine .bind (.lift hpointers) ?_
  rw [hentries, pure_bind]
  exact .bind (.note _ _) (.pure _)

end Draft

end GameRunner

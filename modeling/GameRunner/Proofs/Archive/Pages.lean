import GameRunner.Proofs.Archive.Indices

/-!
# Texture pages

The records of texture pages tell where the picture data of each page starts, but not how long it is.
A page extends to the start of the next one and the last page to the end of its chunk. If the pages
are in order and lie within the chunk, and the chunk lies within the archive, then the data of the
pages put together is all that stands there from the first page on.
-/

namespace GameRunner

namespace Archive

open Load

/-! ### Where the pages are -/

theorem blind_chunksFrom (b : ByteArray) (stop fuel pos : Nat) :
    Blind (chunksFrom b stop fuel pos) := by
  induction fuel generalizing pos with
  | zero => exact .pure []
  | succ fuel ih =>
    unfold chunksFrom
    split_ifs
    · refine (Blind.lift _).bind fun tag => (Blind.lift _).bind fun size => ?_
      exact (Blind.note _ _).bind fun _ => (ih _).bind fun rest => .pure _
    · exact .pure []

theorem blind_chunks (b : ByteArray) : Blind (chunks b) := by
  unfold chunks
  refine (Blind.lift _).bind fun magic => ?_
  extract_lets list
  have hlist (r : PUnit) : Blind (list r) := by
    refine (Blind.lift _).bind fun size => (blind_chunksFrom _ _ _ _).bind fun found => ?_
    exact (Blind.note _ _).bind fun _ => .pure found
  split_ifs
  · exact (Blind.throw _).bind hlist
  · exact hlist ⟨⟩

/-- The first chunk with a tag lies here. -/
def HasChunk (b : ByteArray) (tag : String) (c : Chunk) : Prop :=
  ∃ found, CanGive (chunks b) found ∧ chunkWith found tag = .ok c

theorem HasChunk.unique {b : ByteArray} {tag : String} {c c' : Chunk} (h : HasChunk b tag c)
    (h' : HasChunk b tag c') : c = c' := by
  obtain ⟨found, hfound, hc⟩ := h
  obtain ⟨found', hfound', hc'⟩ := h'
  obtain rfl := (blind_chunks b).eq_of_canGive hfound hfound'
  rw [hc] at hc'
  cases hc'
  rfl

/-- The pages of a chunk start at these positions, as their records tell. -/
def PageStarts (b : ByteArray) (c : Chunk) (starts : List Nat) : Prop :=
  Entries b c.start (fun p start => natAt b (p + 4) = .ok start) starts

theorem PageStarts.unique {b : ByteArray} {c : Chunk} {starts starts' : List Nat}
    (h : PageStarts b c starts) (h' : PageStarts b c starts') : starts = starts' := by
  obtain ⟨pointers, hpointers, hstarts⟩ := h
  obtain ⟨pointers', hpointers', hstarts'⟩ := h'
  obtain rfl : pointers = pointers' := by
    rw [hpointers] at hpointers'
    cases hpointers'
    rfl
  refine List.right_unique_forall₂' ?_ hstarts hstarts'
  intro p start start' hstart hstart'
  rw [hstart] at hstart'
  cases hstart'
  rfl

theorem yields_texturePages {b : ByteArray} (c : Chunk) :
    Yields (texturePages b c) fun pages =>
      ∃ starts, PageStarts b c starts ∧ pages = pagesFrom c.stop starts := by
  refine .read fun pointers hpointers => ?_
  refine (Yields.mapM (fun p => Yields.lift fun _ h => h) pointers).bind fun starts hstarts => ?_
  exact .skip fun _ => .pure ⟨starts, ⟨pointers, hpointers, hstarts⟩, rfl⟩

/-! ### Pages one behind the other -/

section InOrder

variable {b : ByteArray} {start stop : Nat} {starts : List Nat}

theorem length_pagesFrom (stop : Nat) (starts : List Nat) :
    (pagesFrom stop starts).length = starts.length := by
  induction starts with
  | nil => rfl
  | cons start rest ih => rw [pagesFrom, List.length_cons, List.length_cons, ih]

theorem headD_le (hstop : ∀ x ∈ starts, x ≤ stop) : starts.headD stop ≤ stop := by
  cases starts with
  | nil => exact le_rfl
  | cons start rest => exact hstop start List.mem_cons_self

theorem le_headD (hle : ∀ x ∈ starts, start ≤ x) (hstop : start ≤ stop) :
    start ≤ starts.headD stop := by
  cases starts with
  | nil => exact hstop
  | cons next rest => exact hle next List.mem_cons_self

/-- Pages do not extend beyond the end. -/
theorem end_le_of_mem_pagesFrom (hstop : ∀ x ∈ starts, x ≤ stop) :
    ∀ p ∈ pagesFrom stop starts, p.offset + p.length ≤ stop := by
  induction starts with
  | nil => simp [pagesFrom]
  | cons start rest ih =>
    obtain ⟨hstart, hrest⟩ := List.forall_mem_cons.mp hstop
    have hnext := headD_le hrest
    refine List.forall_mem_cons.mpr ⟨?_, ih hrest⟩
    dsimp only
    omega

/-- The data of pages. -/
def slicesFrom (b : ByteArray) (stop : Nat) (starts : List Nat) : List ByteArray :=
  (pagesFrom stop starts).map fun p => b.extract p.offset (p.offset + p.length)

/-- The data of pages in order, put together, leaves nothing out. -/
theorem foldr_slicesFrom (horder : starts.Pairwise (· ≤ ·)) (hstop : ∀ x ∈ starts, x ≤ stop) :
    (slicesFrom b stop starts).foldr (· ++ ·) .empty = b.extract (starts.headD stop) stop := by
  induction starts with
  | nil => exact ByteArray.extract_same.symm
  | cons start rest ih =>
    obtain ⟨hle, horder⟩ := List.pairwise_cons.mp horder
    obtain ⟨hstart, hrest⟩ := List.forall_mem_cons.mp hstop
    have hnext := le_headD hle hstart
    have hend : start + (rest.headD stop - start) = rest.headD stop := by omega
    change b.extract start (start + (rest.headD stop - start)) ++
      (slicesFrom b stop rest).foldr (· ++ ·) .empty = b.extract start stop
    rw [hend, ih horder hrest]
    exact (ByteArray.extract_eq_extract_append_extract _ hnext (headD_le hrest)).symm

end InOrder

end Archive

theorem Game.texturePageBytes?_eq {g : Game} {stop : Nat} {starts : List Nat}
    (hpages : g.texturePages.toList = Archive.pagesFrom stop starts)
    (hstop : ∀ x ∈ starts, x ≤ stop) (hsize : stop ≤ g.buffer.size) (page : Nat) :
    g.texturePageBytes? page = (Archive.slicesFrom g.buffer stop starts)[page]? := by
  rw [texturePageBytes?, ← Array.getElem?_toList, hpages, Archive.slicesFrom, List.getElem?_map]
  cases hpage : (Archive.pagesFrom stop starts)[page]? with
  | none => rfl
  | some p =>
    have hend := Archive.end_le_of_mem_pagesFrom hstop p (List.mem_of_getElem? hpage)
    exact if_pos (hend.trans hsize)

open Archive

/-- If the pages of an archive that can be read are in order, do not start behind the end of their
chunk, and the chunk ends within the archive, then each page has its data, and all data put together
is what stands in the archive from the start of the first page to the end of the chunk. -/
theorem pages_tile_chunk {b : ByteArray} {log : Journal} {g : Game} {c : Chunk} {starts : List Nat}
    (h : (Game.ofArchive b log).1 = .ok g) (hc : HasChunk b "TXTR" c)
    (hstarts : PageStarts b c starts) (horder : starts.Pairwise (· ≤ ·))
    (hstop : ∀ start ∈ starts, start ≤ c.stop) (hsize : c.stop ≤ b.size) :
    ∃ slices : List ByteArray, slices.length = starts.length ∧
      (∀ page, g.texturePageBytes? page = slices[page]?) ∧
      slices.foldr (· ++ ·) .empty = b.extract (starts.headD c.stop) c.stop := by
  obtain ⟨found, itemIndex, codeIndex, hfound, hg⟩ := yields_game b log g h
  obtain ⟨c', hc', hpages⟩ := hg.texturePages
  obtain rfl : c' = c := HasChunk.unique ⟨found, hfound, hc'⟩ hc
  obtain ⟨starts', hstarts', hpages⟩ := (yields_texturePages c').of_canGive hpages
  obtain rfl := hstarts'.unique hstarts
  have hslice := Game.texturePageBytes?_eq hpages hstop (hg.buffer ▸ hsize)
  rw [hg.buffer] at hslice
  refine ⟨slicesFrom b c'.stop starts', ?_, hslice, foldr_slicesFrom horder hstop⟩
  rw [slicesFrom, List.length_map, length_pagesFrom]

/-- Three pages with five bytes of data, of which the second page has none. -/
def galleryPages : Block :=
  .list [.zeros 4 ++ .pointer 20, .zeros 4 ++ .pointer 14, .zeros 4 ++ .pointer 6] ++
    .ofBytes [1, 2, 3, 4, 5]

/-- An archive that holds nothing but texture pages. -/
def gallery : ByteArray :=
  let parts := [("STRG", .list []), ("GEN8", .zeros 0x84), ("TPAG", .list []), ("TXTR", galleryPages),
    ("SPRT", .list []), ("BGND", .list []), ("PATH", .list []), ("FONT", .list []),
    ("CODE", .list []), ("OBJT", .list []), ("ROOM", .list []), ("SCPT", .list []),
    ("VARI", .zeros 12), ("FUNC", .zeros 4)]
  Bytes.ofList ((Block.chunk "FORM" (row parts)).bytes 0)

/-- Where the pages lie in it. -/
def galleryChunk : Chunk := ⟨"TXTR".toUTF8.data.toList, 180, 45⟩

theorem hasChunk_gallery : HasChunk gallery "TXTR" galleryChunk := by
  have hlisted : ((chunks gallery .silent).1.bind fun found => chunkWith found "TXTR") =
      .ok galleryChunk := by
    decide +kernel
  cases hfound : (chunks gallery .silent).1 with
  | error e =>
    rw [hfound] at hlisted
    cases hlisted
  | ok found =>
    rw [hfound] at hlisted
    exact ⟨found, ⟨.silent, hfound⟩, hlisted⟩

theorem pageStarts_gallery : PageStarts gallery galleryChunk [220, 222, 222] := by
  have hpointers : pointerList gallery galleryChunk.start = .ok [196, 204, 212] := by decide +kernel
  refine ⟨_, hpointers, .cons ?_ (.cons ?_ (.cons ?_ .nil))⟩ <;> decide +kernel

theorem pages_tile_chunk_gallery :
    ∃ g, (Game.ofArchive gallery .silent).1 = .ok g ∧ HasChunk gallery "TXTR" galleryChunk ∧
      PageStarts gallery galleryChunk [220, 222, 222] ∧
      [220, 222, 222].Pairwise (· ≤ ·) ∧ (∀ start ∈ [220, 222, 222], start ≤ galleryChunk.stop) ∧
      galleryChunk.stop ≤ gallery.size ∧
      ∃ slices : List ByteArray, slices.length = 3 ∧
        (∀ page, g.texturePageBytes? page = slices[page]?) ∧
        slices.foldr (· ++ ·) .empty = Bytes.ofList [1, 2, 3, 4, 5] := by
  have hloads : (Game.ofArchive gallery .silent).1.isOk := by decide +kernel
  have horder : [220, 222, 222].Pairwise (· ≤ ·) := by decide
  have hstop : ∀ start ∈ [220, 222, 222], start ≤ galleryChunk.stop := by decide
  have hsize : galleryChunk.stop ≤ gallery.size := by decide +kernel
  have hwhole : gallery.extract 220 galleryChunk.stop = Bytes.ofList [1, 2, 3, 4, 5] := by
    decide +kernel
  cases hg : (Game.ofArchive gallery .silent).1 with
  | error e =>
    rw [hg] at hloads
    cases hloads
  | ok g =>
    obtain ⟨slices, hlength, hslices, hdata⟩ :=
      pages_tile_chunk hg hasChunk_gallery pageStarts_gallery horder hstop hsize
    exact ⟨g, rfl, hasChunk_gallery, pageStarts_gallery, horder, hstop, hsize, slices, hlength,
      hslices, hdata.trans hwhole⟩

end GameRunner

import GameRunner.Proofs.Program.AddressLookup
import GameRunner.Proofs.Program.Routines
import GameRunner.Proofs.Program.Stamping

/-!
# Linking is exact

Routines are placed in a game where no two share an address, and the references to each table entry
are tied into a chain by setting links. Making the program of the game then finds for each table
entry exactly the references to it, in the order of their addresses, and marks exactly these
instructions with the index of the entry.
-/

namespace GameRunner

open Statement

/-- The link that was set at a site. -/
def linkOf (code : List Routine) (a : Site) : Option UInt32 :=
  code[a.entry]?.bind fun r => r.link? a.offset

/-- A table entry tells the number of some sites and the address of the first, and each site but the
last holds the distance, of at most twenty-seven bits, to the next one behind it. -/
structure Threads (code : List Routine) (starts : List Nat) (first count : Int32)
    (chain : List Site) : Prop where
  count : count = Int32.ofNat chain.length
  first : ∀ a ∈ chain.head?, first = Int32.ofNat (a.address starts)
  links : chain.IsChain fun a b => a.address starts < b.address starts ∧
    b.address starts - a.address starts < 2 ^ 27 ∧
    linkOf code a = some (UInt32.ofNat (b.address starts - a.address starts))

/-- Where the code entries of a game start. -/
def Game.starts (g : Game) : List Nat := g.code.toList.map (·.offset)

/-- A game of routines, placed apart from each other below `2 ^ 31`, whose tables are threaded
through all references that were recorded. -/
structure Linked (code : List Routine) (g : Game) : Prop where
  valid : ∀ r ∈ code, r.Valid
  bytes : g.code.toList.map (·.bytes) = code.map Routine.bytes
  below : ∀ e ∈ g.code.toList, e.offset + e.bytes.size ≤ 2 ^ 31
  apart : Apart g.code.toList
  variableChains (i : Nat) (v : Variable) : g.variableTable.toList[i]? = some v →
    ∃ chain, Threads code g.starts v.firstOccurrence v.occurrences chain ∧
      ∀ a, a ∈ chain ↔ a ∈ Assembly.sitesOf Assembly.variableRefs (code.map Routine.assembly) i
  functionChains (i : Nat) (f : Function) : g.functionTable.toList[i]? = some f →
    ∃ chain, Threads code g.starts f.firstOccurrence f.occurrences chain ∧
      ∀ a, a ∈ chain ↔ a ∈ Assembly.sitesOf Assembly.functionRefs (code.map Routine.assembly) i

theorem length_le_of_pairwise_lt {l : List Nat} {n : Nat} (h : l.Pairwise (· < ·))
    (hb : ∀ a ∈ l, a < n) : l.length ≤ n := by
  have hnodup : l.Nodup := h.imp Nat.ne_of_lt
  have hsub : l ⊆ List.range n := fun a ha => List.mem_range.mpr (hb a ha)
  simpa using (hnodup.subperm hsub).length_le

namespace Linked

variable {code : List Routine} {g : Game} {l : Location} {s : Statement}

theorem exists_entry (h : Linked code g) {n : Nat} {r : Routine} (hr : code[n]? = some r) :
    ∃ e, g.code.toList[n]? = some e ∧ r.Valid ∧ e.bytes = linkedBytes r.statements r.link? := by
  have hvalid := h.valid r (List.mem_of_getElem? hr)
  have hmap := congrArg (·[n]?) h.bytes
  simp only [List.getElem?_map, hr, Option.map_some, Option.map_eq_some_iff] at hmap
  obtain ⟨e, he, hbytes⟩ := hmap
  exact ⟨e, he, hvalid, hbytes.trans (Routine.bytes_eq hvalid)⟩

/-- Where a statement lies in the game. -/
theorem exists_place (h : Linked code g) (hs : statementAt? code l = some s) :
    ∃ r e, code[l.entry]? = some r ∧ r.statements[l.instruction]? = some s ∧
      g.code.toList[l.entry]? = some e ∧ e.bytes = linkedBytes r.statements r.link? ∧
      siteOf code l = ⟨l.entry, codeSize (r.statements.take l.instruction)⟩ ∧
      (siteOf code l).address g.starts = e.offset + (siteOf code l).offset ∧
      (siteOf code l).offset + s.size ≤ e.bytes.size := by
  obtain ⟨r, hr, hk, hsite⟩ := exists_of_statementAt? hs
  obtain ⟨e, he, -, hbytes⟩ := h.exists_entry hr
  refine ⟨r, e, hr, hk, he, hbytes, hsite, ?_, ?_⟩
  · rw [hsite, Site.address, Game.starts, List.getElem?_map, he]
    rfl
  · rw [hsite, hbytes, size_linkedBytes]
    exact codeSize_take_add_size_le hk

/-- The address of a statement lies in its entry, below `2 ^ 31`. -/
theorem address_lt (h : Linked code g) (hs : statementAt? code l = some s) :
    (siteOf code l).address g.starts + s.size ≤ 2 ^ 31 := by
  obtain ⟨r, e, -, -, he, -, -, haddress, hsize⟩ := h.exists_place hs
  have hbelow := h.below e (List.mem_of_getElem? he)
  omega

theorem getElem?_decoded (h : Linked code g) {n : Nat} {r : Routine} (hr : code[n]? = some r) :
    (CodeMap.ofGame g).decoded[n]? =
      some ⟨(instructionsFrom 0 r.statements).toArray⟩ := by
  obtain ⟨e, he, hvalid, hbytes⟩ := h.exists_entry hr
  rw [Array.getElem?_toList] at he
  rw [CodeMap.getElem?_decoded_ofGame he, hbytes, decode_linkedBytes hvalid.readable]

/-- A chain that arrives at the address of a statement finds its instruction. -/
theorem locate_eq (h : Linked code g) (hs : statementAt? code l = some s) (resolved : Nat) :
    (CodeMap.ofGame g).locate resolved ((siteOf code l).address g.starts) =
      .ok (l, (siteOf code l).offset) := by
  obtain ⟨r, e, hr, hk, he, hbytes, hsite, haddress, hsize⟩ := h.exists_place hs
  have hpos := s.size_pos
  have hfind : findRange? (CodeMap.ofGame g).ranges ((siteOf code l).address g.starts) =
      some (rangeOf (e, l.entry)) := by
    apply findRange?_codeRanges h.apart he
    constructor <;> omega
  have hindex := indexOf?_instructionsFrom (List.getElem?_eq_some_iff.mp hk).1
  have hdecoded := h.getElem?_decoded hr
  unfold CodeMap.locate
  rw [hfind]
  simp only [rangeOf, hdecoded, Option.getD_some]
  rw [haddress, Nat.add_sub_cancel_left, hsite]
  simp only [hindex]

/-- The link at a reference is the one that was set. -/
theorem linkAt?_eq (h : Linked code g) (hs : statementAt? code l = some s) (href : s.isReference)
    {distance : Nat} (hd : distance < 2 ^ 27)
    (hl : linkOf code (siteOf code l) = some (UInt32.ofNat distance)) :
    linkAt? ((CodeMap.ofGame g).entryBytes l.entry) (siteOf code l).offset = some distance := by
  obtain ⟨r, e, hr, hk, he, hbytes, hsite, -, -⟩ := h.exists_place hs
  rw [hsite] at hl ⊢
  simp only [linkOf, hr, Option.bind_some] at hl
  rw [Array.getElem?_toList] at he
  simp only [CodeMap.entryBytes, CodeMap.ofGame, he, Option.map_some, Option.getD_some]
  rw [hbytes, linkAt?_linkedBytes hk href hl, UInt32.toNat_ofNat_of_lt' (by
    simp only [UInt32.size]
    omega), Nat.mod_eq_of_lt hd]

end Linked

/-- The locations of the statements that refer to a table entry, in the order of their addresses. -/
structure ListsReferences (code : List Routine) (starts : List Nat) (ref : Statement → Option Nat)
    (i : Nat) (locations : List Location) : Prop where
  sorted : locations.Pairwise fun a b =>
    (siteOf code a).address starts < (siteOf code b).address starts
  mem_iff (l : Location) : l ∈ locations ↔ ∃ s, statementAt? code l = some s ∧ ref s = some i

namespace Linked

variable {code : List Routine} {g : Game} {refs : Assembly → List (Nat × Nat)}
  {ref : Statement → Option Nat} {i : Nat} {chain : List Site}

/-- The sites that were recorded for a table entry belong to the statements that refer to it. -/
theorem exists_locations (hrec : Assembly.Records refs ref)
    (hmem : ∀ a, a ∈ chain ↔ a ∈ Assembly.sitesOf refs (code.map Routine.assembly) i) :
    ∃ locations : List Location, chain = locations.map (siteOf code) ∧
      ∀ l, l ∈ locations ↔ ∃ s, statementAt? code l = some s ∧ ref s = some i := by
  have hex : ∀ a ∈ chain, ∃ l s, statementAt? code l = some s ∧ ref s = some i ∧
      siteOf code l = a := fun a ha => (mem_sitesOf_iff hrec).mp ((hmem a).mp ha)
  choose! f s hs href hsite using hex
  have hmap : chain = (chain.map f).map (siteOf code) := by
    rw [List.map_map]
    exact (List.map_id'' (fun a => rfl) chain).symm.trans
      (List.map_congr_left fun a ha => (hsite a ha).symm)
  refine ⟨chain.map f, hmap, fun l => ⟨fun hl => ?_, ?_⟩⟩
  · obtain ⟨a, ha, rfl⟩ := List.mem_map.mp hl
    exact ⟨s a ha, hs a ha, href a ha⟩
  · rintro ⟨t, ht, hti⟩
    have ha : siteOf code l ∈ chain :=
      (hmem _).mpr ((mem_sitesOf_iff hrec).mpr ⟨l, t, ht, hti, rfl⟩)
    have hl : f (siteOf code l) = l := siteOf_injective (hs _ ha) ht (hsite _ ha)
    exact List.mem_map.mpr ⟨_, ha, hl⟩

/-- The chain of a table entry is walked through all references to the entry. -/
theorem listsReferences_walk (h : Linked code g) (hrec : Assembly.Records refs ref)
    {first count : Int32} (ht : Threads code g.starts first count chain)
    (hmem : ∀ a, a ∈ chain ↔ a ∈ Assembly.sitesOf refs (code.map Routine.assembly) i) :
    ListsReferences code g.starts ref i ((CodeMap.ofGame g).walk first count).1 := by
  obtain ⟨locations, rfl, hlocations⟩ := exists_locations hrec hmem
  have hlinks := (List.isChain_map _).mp ht.links
  have hsorted : locations.Pairwise fun a b =>
      (siteOf code a).address g.starts < (siteOf code b).address g.starts := by
    have haddresses :
        (locations.map fun l => (siteOf code l).address g.starts).IsChain (· < ·) :=
      (List.isChain_map _).mpr (hlinks.imp fun a b hab => hab.1)
    exact List.pairwise_map.mp (List.isChain_iff_pairwise.mp haddresses)
  have haddress (l : Location) (hl : l ∈ locations) :
      (siteOf code l).address g.starts < 2 ^ 31 - 1 := by
    obtain ⟨s, hs, hsi⟩ := (hlocations l).mp hl
    obtain ⟨w, p, hw⟩ := exists_words_of_isReference (hrec.isReference hsi)
    have hlt := h.address_lt hs
    have hsize : s.size = 8 := by rw [Statement.size, hw]; rfl
    omega
  have hlength : locations.length ≤ 2 ^ 31 - 1 := by
    have hle := length_le_of_pairwise_lt (List.pairwise_map.mpr hsorted) (n := 2 ^ 31 - 1) (by
      intro a ha
      obtain ⟨l, hl, rfl⟩ := List.mem_map.mp ha
      exact haddress l hl)
    simpa using hle
  have hwalk : (CodeMap.ofGame g).walk first count = (locations, none) := by
    apply CodeMap.walk_eq (fun l => (siteOf code l).address g.starts)
      (fun l => (siteOf code l).offset)
    · intro l hl resolved
      obtain ⟨s, hs, -⟩ := (hlocations l).mp hl
      exact h.locate_eq hs resolved
    · apply hlinks.imp_of_mem_imp
      rintro a b ha - ⟨hlt, hd, hlink⟩
      obtain ⟨s, hs, hsi⟩ := (hlocations a).mp ha
      exact ⟨h.linkAt?_eq hs (hrec.isReference hsi) hd hlink, hlt⟩
    · rw [ht.count, List.length_map]
    · omega
    · intro a ha
      refine ⟨ht.first (siteOf code a) ?_, ?_⟩
      · rw [List.head?_map]
        exact Option.mem_map_of_mem _ ha
      · have := haddress a (List.mem_of_mem_head? ha)
        omega
  rw [hwalk]
  exact ⟨hsorted, hlocations⟩

end Linked

/-- A program holds one instruction for each statement, which is marked with what the statement
refers to and with nothing else, and it lists the references to each table entry. -/
structure LinksExactly (code : List Routine) (g : Game) (p : Program) : Prop where
  size : p.code.size = code.length
  instructions (l : Location) : instructionAt? p.code l = (statementAt? code l).map fun s =>
    { s.instruction (siteOf code l).offset with
      variableIndex := References.tableIndex g.variableTable.size s.variableRef?
      functionIndex := References.tableIndex g.functionTable.size s.functionRef? }
  variableLength : p.references.variableSites.length = g.variableTable.size
  variableSites (i : Nat) (locations : List Location) :
    p.references.variableSites[i]? = some locations →
      ListsReferences code g.starts variableRef? i locations
  functionLength : p.references.functionSites.length = g.functionTable.size
  functionSites (i : Nat) (locations : List Location) :
    p.references.functionSites[i]? = some locations →
      ListsReferences code g.starts functionRef? i locations

namespace Linked

variable {code : List Routine} {g : Game}

theorem listsReferences_variableSites (h : Linked code g) (i : Nat) (locations : List Location)
    (hi : (References.ofGame g (CodeMap.ofGame g)).variableSites[i]? = some locations) :
    ListsReferences code g.starts variableRef? i locations := by
  simp only [References.ofGame, List.getElem?_map, Option.map_eq_some_iff] at hi
  obtain ⟨v, hv, rfl⟩ := hi
  obtain ⟨chain, ht, hmem⟩ := h.variableChains i v hv
  exact h.listsReferences_walk Assembly.records_variableRefs ht hmem

theorem listsReferences_functionSites (h : Linked code g) (i : Nat) (locations : List Location)
    (hi : (References.ofGame g (CodeMap.ofGame g)).functionSites[i]? = some locations) :
    ListsReferences code g.starts functionRef? i locations := by
  simp only [References.ofGame, List.getElem?_map, Option.map_eq_some_iff] at hi
  obtain ⟨f, hf, rfl⟩ := hi
  obtain ⟨chain, ht, hmem⟩ := h.functionChains i f hf
  exact h.listsReferences_walk Assembly.records_functionRefs ht hmem

theorem size_decoded (h : Linked code g) : (CodeMap.ofGame g).decoded.size = code.length := by
  have hlength := congrArg List.length h.bytes
  simpa [CodeMap.ofGame] using hlength

theorem instructionAt?_decoded (h : Linked code g) (l : Location) :
    instructionAt? (CodeMap.ofGame g).decoded l =
      (statementAt? code l).map fun s => s.instruction (siteOf code l).offset := by
  cases hr : code[l.entry]? with
  | none =>
    have hnone : (CodeMap.ofGame g).decoded[l.entry]? = none := by
      rw [Array.getElem?_eq_none_iff, h.size_decoded, ← List.getElem?_eq_none_iff]
      exact hr
    simp [instructionAt?, statementAt?, hr, hnone]
  | some r =>
    simp only [instructionAt?, statementAt?, h.getElem?_decoded hr, hr, Option.bind_some,
      List.getElem?_toArray, getElem?_instructionsFrom, Nat.zero_add, siteOf, Option.map_some,
      Option.getD_some, Assembly.here_ofList]

/-- Linking is exact: in the program of a game whose tables are threaded through the references of
its routines, every instruction is marked with the table entry that its statement refers to, and
every table entry lists exactly these instructions, in the order of their addresses. -/
theorem linksExactly_ofGame (h : Linked code g) : LinksExactly code g (Program.ofGame g) := by
  have hvlength : (References.ofGame g (CodeMap.ofGame g)).variableSites.length =
      g.variableTable.size := by
    simp [References.ofGame]
  have hflength : (References.ofGame g (CodeMap.ofGame g)).functionSites.length =
      g.functionTable.size := by
    simp [References.ofGame]
  refine ⟨?_, fun l => ?_, hvlength, h.listsReferences_variableSites, hflength,
    h.listsReferences_functionSites⟩
  · rw [Program.ofGame, References.size_stamp, h.size_decoded]
  · have hdecoded := h.instructionAt?_decoded l
    rw [Program.ofGame, ← hvlength, ← hflength]
    dsimp only
    rw [References.instructionAt?_stamp _ _ l ((statementAt? code l).bind variableRef?)
      ((statementAt? code l).bind functionRef?), hdecoded]
    · cases statementAt? code l with
      | none => rfl
      | some s => rfl
    · intro j locations hj
      rw [(h.listsReferences_variableSites j locations hj).mem_iff, Option.bind_eq_some_iff]
    · intro j locations hj
      rw [(h.listsReferences_functionSites j locations hj).mem_iff, Option.bind_eq_some_iff]
    · intro i hi
      rw [hdecoded, Option.mem_def, Option.map_eq_some_iff] at hi
      obtain ⟨s, -, rfl⟩ := hi
      obtain ⟨w, payload, -, hs⟩ := exists_instruction_eq s
      obtain ⟨literal, kind, hi⟩ := hs (siteOf code l).offset
      rw [hi]
      exact ⟨rfl, rfl⟩

end Linked

/-- Two routines that refer to the same variable and call the same function. -/
def crossingCode : List Routine :=
  [⟨[.pushVar Selector.self 0, .call 0 1, .popz, .popVar Selector.self 0], [(0, 0x14)]⟩,
    ⟨[.call 0 0, .popVar Selector.global 0, .exit], [(0, 0x108), (8, 0xf8)]⟩]

/-- The two routines in a game, the later one first, with a variable that nothing refers to. -/
def crossingGame : Game where
  code := #[{ offset := 0x200, bytes := (crossingCode.map Routine.bytes)[0] },
    { offset := 0x100, bytes := (crossingCode.map Routine.bytes)[1] }]
  variableTable := #[⟨"score", -1, 0, 3, 0x108⟩, ⟨"unused", -1, 1, 0, -1⟩]
  functionTable := #[⟨"random", 2, 0x100⟩]

theorem linked_crossingGame : Linked crossingCode crossingGame := by
  have hvalid : ∀ r ∈ crossingCode, (∀ s ∈ r.statements, s.Readable) ∧
      ∀ l ∈ r.links, (l.1, 0) ∈ r.assembly.variableRefs ++ r.assembly.functionRefs := by
    decide +kernel
  have hvariable : Assembly.sitesOf Assembly.variableRefs (crossingCode.map Routine.assembly) 0 =
      [⟨0, 0⟩, ⟨0, 20⟩, ⟨1, 8⟩] := by
    decide +kernel
  have hunused : Assembly.sitesOf Assembly.variableRefs (crossingCode.map Routine.assembly) 1 =
      [] := by
    decide +kernel
  have hfunction : Assembly.sitesOf Assembly.functionRefs (crossingCode.map Routine.assembly) 0 =
      [⟨0, 8⟩, ⟨1, 0⟩] := by
    decide +kernel
  have hapart : Apart crossingGame.code.toList := apart_of_pairwise (by decide +kernel)
  refine ⟨fun r hr => ⟨(hvalid r hr).1, fun l hl => ⟨0, (hvalid r hr).2 l hl⟩⟩, rfl,
    by decide +kernel, hapart, ?_, ?_⟩
  · intro i v hv
    match i with
    | 0 =>
      cases hv
      refine ⟨[⟨1, 8⟩, ⟨0, 0⟩, ⟨0, 20⟩], ⟨rfl, ?_, by decide +kernel⟩, ?_⟩
      · rintro a ⟨⟩
        rfl
      · rw [hvariable]
        intro a
        simp only [List.mem_cons, List.not_mem_nil, or_false]
        tauto
    | 1 =>
      cases hv
      refine ⟨[], ⟨rfl, ?_, .nil⟩, ?_⟩
      · rintro a ⟨⟩
      · rw [hunused]
        exact fun a => Iff.rfl
    | i + 2 => simp [crossingGame] at hv
  · intro i f hf
    match i with
    | 0 =>
      cases hf
      refine ⟨[⟨1, 0⟩, ⟨0, 8⟩], ⟨rfl, ?_, by decide +kernel⟩, ?_⟩
      · rintro a ⟨⟩
        rfl
      · rw [hfunction]
        intro a
        simp only [List.mem_cons, List.not_mem_nil, or_false]
        tauto
    | i + 1 => simp [crossingGame] at hf

/-- Chains that run through both routines, against the order in which the entries stand. -/
theorem Linked.linksExactly_ofGame_crossing :
    Linked crossingCode crossingGame ∧
      LinksExactly crossingCode crossingGame (Program.ofGame crossingGame) :=
  ⟨linked_crossingGame, linked_crossingGame.linksExactly_ofGame⟩

end GameRunner

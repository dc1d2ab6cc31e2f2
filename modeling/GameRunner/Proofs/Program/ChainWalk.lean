import GameRunner.Proofs.Code.Tiling
import GameRunner.Proofs.Program.AddressLookup
import GameRunner.Proofs.Program.Stamping

/-!
# What is visited along a chain

The addresses of a chain follow from the first one by the links that are stored at them. Walking the
chain visits these addresses as long as an instruction starts there, as the link can be read in its
entry, and as the number of occurrences allows. Where no two entries share an address, this is the
longest start of the chain that is in order.
-/

namespace GameRunner

/-- An instruction that starts at an address: its entry holds the address, at the offset of the
instruction. -/
def StartsAt (code : Array CodeEntry) (address : Nat) (l : Location) : Prop :=
  ∃ e i, code[l.entry]? = some e ∧ e.Covers address ∧
    (Code.decode e.bytes).instructions[l.instruction]? = some i ∧ address = e.offset + i.offset

/-- An address whose link, read in the entry that holds the address, leads to another address. -/
def LinksTo (code : Array CodeEntry) (a b : Nat) : Prop :=
  ∃ e link, e ∈ code ∧ e.Covers a ∧ linkAt? e.bytes (a - e.offset) = some link ∧ b = a + link

variable {code : Array CodeEntry} {a b : Nat} {l : Location}

theorem neg_iff_toInt_neg {n : Int32} : n < 0 ↔ n.toInt < 0 := Int32.lt_iff_toInt_lt

theorem StartsAt.unique (h : StartsAt code a l) (h' : StartsAt code b l) : a = b := by
  obtain ⟨e, i, he, -, hi, rfl⟩ := h
  obtain ⟨e', i', he', -, hi', rfl⟩ := h'
  rw [he] at he'
  cases he'
  rw [hi] at hi'
  cases hi'
  rfl

/-- Where no two entries share an address, one entry at most holds it. -/
theorem Apart.eq_of_covers {e e' : CodeEntry} (h : Apart code.toList) (he : e ∈ code)
    (he' : e' ∈ code) (hc : e.Covers a) (hc' : e'.Covers a) : e = e' := by
  obtain ⟨j, hj⟩ := List.getElem?_of_mem (Array.mem_toList_iff.mpr he)
  obtain ⟨k, hk⟩ := List.getElem?_of_mem (Array.mem_toList_iff.mpr he')
  have := h j k e e' hj hk a hc hc'
  rw [this, hk] at hj
  exact (Option.some.inj hj).symm

namespace CodeMap

/-- What is found at an address: an instruction, with its offset in its entry. -/
def at? (m : CodeMap) (address : Nat) : Option (Location × Nat) :=
  (findRange? m.ranges address).bind fun r =>
    (((m.decoded[r.index]?).getD ⟨#[]⟩).indexOf? (address - r.start)).map fun i =>
      (⟨r.index, i⟩, address - r.start)

theorem locate_eq_ok_iff {m : CodeMap} {resolved : Nat} {x : Location × Nat} :
    m.locate resolved a = .ok x ↔ m.at? a = some x := by
  unfold at? locate
  cases findRange? m.ranges a with
  | none => simp
  | some r =>
    dsimp only [Option.bind_some]
    cases ((m.decoded[r.index]?).getD ⟨#[]⟩).indexOf? (a - r.start) with
    | none => simp
    | some i => simp

/-- The link that is stored at a location. -/
def linkOf? (m : CodeMap) (l : Location) : Option Nat :=
  (instructionAt? m.decoded l).bind fun i => linkAt? (m.entryBytes l.entry) i.offset

section OfGame

variable {g : Game} {offset n : Nat}

theorem entryBytes_ofGame {e : CodeEntry} (he : g.code[l.entry]? = some e) :
    (ofGame g).entryBytes l.entry = e.bytes := by
  simp [entryBytes, ofGame, he]

/-- The range that is found for an address is that of some entry. -/
theorem exists_of_findRange?_eq_some {r : CodeRange}
    (h : findRange? (ofGame g).ranges a = some r) :
    ∃ e, g.code[r.index]? = some e ∧ r.start = e.offset ∧ r.start ≤ a := by
  obtain ⟨hr, hstart⟩ := Option.filter_eq_some_iff.mp h
  obtain ⟨e, he, hoffset, -, -⟩ :=
    mem_codeRanges.mp (Array.mem_toList_iff.mpr (Array.mem_of_getElem? hr))
  rw [Array.getElem?_toList] at he
  exact ⟨e, he, hoffset, by simpa using hstart⟩

/-- What is found at an address starts there, in some entry that holds the address. -/
theorem exists_of_at?_eq_some (h : (ofGame g).at? a = some (l, offset)) :
    ∃ e i, g.code[l.entry]? = some e ∧ e.Covers a ∧
      (Code.decode e.bytes).instructions[l.instruction]? = some i ∧ i.offset = offset ∧
      a = e.offset + offset := by
  obtain ⟨r, hr, h⟩ := Option.bind_eq_some_iff.mp h
  obtain ⟨e, he, hstart, hle⟩ := exists_of_findRange?_eq_some hr
  obtain ⟨k, hk, h⟩ := Option.map_eq_some_iff.mp h
  cases h
  rw [getElem?_decoded_ofGame he, Option.getD_some, Code.indexOf?_decode_eq_some_iff] at hk
  obtain ⟨i, hi, hoffset⟩ := hk
  have hlt := Code.offset_lt_of_decode hi
  refine ⟨e, i, he, ⟨?_, ?_⟩, hi, hoffset, ?_⟩
  · omega
  · omega
  · omega

theorem isSome_instructionAt?_of_startsAt (h : StartsAt g.code a l) :
    (instructionAt? (ofGame g).decoded l).isSome := by
  obtain ⟨e, i, he, -, hi, -⟩ := h
  rw [instructionAt?_decoded_ofGame he, hi]
  rfl

theorem startsAt_of_at? (h : (ofGame g).at? a = some (l, offset)) : StartsAt g.code a l := by
  obtain ⟨e, i, he, hc, hi, rfl, ha⟩ := exists_of_at?_eq_some h
  exact ⟨e, i, he, hc, hi, ha⟩

theorem linkOf?_of_at? (h : (ofGame g).at? a = some (l, offset)) :
    linkAt? ((ofGame g).entryBytes l.entry) offset = (ofGame g).linkOf? l := by
  obtain ⟨e, i, he, -, hi, rfl, -⟩ := exists_of_at?_eq_some h
  rw [linkOf?, instructionAt?_decoded_ofGame he, hi, Option.bind_some]

theorem linksTo_of_at? {link : Nat} (h : (ofGame g).at? a = some (l, offset))
    (hlink : (ofGame g).linkOf? l = some link) : LinksTo g.code a (a + link) := by
  rw [← linkOf?_of_at? h] at hlink
  obtain ⟨e, i, he, hc, -, -, ha⟩ := exists_of_at?_eq_some h
  rw [entryBytes_ofGame he] at hlink
  refine ⟨e, link, Array.mem_of_getElem? he, hc, ?_, rfl⟩
  rw [ha, Nat.add_sub_cancel_left]
  exact hlink

/-- The addresses that are visited from an address on while places are left, with what is found
there. -/
inductive Visits (g : Game) : (remaining address : Nat) → List (Nat × Location) → Prop
  | full (a : Nat) : Visits g 0 a []
  | astray (n a : Nat) : (ofGame g).at? a = none → Visits g (n + 1) a []
  | last (n a : Nat) (l : Location) (offset : Nat) : (ofGame g).at? a = some (l, offset) →
    (ofGame g).linkOf? l = none → Visits g (n + 1) a [(a, l)]
  | next (n a : Nat) (l : Location) (offset link : Nat) (visits : List (Nat × Location)) :
    (ofGame g).at? a = some (l, offset) → (ofGame g).linkOf? l = some link →
    Visits g n (a + link) visits → Visits g (n + 1) a ((a, l) :: visits)

/-- A walk gives the locations that are visited. -/
theorem exists_visits_walkFrom (n resolved a : Nat) (found : List Location) :
    ∃ visits, Visits g n a visits ∧
      ((ofGame g).walkFrom n resolved a found).1 = found.reverse ++ visits.map Prod.snd := by
  induction n generalizing resolved a found with
  | zero => exact ⟨[], .full a, by simp [walkFrom]⟩
  | succ n ih =>
    rw [walkFrom]
    cases hat : (ofGame g).at? a with
    | none =>
      refine ⟨[], .astray n a hat, ?_⟩
      cases hl : (ofGame g).locate resolved a with
      | error e => simp
      | ok x =>
        rw [locate_eq_ok_iff, hat] at hl
        cases hl
    | some x =>
      obtain ⟨l, offset⟩ := x
      rw [locate_eq_ok_iff.mpr hat]
      dsimp only
      rw [linkOf?_of_at? hat]
      cases hlink : (ofGame g).linkOf? l with
      | none => exact ⟨_, .last n a l offset hat hlink, by split_ifs <;> simp⟩
      | some link =>
        split_ifs with hn
        · -- The link of the last place is not followed, which is the same as having no place left.
          subst hn
          exact ⟨_, .next 0 a l offset link [] hat hlink (.full _), by simp⟩
        · obtain ⟨visits, hvisits, hwalk⟩ := ih (resolved + 1) (a + link) (l :: found)
          exact ⟨_, .next n a l offset link visits hat hlink hvisits, by simp [hwalk]⟩

namespace Visits

variable {visits : List (Nat × Location)} {x : Nat × Location}

theorem length_le (h : Visits g n a visits) : visits.length ≤ n := by
  induction h with
  | full a => simp
  | astray n a hat => simp
  | last n a l offset hat hlink => simp
  | next n a l offset link visits hat hlink _ ih => simpa using ih

theorem head (h : Visits g n a visits) (hx : x ∈ visits.head?) : x.1 = a := by
  cases h with
  | full => cases hx
  | astray => cases hx
  | last n l offset => cases hx; rfl
  | next n l offset => cases hx; rfl

theorem exists_at? (h : Visits g n a visits) (hx : x ∈ visits) :
    ∃ offset, (ofGame g).at? x.1 = some (x.2, offset) := by
  induction h with
  | full a => cases hx
  | astray n a hat => cases hx
  | last n a l offset hat hlink =>
    rw [List.mem_singleton] at hx
    subst hx
    exact ⟨offset, hat⟩
  | next n a l offset link visits hat hlink _ ih =>
    rcases List.mem_cons.mp hx with rfl | hx
    · exact ⟨offset, hat⟩
    · exact ih hx

theorem startsAt (h : Visits g n a visits) (hx : x ∈ visits) : StartsAt g.code x.1 x.2 := by
  obtain ⟨offset, hat⟩ := h.exists_at? hx
  exact startsAt_of_at? hat

/-- The link of each place leads to the next one. -/
theorem isChain (h : Visits g n a visits) : visits.IsChain fun x y =>
    ∃ link, (ofGame g).linkOf? x.2 = some link ∧ y.1 = x.1 + link := by
  induction h with
  | full a => exact .nil
  | astray n a hat => exact .nil
  | last n a l offset hat hlink => exact .singleton _
  | next n a l offset link visits hat hlink hvisits ih =>
    refine List.isChain_cons.mpr ⟨fun y hy => ?_, ih⟩
    exact ⟨link, hlink, hvisits.head hy⟩

end Visits

/-- Where no two entries share an address, an instruction is found at the address at which it
starts. -/
theorem exists_at?_of_startsAt (h : Apart g.code.toList) (hs : StartsAt g.code a l) :
    ∃ offset, (ofGame g).at? a = some (l, offset) := by
  obtain ⟨e, i, he, hc, hi, ha⟩ := hs
  have hrange := findRange?_codeRanges h (k := l.entry) (by simpa using he) hc
  have hindex : (Code.decode e.bytes).indexOf? (a - e.offset) = some l.instruction := by
    rw [Code.indexOf?_decode_eq_some_iff]
    exact ⟨i, hi, by omega⟩
  refine ⟨a - e.offset, ?_⟩
  rw [at?, show (ofGame g).ranges = codeRanges g.code.toList from rfl, hrange, Option.bind_some]
  simp only [rangeOf, getElem?_decoded_ofGame he, Option.getD_some, hindex, Option.map_some]

theorem linkOf?_of_linksTo (h : Apart g.code.toList) (hl : (ofGame g).at? a = some (l, offset))
    (hab : LinksTo g.code a b) : ∃ link, (ofGame g).linkOf? l = some link ∧ b = a + link := by
  obtain ⟨e, i, he, hc, -, -, ha⟩ := exists_of_at?_eq_some hl
  obtain ⟨e', link, he', hc', hlink, rfl⟩ := hab
  cases h.eq_of_covers (Array.mem_of_getElem? he) he' hc hc'
  refine ⟨link, ?_, rfl⟩
  rw [← linkOf?_of_at? hl, entryBytes_ofGame he, ← hlink, ha, Nat.add_sub_cancel_left]

/-- Addresses that follow each other by their links, with an instruction at each, are visited. -/
theorem Visits.isPrefix {visits : List (Nat × Location)} (hv : Visits g n a visits)
    (h : Apart g.code.toList) {addresses : List Nat} (hhead : ∀ b ∈ addresses.head?, b = a)
    (hstarts : ∀ b ∈ addresses, ∃ l, StartsAt g.code b l)
    (hlinks : addresses.IsChain (LinksTo g.code)) (hlength : addresses.length ≤ n) :
    addresses <+: visits.map Prod.fst := by
  induction hv generalizing addresses with
  | full a =>
    rw [List.length_eq_zero_iff.mp (Nat.le_zero.mp hlength)]
    exact List.nil_prefix
  | astray n a hat =>
    cases addresses with
    | nil => exact List.nil_prefix
    | cons b rest =>
      obtain rfl : b = a := hhead b rfl
      obtain ⟨l, hl⟩ := hstarts b (by simp)
      obtain ⟨offset, hsome⟩ := exists_at?_of_startsAt h hl
      rw [hat] at hsome
      cases hsome
  | last n a l offset hat hlink =>
    -- There is no link, so no second address can follow.
    match addresses with
    | [] => exact List.nil_prefix
    | [b] => simp [hhead b rfl]
    | b :: c :: rest =>
      obtain rfl : b = a := hhead b rfl
      obtain ⟨hbc, -⟩ := List.isChain_cons_cons.mp hlinks
      obtain ⟨link, hsome, -⟩ := linkOf?_of_linksTo h hat hbc
      rw [hlink] at hsome
      cases hsome
  | next n a l offset link visits hat hlink _ ih =>
    cases addresses with
    | nil => exact List.nil_prefix
    | cons b rest =>
      obtain rfl : b = a := hhead b rfl
      obtain ⟨hnext, hrest⟩ := List.isChain_cons.mp hlinks
      rw [List.map_cons, List.cons_prefix_cons]
      refine ⟨rfl, ih (fun c hc => ?_) (fun c hc => ?_) hrest (by simpa using hlength)⟩
      · obtain ⟨link', hsome, rfl⟩ := linkOf?_of_linksTo h hat (hnext c hc)
        rw [hlink] at hsome
        cases hsome
        rfl
      · exact hstarts c (List.mem_cons_of_mem _ hc)

theorem walk_fst_of_neg {m : CodeMap} {first count : Int32} (h : first < 0) :
    (m.walk first count).1 = [] := by
  rw [walk, if_pos (Or.inr h)]

/-- From an address on, a walk visits as many places as the count allows. -/
theorem exists_visits_walk (g : Game) {first : Int32} (h : ¬ first < 0) (count : Int32) :
    ∃ visits, Visits g count.toInt.toNat first.toInt.toNat visits ∧
      ((ofGame g).walk first count).1 = visits.map Prod.snd := by
  rw [walk]
  split_ifs with hc
  · have hcount : count.toInt.toNat = 0 := by
      have hle : count.toInt ≤ 0 := Int32.le_iff_toInt_le.mp (hc.resolve_right h)
      omega
    rw [hcount]
    exact ⟨[], .full _, rfl⟩
  · exact exists_visits_walkFrom _ 0 _ []

end OfGame

end CodeMap

/-- Addresses at the start of a chain that are in order: they follow from the first one by links
that can be read, an instruction starts at each, and there are no more than the count says. -/
structure ChainStart (code : Array CodeEntry) (first count : Int32) (addresses : List Nat) :
    Prop where
  head : ∀ a ∈ addresses.head?, (a : Int) = first.toInt
  starts : ∀ a ∈ addresses, ∃ l, StartsAt code a l
  links : addresses.IsChain (LinksTo code)
  length_le : (addresses.length : Int) ≤ max count.toInt 0

/-- A chain without a first address has no start but the empty one. -/
theorem ChainStart.eq_nil_of_neg {first count : Int32} {addresses : List Nat}
    (h : ChainStart code first count addresses) (hneg : first < 0) : addresses = [] := by
  cases addresses with
  | nil => rfl
  | cons a rest =>
    have ha := h.head a rfl
    rw [neg_iff_toInt_neg] at hneg
    omega

/-- Locations of the instructions at the longest start of a chain that is in order: every other
start that is in order is part of it. -/
def VisitsLongestStart (code : Array CodeEntry) (first count : Int32) (locations : List Location) :
    Prop :=
  ∃ addresses, ChainStart code first count addresses ∧
    (∀ others, ChainStart code first count others → others <+: addresses) ∧
    List.Forall₂ (StartsAt code) addresses locations

namespace CodeMap

section OfGame

variable {g : Game}

theorem Visits.chainStart {first count : Int32} {visits : List (Nat × Location)}
    (hv : Visits g count.toInt.toNat first.toInt.toNat visits) (h : ¬ first < 0) :
    ChainStart g.code first count (visits.map Prod.fst) := by
  refine ⟨fun a ha => ?_, fun a ha => ?_, ?_, ?_⟩
  · rw [List.head?_map, Option.mem_def, Option.map_eq_some_iff] at ha
    obtain ⟨x, hx, rfl⟩ := ha
    rw [hv.head hx]
    rw [neg_iff_toInt_neg] at h
    omega
  · obtain ⟨x, hx, rfl⟩ := List.mem_map.mp ha
    exact ⟨x.2, hv.startsAt hx⟩
  · rw [List.isChain_map]
    apply hv.isChain.imp_of_mem_imp
    rintro x y hx - ⟨link, hlink, hy⟩
    obtain ⟨offset, hat⟩ := hv.exists_at? hx
    rw [hy]
    exact linksTo_of_at? hat hlink
  · have := hv.length_le
    rw [List.length_map]
    omega

/-- A walk visits the longest start of the chain that is in order, where no two entries share an
address. All locations that it gives are those of instructions, and there are none if the chain has
no first address. -/
theorem visitsLongestStart_walk (h : Apart g.code.toList) (first count : Int32) :
    VisitsLongestStart g.code first count ((ofGame g).walk first count).1 ∧
      (∀ l ∈ ((ofGame g).walk first count).1, (instructionAt? (ofGame g).decoded l).isSome) ∧
      (first < 0 → ((ofGame g).walk first count).1 = []) := by
  by_cases hneg : first < 0
  · rw [walk_fst_of_neg hneg]
    refine ⟨⟨[], ⟨by simp, by simp, .nil, by simp⟩, fun others ho => ?_, .nil⟩, by simp,
      fun _ => rfl⟩
    rw [ho.eq_nil_of_neg hneg]
  · obtain ⟨visits, hv, hwalk⟩ := exists_visits_walk g hneg count
    rw [hwalk]
    refine ⟨⟨_, hv.chainStart hneg, fun others ho => ?_, ?_⟩, ?_, fun hf => absurd hf hneg⟩
    · have hhead (b : Nat) (hb : b ∈ others.head?) : b = first.toInt.toNat := by
        have := ho.head b hb
        omega
      have hlength : others.length ≤ count.toInt.toNat := by
        have := ho.length_le
        omega
      exact hv.isPrefix h hhead ho.starts ho.links hlength
    · rw [List.forall₂_map_left_iff, List.forall₂_map_right_iff, List.forall₂_same]
      exact fun x hx => hv.startsAt hx
    · intro l hl
      obtain ⟨x, hx, rfl⟩ := List.mem_map.mp hl
      exact isSome_instructionAt?_of_startsAt (hv.startsAt hx)

end OfGame

end CodeMap

/-- Two entries, the later one first, and an empty one between them. The links lead from one entry
to the other, and from there into the middle of an instruction. -/
def strayCode : Array CodeEntry :=
  #[{ offset := 0x200
      bytes := ⟨#[0x01, 0x00, 0x0f, 0x84, 0xff, 0xff, 0x55, 0xc0, 0x04, 0x00, 0x00, 0xa0]⟩ },
    { offset := 0x150 },
    { offset := 0x100, bytes := ⟨#[0xff, 0xff, 0x55, 0xc0, 0x04, 0x01, 0x00, 0xa0]⟩ }]

/-- The chain has more occurrences than can be visited. -/
theorem CodeMap.visitsLongestStart_walk_stray :
    Apart strayCode.toList ∧
      VisitsLongestStart strayCode 0x100 3 ((ofGame { code := strayCode }).walk 0x100 3).1 ∧
      (∀ l ∈ ((ofGame { code := strayCode }).walk 0x100 3).1,
        (instructionAt? (ofGame { code := strayCode }).decoded l).isSome) ∧
      ((0x100 : Int32) < 0 → ((ofGame { code := strayCode }).walk 0x100 3).1 = []) := by
  have hapart : Apart strayCode.toList := apart_of_pairwise (by decide)
  exact ⟨hapart, CodeMap.visitsLongestStart_walk (g := { code := strayCode }) hapart 0x100 3⟩

end GameRunner

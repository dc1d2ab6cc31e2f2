import GameRunner.Program.Ranges
import Mathlib.Tactic

/-!
# Looking up addresses

Halving finds how many elements from the start satisfy a predicate, if those that do come first. On
the ranges of code entries of which no two share an address this makes the look-up exact: it finds
the entry that an address lies in, and nothing where there is none.
-/

namespace GameRunner

section Halving

variable {α : Type} {p : α → Bool} {a : Array α}

/-- The elements that satisfy a predicate come first. -/
def Leading (p : α → Bool) (a : Array α) : Prop :=
  ∀ i j, i ≤ j → holdsAt p a j = true → holdsAt p a i = true

theorem holdsAt_of_size_le {i : Nat} (h : a.size ≤ i) : holdsAt p a i = false := by
  simp [holdsAt, Array.getElem?_eq_none h]

/-- What is left of the stretch at the end is one place: everything before it satisfies the
predicate, and nothing behind it does. -/
theorem halve_spec (hp : Leading p a) (fuel base size : Nat) (hf : size ≤ fuel + 1)
    (hs : 1 ≤ size) (hlow : ∀ i < base, holdsAt p a i = true)
    (hhigh : ∀ i, base + size ≤ i → holdsAt p a i = false) :
    (∀ i < halve p a fuel base size, holdsAt p a i = true) ∧
      ∀ i, halve p a fuel base size + 1 ≤ i → holdsAt p a i = false := by
  induction fuel generalizing base size with
  | zero =>
    have h1 : size = 1 := by omega
    subst h1
    exact ⟨hlow, hhigh⟩
  | succ fuel ih =>
    rw [halve]
    dsimp only
    split_ifs with h1 h2
    · have h1 : size = 1 := by omega
      subst h1
      exact ⟨hlow, hhigh⟩
    · apply ih
      · omega
      · omega
      · intro i hi
        exact hp i (base + size / 2) (by omega) h2
      · intro i hi
        exact hhigh i (by omega)
    · apply ih
      · omega
      · omega
      · exact hlow
      · intro i hi
        rw [← Bool.not_eq_true]
        intro ht
        exact h2 (hp (base + size / 2) i (by omega) ht)

/-- The partition point has all elements that satisfy the predicate before it and none behind. -/
theorem partitionPoint_spec (hp : Leading p a) :
    (∀ i < partitionPoint p a, holdsAt p a i = true) ∧
      ∀ i, partitionPoint p a ≤ i → holdsAt p a i = false := by
  unfold partitionPoint
  split_ifs with hempty
  · refine ⟨fun i hi => by omega, fun i _ => holdsAt_of_size_le ?_⟩
    rw [Array.isEmpty_iff] at hempty
    simp [hempty]
  · have hpos : 1 ≤ a.size := by
      rw [Array.isEmpty_iff_size_eq_zero] at hempty
      omega
    obtain ⟨hlow, hhigh⟩ := halve_spec hp a.size 0 a.size (by omega) hpos
      (fun i hi => by omega) (fun i hi => holdsAt_of_size_le (by omega))
    dsimp only
    split_ifs with hbase
    · refine ⟨fun i hi => ?_, hhigh⟩
      rcases Nat.lt_or_ge i (halve p a a.size 0 a.size) with h | h
      · exact hlow i h
      · have he : i = halve p a a.size 0 a.size := by omega
        rw [he]
        exact hbase
    · refine ⟨hlow, fun i hi => ?_⟩
      rcases Nat.lt_or_ge (halve p a a.size 0 a.size) i with h | h
      · exact hhigh i h
      · have he : i = halve p a a.size 0 a.size := by omega
        rw [he]
        exact Bool.not_eq_true _ ▸ hbase

end Halving

/-- Whether an address lies in a code entry. -/
def CodeEntry.Covers (e : CodeEntry) (address : Nat) : Prop :=
  e.offset ≤ address ∧ address < e.offset + e.bytes.size

instance (e : CodeEntry) (address : Nat) : Decidable (e.Covers address) :=
  inferInstanceAs (Decidable (_ ∧ _))

/-- No address lies in two code entries. -/
def Apart (code : List CodeEntry) : Prop :=
  ∀ (j k : Nat) (a b : CodeEntry), code[j]? = some a → code[k]? = some b →
    ∀ address, a.Covers address → b.Covers address → j = k

/-- Entries of which one always ends before the other one starts share no address. -/
theorem apart_of_pairwise {entries : List CodeEntry}
    (h : entries.Pairwise fun e e' =>
      e.offset + e.bytes.size ≤ e'.offset ∨ e'.offset + e'.bytes.size ≤ e.offset) :
    Apart entries := by
  intro j k e e' hj hk address hc hc'
  obtain ⟨hjl, rfl⟩ := List.getElem?_eq_some_iff.mp hj
  obtain ⟨hkl, rfl⟩ := List.getElem?_eq_some_iff.mp hk
  unfold CodeEntry.Covers at hc hc'
  rcases Nat.lt_trichotomy j k with hlt | rfl | hlt
  · have := List.pairwise_iff_getElem.mp h j k hjl hkl hlt
    omega
  · rfl
  · have := List.pairwise_iff_getElem.mp h k j hkl hjl hlt
    omega

/-- Ranges that follow each other without sharing an address. -/
def CodeRange.Before (r s : CodeRange) : Prop := r.stop ≤ s.start ∧ s.start < s.stop

/-- The range of a code entry. -/
def rangeOf (e : CodeEntry × Nat) : CodeRange := ⟨e.1.offset, e.1.offset + e.1.bytes.size, e.2⟩

/-- The ranges of the code entries that have any bytes, in the order of the entries. -/
def rangesOf (code : List CodeEntry) : List CodeRange :=
  (code.zipIdx.filter fun e => e.1.bytes.size ≠ 0).map rangeOf

theorem mem_rangesOf {code : List CodeEntry} {r : CodeRange} :
    r ∈ rangesOf code ↔ ∃ e, code[r.index]? = some e ∧ r.start = e.offset ∧
      r.stop = e.offset + e.bytes.size ∧ r.start < r.stop := by
  unfold rangesOf
  simp only [List.mem_map, List.mem_filter, decide_eq_true_eq]
  constructor
  · rintro ⟨⟨e, k⟩, ⟨he, hne⟩, rfl⟩
    rw [List.mem_zipIdx_iff_getElem?] at he
    dsimp only at hne
    refine ⟨e, he, rfl, rfl, ?_⟩
    simp only [rangeOf]
    omega
  · rintro ⟨e, he, hstart, hstop, hlt⟩
    refine ⟨(e, r.index), ⟨?_, ?_⟩, ?_⟩
    · rw [List.mem_zipIdx_iff_getElem?]
      exact he
    · dsimp only
      omega
    · cases r
      simp_all [rangeOf]

/-- Ranges that share no address. -/
def CodeRange.Disjoint (r s : CodeRange) : Prop :=
  ∀ address, r.start ≤ address → address < r.stop → s.start ≤ address → s.stop ≤ address

theorem CodeRange.Disjoint.symm {r s : CodeRange} (h : r.Disjoint s) : s.Disjoint r := by
  intro address h1 h2 h3
  rcases Nat.lt_or_ge address r.stop with h4 | h4
  · have := h address h3 h4 h1
    omega
  · exact h4

theorem pairwise_disjoint_rangesOf {code : List CodeEntry} (h : Apart code) :
    (rangesOf code).Pairwise CodeRange.Disjoint := by
  unfold rangesOf
  rw [List.pairwise_map]
  apply List.Pairwise.filter
  rw [List.pairwise_iff_getElem]
  intro j k hj hk hjk address h1 h2 h3
  simp only [List.length_zipIdx] at hj hk
  simp only [List.getElem_zipIdx, rangeOf, Nat.zero_add] at h1 h2 h3 ⊢
  by_contra h4
  have := h j k code[j] code[k] (List.getElem?_eq_getElem hj) (List.getElem?_eq_getElem hk)
    address ⟨h1, h2⟩ ⟨h3, by omega⟩
  omega

theorem toList_codeRanges (code : List CodeEntry) :
    (codeRanges code).toList =
      (rangesOf code).mergeSort fun r s => decide (r.start ≤ s.start) := rfl

theorem mem_codeRanges {code : List CodeEntry} {r : CodeRange} :
    r ∈ (codeRanges code).toList ↔ ∃ e, code[r.index]? = some e ∧ r.start = e.offset ∧
      r.stop = e.offset + e.bytes.size ∧ r.start < r.stop := by
  rw [toList_codeRanges, List.mem_mergeSort, mem_rangesOf]

/-- Sorted by where they start, ranges that share no address follow each other. -/
theorem pairwise_before_codeRanges {code : List CodeEntry} (h : Apart code) :
    (codeRanges code).toList.Pairwise CodeRange.Before := by
  have hsorted : (codeRanges code).toList.Pairwise fun r s => decide (r.start ≤ s.start) := by
    rw [toList_codeRanges]
    apply List.pairwise_mergeSort
    · intro r s t hrs hst
      simp only [decide_eq_true_eq] at hrs hst ⊢
      omega
    · intro r s
      simp only [Bool.or_eq_true, decide_eq_true_eq]
      omega
  have hdisjoint : (codeRanges code).toList.Pairwise CodeRange.Disjoint := by
    rw [toList_codeRanges, (List.mergeSort_perm _ _).pairwise_iff fun h => h.symm]
    exact pairwise_disjoint_rangesOf h
  refine (hsorted.and hdisjoint).imp_of_mem ?_
  rintro r s hr hs ⟨hle, hd⟩
  obtain ⟨-, -, -, -, hr⟩ := mem_codeRanges.mp hr
  obtain ⟨-, -, -, -, hs⟩ := mem_codeRanges.mp hs
  refine ⟨?_, hs⟩
  by_contra hlt
  have := hd s.start (by simpa using hle) (by omega) (Nat.le_refl _)
  omega

section Search

variable {ranges : Array CodeRange}

/-- Among ranges that follow each other, those that end before an address come first. -/
theorem leading_stop_le (h : ranges.toList.Pairwise CodeRange.Before) (address : Nat) :
    Leading (fun r => decide (r.stop ≤ address)) ranges := by
  intro i j hij hj
  rcases Nat.lt_or_ge i j with hlt | hge
  · unfold holdsAt at hj ⊢
    split at hj
    · next s hs =>
      obtain ⟨hjs, rfl⟩ := Array.getElem?_eq_some_iff.mp hs
      rw [Array.getElem?_eq_getElem (by omega)]
      have hb := List.pairwise_iff_getElem.mp h i j (by simp; omega) (by simpa using hjs) hlt
      simp only [Array.getElem_toList, CodeRange.Before] at hb
      simp only [decide_eq_true_eq] at hj ⊢
      omega
    · cases hj
  · have he : i = j := by omega
    rw [he]
    exact hj

/-- Among ranges that follow each other, the look-up finds exactly the one an address lies in. -/
theorem findRange?_eq_some_iff (h : ranges.toList.Pairwise CodeRange.Before) {address : Nat}
    {r : CodeRange} :
    findRange? ranges address = some r ↔
      r ∈ ranges.toList ∧ r.start ≤ address ∧ address < r.stop := by
  obtain ⟨hlow, hhigh⟩ := partitionPoint_spec (leading_stop_le h address)
  unfold findRange?
  generalize partitionPoint (fun r : CodeRange => decide (r.stop ≤ address)) ranges = n
    at hlow hhigh
  rw [Option.filter_eq_some_iff, decide_eq_true_eq]
  constructor
  · rintro ⟨hr, hstart⟩
    have hn := hhigh n (Nat.le_refl n)
    simp only [holdsAt, hr, decide_eq_false_iff_not] at hn
    obtain ⟨hlt, rfl⟩ := Array.getElem?_eq_some_iff.mp hr
    refine ⟨by simp, hstart, by omega⟩
  · rintro ⟨hr, hstart, hstop⟩
    refine ⟨?_, hstart⟩
    obtain ⟨i, hi, rfl⟩ := List.getElem_of_mem hr
    simp only [Array.length_toList, Array.getElem_toList] at hi hstart hstop ⊢
    have hin : n ≤ i := by
      by_contra hlt
      have hi' := hlow i (by omega)
      simp only [holdsAt, Array.getElem?_eq_getElem hi, decide_eq_true_eq] at hi'
      omega
    rcases Nat.lt_or_ge n i with hlt | hge
    · have hb := List.pairwise_iff_getElem.mp h n i (by simp; omega) (by simpa using hi) hlt
      have hn := hhigh n (Nat.le_refl n)
      simp only [holdsAt, Array.getElem?_eq_getElem (Nat.lt_trans hlt hi),
        decide_eq_false_iff_not] at hn
      simp only [Array.getElem_toList, CodeRange.Before] at hb
      omega
    · have he : n = i := by omega
      rw [he, Array.getElem?_eq_getElem hi]

end Search

/-- Where no two entries share an address, an address of an entry leads to that entry. -/
theorem findRange?_codeRanges {code : List CodeEntry} (h : Apart code) {k : Nat} {e : CodeEntry}
    (he : code[k]? = some e) {address : Nat} (ha : e.Covers address) :
    findRange? (codeRanges code) address = some (rangeOf (e, k)) := by
  obtain ⟨h1, h2⟩ := ha
  rw [findRange?_eq_some_iff (pairwise_before_codeRanges h), mem_codeRanges]
  refine ⟨⟨e, he, rfl, rfl, ?_⟩, h1, h2⟩
  simp only [rangeOf]
  omega

/-- What is found among the ranges of entries that share no address is the range of an entry that
covers the address. -/
theorem findRange?_codeRanges_eq_some_iff {code : List CodeEntry} (h : Apart code) {address : Nat}
    {r : CodeRange} : findRange? (codeRanges code) address = some r ↔
      ∃ e, code[r.index]? = some e ∧ e.Covers address ∧ r = rangeOf (e, r.index) := by
  constructor
  · intro hr
    rw [findRange?_eq_some_iff (pairwise_before_codeRanges h), mem_codeRanges] at hr
    obtain ⟨⟨e, he, hstart, hstop, -⟩, hlow, hhigh⟩ := hr
    refine ⟨e, he, ⟨hstart ▸ hlow, hstop ▸ hhigh⟩, ?_⟩
    rw [rangeOf]
    dsimp only
    rw [← hstop, ← hstart]
  · rintro ⟨e, he, ha, hr⟩
    rw [hr]
    exact findRange?_codeRanges h he ha

/-- Where no two entries share an address, the look-up is exact: it finds the range of the one entry
that covers an address, with the index of that entry, and nothing if no entry covers the address. -/
theorem found_iff_covered {code : List CodeEntry} (h : Apart code) (address : Nat) :
    (∀ r, findRange? (codeRanges code) address = some r ↔
        ∃ e, code[r.index]? = some e ∧ e.Covers address ∧ r = rangeOf (e, r.index)) ∧
      (findRange? (codeRanges code) address = none ↔ ∀ e ∈ code, ¬ e.Covers address) := by
  refine ⟨fun r => findRange?_codeRanges_eq_some_iff h, fun hnone e he hcovers => ?_,
    fun hall => ?_⟩
  · obtain ⟨k, hk⟩ := List.getElem?_of_mem he
    rw [findRange?_codeRanges h hk hcovers] at hnone
    cases hnone
  · refine Option.eq_none_iff_forall_ne_some.mpr fun r hr => ?_
    obtain ⟨e, he, hcovers, -⟩ := (findRange?_codeRanges_eq_some_iff h).mp hr
    exact hall e (List.mem_of_getElem? he) hcovers

/-- Entries share no address if of any two with bytes one ends before the other one starts. -/
theorem apart_of_pairwise_rangesOf {code : List CodeEntry}
    (h : (rangesOf code).Pairwise fun r s => r.stop ≤ s.start ∨ s.stop ≤ r.start) : Apart code := by
  unfold rangesOf at h
  rw [List.pairwise_map, List.pairwise_filter, List.pairwise_iff_getElem] at h
  simp only [List.length_zipIdx, List.getElem_zipIdx, Nat.zero_add, decide_eq_true_eq, rangeOf] at h
  have hlt (j k : Nat) (hj : j < code.length) (hk : k < code.length) (address : Nat)
      (hcovers : code[j].Covers address) (hcovers' : code[k].Covers address) : ¬ j < k := by
    intro hjk
    unfold CodeEntry.Covers at hcovers hcovers'
    have hends := h j k hj hk hjk (by omega) (by omega)
    omega
  intro j k e e' hj hk address hcovers hcovers'
  obtain ⟨hjl, rfl⟩ := List.getElem?_eq_some_iff.mp hj
  obtain ⟨hkl, rfl⟩ := List.getElem?_eq_some_iff.mp hk
  exact Nat.le_antisymm (Nat.not_lt.mp (hlt k j hkl hjl address hcovers' hcovers))
    (Nat.not_lt.mp (hlt j k hjl hkl address hcovers hcovers'))

/-- Entries out of order, with an empty one in the middle of another entry and one at its end. The
two entries at the highest addresses meet there, and there is a gap before them. -/
def scatteredCode : List CodeEntry :=
  [{ offset := 0x24, bytes := ⟨#[0, 0, 0, 0]⟩ }, { offset := 0x22 }, { offset := 0x24 },
    { offset := 0x20, bytes := ⟨#[1, 1, 1, 1]⟩ }, { offset := 0x10, bytes := ⟨#[2]⟩ }]

/-- The ends of entries that meet, and the gap before them. -/
theorem found_iff_covered_scattered :
    Apart scatteredCode ∧
      findRange? (codeRanges scatteredCode) 0x10 = some ⟨0x10, 0x11, 4⟩ ∧
      findRange? (codeRanges scatteredCode) 0x11 = none ∧
      findRange? (codeRanges scatteredCode) 0x23 = some ⟨0x20, 0x24, 3⟩ ∧
      findRange? (codeRanges scatteredCode) 0x24 = some ⟨0x24, 0x28, 0⟩ ∧
      findRange? (codeRanges scatteredCode) 0x28 = none := by
  have hapart : Apart scatteredCode := apart_of_pairwise_rangesOf (by decide)
  have hfound (address : Nat) := (found_iff_covered hapart address).1
  have hmissed (address : Nat) := (found_iff_covered hapart address).2
  refine ⟨hapart, ?_, (hmissed _).mpr ?_, ?_, ?_, (hmissed _).mpr ?_⟩
  · exact (hfound _ _).mpr ⟨_, rfl, ⟨by decide, by decide⟩, rfl⟩
  · decide
  · exact (hfound _ _).mpr ⟨_, rfl, ⟨by decide, by decide⟩, rfl⟩
  · exact (hfound _ _).mpr ⟨_, rfl, ⟨by decide, by decide⟩, rfl⟩
  · decide

end GameRunner

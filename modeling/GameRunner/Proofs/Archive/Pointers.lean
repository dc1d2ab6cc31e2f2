import GameRunner.Archive.Read
import Mathlib.Tactic

/-!
# Records by position

A pointer index finds the number of a record by the position at which the record starts, the last
one if several start there. What it finds is always the number of a record, and if no two records
start at the same position it finds each of them.
-/

namespace GameRunner

/-- An index into a table of a size, or `-1` for none. -/
def IsIndex (index : Int32) (size : Nat) : Prop :=
  index = -1 ∨ 0 ≤ index ∧ index.toInt.toNat < size

instance (index : Int32) (size : Nat) : Decidable (IsIndex index size) :=
  inferInstanceAs (Decidable (_ ∨ _))

theorem isIndex_ofNat {i size : Nat} (hi : i < size) (hsize : size < 2 ^ 31) :
    IsIndex (Int32.ofNat i) size := by
  have hint := Int32.toInt_ofNat_of_lt (hi.trans hsize)
  have hzero : Int32.toInt 0 = 0 := rfl
  refine .inr ⟨?_, ?_⟩
  · rw [Int32.le_iff_toInt_le, hint, hzero]
    omega
  · rw [hint]
    omega

theorem ofNat_toNat_toInt {n : Int32} (h : 0 ≤ n) : Int32.ofNat n.toInt.toNat = n := by
  have hnonneg : Int32.toInt 0 ≤ n.toInt := Int32.le_iff_toInt_le.mp h
  have hlt := n.toInt_lt
  rw [show Int32.toInt 0 = 0 from rfl] at hnonneg
  apply Int32.toInt_inj.mp
  rw [Int32.toInt_ofNat_of_lt (by omega)]
  omega

namespace Archive.PointerIndex

variable {pointers : List Nat} {pos i : Nat}

theorem find?_eq_some {p : PointerIndex} (h : p.find? pos = some i) :
    p.pointers[i]? = some pos := by
  unfold find? at h
  rw [List.findRev?_eq_find?_reverse] at h
  obtain ⟨⟨q, j⟩, hfind, rfl⟩ := Option.map_eq_some_iff.mp h
  obtain rfl : q = pos := by simpa using List.find?_some hfind
  have hmem := List.mem_reverse.mp (List.mem_of_find?_eq_some hfind)
  exact List.mem_zipIdx_iff_getElem?.mp hmem

theorem find?_eq_none_iff {p : PointerIndex} : p.find? pos = none ↔ pos ∉ p.pointers := by
  unfold find?
  rw [Option.map_eq_none_iff, List.findRev?_eq_find?_reverse, List.find?_eq_none]
  constructor
  · intro h hmem
    obtain ⟨j, hj⟩ := List.mem_iff_getElem?.mp hmem
    have hzip : (pos, j) ∈ p.pointers.zipIdx.reverse :=
      List.mem_reverse.mpr (List.mem_zipIdx_iff_getElem?.mpr hj)
    simpa using h _ hzip
  · rintro h ⟨q, j⟩ hmem
    have hj := List.mem_zipIdx_iff_getElem?.mp (List.mem_reverse.mp hmem)
    simp only [beq_iff_eq]
    rintro rfl
    exact h (List.mem_of_getElem? hj)

theorem find?_lt {p : PointerIndex} (h : p.find? pos = some i) : i < p.pointers.length :=
  (List.getElem?_eq_some_iff.mp (find?_eq_some h)).1

/-- Where no two records start at the same position, each of them is found. -/
theorem find?_of_nodup {p : PointerIndex} (hp : p.pointers.Nodup) (h : p.pointers[i]? = some pos) :
    p.find? pos = some i := by
  cases hfind : p.find? pos with
  | none => exact absurd (List.mem_of_getElem? h) (find?_eq_none_iff.mp hfind)
  | some j =>
    have hj := find?_eq_some hfind
    obtain ⟨hi, -⟩ := List.getElem?_eq_some_iff.mp h
    rw [(List.getElem?_inj hi hp).mp (h.trans hj.symm)]

theorem isIndex_findOr (p : PointerIndex) (pos : Nat) (h : p.pointers.length < 2 ^ 31) :
    IsIndex (p.findOr pos) p.pointers.length := by
  unfold findOr
  split
  · next hi => exact isIndex_ofNat (find?_lt hi) h
  · exact .inl rfl

theorem distinct_ofList_le (pointers : List Nat) :
    (ofList pointers).distinct ≤ pointers.length := by
  change pointers.eraseDups.length ≤ pointers.length
  induction hn : pointers.length using Nat.strong_induction_on generalizing pointers with
  | _ n ih =>
    cases pointers with
    | nil => simp
    | cons p rest =>
      have hfilter := List.length_filter_le (fun q => !q == p) rest
      rw [List.length_cons] at hn
      have hrest := ih _ (by omega) (rest.filter fun q => !q == p) rfl
      rw [List.eraseDups_cons, List.length_cons]
      omega

theorem distinct_ofList_of_nodup (h : pointers.Nodup) :
    (ofList pointers).distinct = pointers.length := by
  change pointers.eraseDups.length = pointers.length
  induction pointers with
  | nil => rfl
  | cons p rest ih =>
    obtain ⟨hp, hrest⟩ := List.nodup_cons.mp h
    have hfilter : rest.filter (fun q => !q == p) = rest := by
      rw [List.filter_eq_self]
      intro q hq
      simpa using ne_of_mem_of_not_mem hq hp
    rw [List.eraseDups_cons, List.length_cons, hfilter, ih hrest, List.length_cons]

end Archive.PointerIndex

end GameRunner

import GameRunner.Proofs.Program.ChainWalk

/-!
# When an occurrence is listed twice

The addresses along a chain increase, unless a link is zero. So the locations that a table entry
lists are distinct exactly if none of the links that are followed is zero. Where one is, the walk
stands still, and the location there is listed again until the number of occurrences is used up.
-/

namespace GameRunner

namespace CodeMap

/-- The locations of all instructions. -/
def locations (m : CodeMap) : List Location :=
  m.decoded.toList.zipIdx.flatMap fun c => (List.range c.1.size).map fun k => ⟨c.2, k⟩

/-- The number of instructions of all entries. -/
def instructionCount (m : CodeMap) : Nat := (m.decoded.toList.map Code.size).sum

theorem length_locations (m : CodeMap) : m.locations.length = m.instructionCount := by
  rw [locations, instructionCount, List.length_flatMap]
  simp only [List.length_map, List.length_range]
  congr 1
  conv_rhs => rw [← List.zipIdx_map_fst 0 m.decoded.toList, List.map_map]
  rfl

theorem mem_locations {m : CodeMap} {l : Location} (h : (instructionAt? m.decoded l).isSome) :
    l ∈ m.locations := by
  obtain ⟨i, hi⟩ := Option.isSome_iff_exists.mp h
  obtain ⟨c, hc, hi⟩ := Option.bind_eq_some_iff.mp hi
  refine List.mem_flatMap.mpr ⟨(c, l.entry), ?_, List.mem_map.mpr ⟨l.instruction, ?_, rfl⟩⟩
  · rw [List.mem_zipIdx_iff_getElem?, Array.getElem?_toList]
    exact hc
  · exact List.mem_range.mpr (Array.getElem?_eq_some_iff.mp hi).1

section OfGame

variable {g : Game} {a n : Nat} {visits : List (Nat × Location)}

/-- Along visits that follow each other by links that are not zero, the addresses increase. -/
theorem pairwise_lt_of_moving
    (hlinks : visits.IsChain fun x y =>
      ∃ link, (ofGame g).linkOf? x.2 = some link ∧ y.1 = x.1 + link)
    (hmoves : ∀ x ∈ visits.dropLast, (ofGame g).linkOf? x.2 ≠ some 0) :
    visits.Pairwise fun x y => x.1 < y.1 := by
  have hchain : visits.IsChain fun x y => x.1 < y.1 := by
    induction visits with
    | nil => exact .nil
    | cons x rest ih =>
      cases rest with
      | nil => exact .singleton x
      | cons y rest =>
        obtain ⟨⟨link, hlink, hy⟩, hrest⟩ := List.isChain_cons_cons.mp hlinks
        have hne : link ≠ 0 := fun h => hmoves x (by simp) (h ▸ hlink)
        refine List.isChain_cons_cons.mpr ⟨by omega, ih hrest fun z hz => hmoves z ?_⟩
        rw [List.dropLast_cons_cons]
        exact List.mem_cons_of_mem _ hz
  rw [← List.isChain_map Prod.fst (R := (· < ·))] at hchain
  exact List.pairwise_map.mp (List.isChain_iff_pairwise.mp hchain)

/-- Where addresses increase, no location is met twice. -/
theorem nodup_of_pairwise_lt (hstarts : ∀ x ∈ visits, StartsAt g.code x.1 x.2)
    (h : visits.Pairwise fun x y => x.1 < y.1) : (visits.map Prod.snd).Nodup := by
  rw [List.Nodup, List.pairwise_map]
  refine h.imp_of_mem ?_
  intro x y hx hy hlt he
  have := (hstarts x hx).unique (he ▸ hstarts y hy)
  omega

namespace Visits

/-- There are no more distinct locations than instructions. -/
theorem length_le_instructionCount (h : Visits g n a visits)
    (hnodup : (visits.map Prod.snd).Nodup) :
    (visits.map Prod.snd).length ≤ (ofGame g).instructionCount := by
  rw [← length_locations]
  refine (hnodup.subperm fun l hl => ?_).length_le
  obtain ⟨x, hx, rfl⟩ := List.mem_map.mp hl
  exact mem_locations (isSome_instructionAt?_of_startsAt (h.startsAt hx))

/-- A link of zero leads back to the same location, as often as places are left. -/
theorem eq_replicate {l : Location} {offset : Nat} (h : Visits g n a visits)
    (hat : (ofGame g).at? a = some (l, offset)) (hlink : (ofGame g).linkOf? l = some 0) :
    visits = List.replicate n (a, l) := by
  induction h with
  | full a => rfl
  | astray n a hnone =>
    rw [hnone] at hat
    cases hat
  | last n a l' offset' hat' hnone =>
    rw [hat'] at hat
    cases hat
    rw [hnone] at hlink
    cases hlink
  | next n a l' offset' link visits hat' hsome _ ih =>
    rw [hat'] at hat
    cases hat
    rw [hsome] at hlink
    cases hlink
    rw [List.replicate_succ, ih hat', Nat.add_zero]

/-- Visits move on at every link that is followed, or they come to a link of zero and stay there. -/
theorem moves_or_stays (h : Visits g n a visits) :
    (∀ x ∈ visits.dropLast, (ofGame g).linkOf? x.2 ≠ some 0) ∨
      ∃ before x k, visits = before ++ List.replicate (k + 2) x ∧ before.length + (k + 2) = n ∧
        (ofGame g).linkOf? x.2 = some 0 ∧ ∀ y ∈ before, (ofGame g).linkOf? y.2 ≠ some 0 := by
  induction h with
  | full a => simp
  | astray n a hat => simp
  | last n a l offset hat hlink => simp
  | next n a l offset link visits hat hlink hvisits ih =>
    by_cases hzero : link = 0
    · subst hzero
      rw [hvisits.eq_replicate hat hlink]
      match n with
      | 0 => simp
      | k + 1 => exact Or.inr ⟨[], (a, l), k, rfl, by simp, hlink, by simp⟩
    · have hl : (ofGame g).linkOf? l ≠ some 0 := by simpa [hlink] using hzero
      rcases ih with hmoves | ⟨before, x, k, rfl, rfl, hx, hbefore⟩
      · left
        cases visits with
        | nil => simp
        | cons y rest =>
          rw [List.dropLast_cons_cons]
          exact List.forall_mem_cons.mpr ⟨hl, hmoves⟩
      · right
        refine ⟨(a, l) :: before, x, k, rfl, ?_, hx, List.forall_mem_cons.mpr ⟨hl, hbefore⟩⟩
        rw [List.length_cons]
        omega

/-- Up to where visits stay, all locations are distinct. -/
theorem nodup_of_stays {before : List (Nat × Location)} {x : Nat × Location} {k : Nat}
    (h : Visits g n a (before ++ List.replicate (k + 1) x))
    (hbefore : ∀ y ∈ before, (ofGame g).linkOf? y.2 ≠ some 0) :
    ((before ++ [x]).map Prod.snd).Nodup := by
  rw [List.replicate_succ, ← List.singleton_append, ← List.append_assoc] at h
  apply nodup_of_pairwise_lt (g := g)
  · exact fun y hy => h.startsAt (List.mem_append_left _ hy)
  · apply pairwise_lt_of_moving (g := g) h.isChain.left_of_append
    rw [List.dropLast_concat]
    exact hbefore

end Visits

end OfGame

end CodeMap

/-- Locations that a table entry lists, given the number of occurrences it tells: they are distinct
exactly if no link of zero is followed, and then there are no more of them than instructions. Behind
a link of zero one location takes all places that are left. -/
structure ListsOccurrences (m : CodeMap) (count : Int32) (listed : List Location) : Prop where
  nodup_iff : listed.Nodup ↔ ∀ l ∈ listed.dropLast, m.linkOf? l ≠ some 0
  length_le : listed.Nodup → listed.length ≤ m.instructionCount
  stays : ¬ listed.Nodup → ∃ before l k, listed = before ++ List.replicate (k + 2) l ∧
    (listed.length : Int) = count.toInt ∧ m.linkOf? l = some 0 ∧ (before ++ [l]).Nodup

namespace ListsOccurrences

variable {g : Game}

/-- A walk lists each occurrence once, unless it comes to a link of zero. -/
theorem walk (first count : Int32) :
    ListsOccurrences (CodeMap.ofGame g) count ((CodeMap.ofGame g).walk first count).1 := by
  by_cases hneg : first < 0
  · rw [CodeMap.walk_fst_of_neg hneg]
    exact ⟨by simp, by simp, fun h => absurd List.nodup_nil h⟩
  obtain ⟨visits, hv, hwalk⟩ := CodeMap.exists_visits_walk g hneg count
  rw [hwalk]
  rcases hv.moves_or_stays with hmoves | ⟨before, x, k, rfl, hn, hx, hbefore⟩
  · have hnodup := CodeMap.nodup_of_pairwise_lt (fun x hx => hv.startsAt hx)
      (CodeMap.pairwise_lt_of_moving hv.isChain hmoves)
    refine ⟨⟨fun _ => ?_, fun _ => hnodup⟩, hv.length_le_instructionCount,
      fun h => absurd hnodup h⟩
    rw [← List.map_dropLast]
    exact List.forall_mem_map.mpr hmoves
  · have hstays : ¬ (before.map Prod.snd ++ List.replicate (k + 2) x.2).Nodup := by
      intro h
      have := List.nodup_replicate.mp (List.nodup_append.mp h).2.1
      omega
    rw [List.map_append, List.map_replicate]
    refine ⟨⟨fun h => absurd h hstays, fun h => ?_⟩, fun h => absurd h hstays, fun _ => ?_⟩
    · rw [List.replicate_succ', ← List.append_assoc, List.dropLast_concat] at h
      exact absurd hx (h x.2 (by simp))
    · refine ⟨before.map Prod.snd, x.2, k, rfl, ?_, hx, ?_⟩
      · rw [List.length_append, List.length_map, List.length_replicate]
        omega
      · have hnodup := hv.nodup_of_stays hbefore
        rw [List.map_append] at hnodup
        exact hnodup

end ListsOccurrences

/-- For every game, each entry of the variable and function tables lists its occurrences once, unless
the walk along its chain follows a link of zero: that alone makes it list one again. -/
theorem listsOccurrences_references (g : Game) :
    List.Forall₂ (fun v => ListsOccurrences (CodeMap.ofGame g) v.occurrences)
        g.variableTable.toList (Program.ofGame g).references.variableSites ∧
      List.Forall₂ (fun f => ListsOccurrences (CodeMap.ofGame g) f.occurrences)
        g.functionTable.toList (Program.ofGame g).references.functionSites := by
  constructor
  · refine List.forall₂_map_right_iff.mpr (List.forall₂_same.mpr fun v _ => ?_)
    exact ListsOccurrences.walk v.firstOccurrence v.occurrences
  · refine List.forall₂_map_right_iff.mpr (List.forall₂_same.mpr fun f _ => ?_)
    exact ListsOccurrences.walk f.firstOccurrence f.occurrences

/-- One instruction, whose link is zero, for a variable with three occurrences. -/
def standingGame : Game where
  code := #[{ offset := 0x1000, bytes := ⟨#[0xff, 0xff, 0x55, 0xc0, 0x00, 0x00, 0x00, 0xa0]⟩ }]
  variableTable := #[⟨"x", -1, 0, 3, 0x1000⟩]

/-- The only instruction is listed three times. -/
theorem occurrence_listed_again :
    (Program.ofGame standingGame).references.variableSites = [List.replicate 3 ⟨0, 0⟩] ∧
      ¬ (List.replicate 3 (⟨0, 0⟩ : Location)).Nodup ∧
      (CodeMap.ofGame standingGame).instructionCount < 3 := by
  decide +kernel

end GameRunner

import GameRunner.Program.Threading
import GameRunner.Proofs.Code.Links

/-!
# Routines and their references

A routine is code in the making: statements that were written, and links that were set afterwards.
The references that were recorded while it was written are exactly the statements that refer to a
table entry, and the bytes of a routine hold at each reference the link that was set there last.
-/

namespace GameRunner

namespace Statement

/-- The variable that a statement refers to. -/
def variableRef? : Statement → Option Nat
  | .access _ _ _ var => some var
  | _ => none

/-- The function that a statement calls. -/
def functionRef? : Statement → Option Nat
  | .call function _ => some function
  | _ => none

end Statement

namespace Assembly

open Statement

/-- The references that an assembly records are those of its statements. -/
structure Records (refs : Assembly → List (Nat × Nat)) (ref : Statement → Option Nat) : Prop where
  empty : refs empty = []
  emit (a : Assembly) (s : Statement) :
    refs (a.emit s) = refs a ++ (ref s).toList.map fun i => (a.here, i)
  isReference {s : Statement} {i : Nat} : ref s = some i → s.isReference

theorem records_variableRefs : Records variableRefs variableRef? where
  empty := rfl
  emit a s := by cases s <;> simp [Assembly.emit, variableRef?]
  isReference {s i} h := by
    cases s with
    | access op instanceField kind var => rfl
    | _ => cases h

theorem records_functionRefs : Records functionRefs functionRef? where
  empty := rfl
  emit a s := by cases s <;> simp [Assembly.emit, functionRef?]
  isReference {s i} h := by
    cases s with
    | call function arguments => rfl
    | _ => cases h

variable {refs : Assembly → List (Nat × Nat)} {ref : Statement → Option Nat}

theorem ofList_concat (statements : List Statement) (s : Statement) :
    ofList (statements ++ [s]) = (ofList statements).emit s := by
  simp [ofList]

/-- A recorded reference is a statement that refers to the entry, at the offset of the statement. -/
theorem Records.mem_iff (h : Records refs ref) (statements : List Statement) (o i : Nat) :
    (o, i) ∈ refs (ofList statements) ↔ ∃ k s, statements[k]? = some s ∧ ref s = some i ∧
      o = codeSize (statements.take k) := by
  induction statements using List.reverseRecOn with
  | nil => simp [ofList, h.empty]
  | append_singleton rest s ih =>
    rw [ofList_concat, h.emit, List.mem_append, ih, here_ofList]
    constructor
    · rintro (⟨k, t, hk, ht, ho⟩ | hs)
      · have hlt : k < rest.length := (List.getElem?_eq_some_iff.mp hk).1
        refine ⟨k, t, ?_, ht, ?_⟩
        · rw [List.getElem?_append_left hlt, hk]
        · rw [ho, List.take_append_of_le_length (Nat.le_of_lt hlt)]
      · simp only [List.mem_map, Option.mem_toList, Prod.mk.injEq] at hs
        obtain ⟨j, hj, rfl, rfl⟩ := hs
        exact ⟨rest.length, s, by simp, hj, by simp⟩
    · rintro ⟨k, t, hk, ht, ho⟩
      rcases Nat.lt_or_ge k rest.length with hlt | hge
      · left
        rw [List.getElem?_append_left hlt] at hk
        rw [List.take_append_of_le_length (Nat.le_of_lt hlt)] at ho
        exact ⟨k, t, hk, ht, ho⟩
      · right
        have hle : k < (rest ++ [s]).length := (List.getElem?_eq_some_iff.mp hk).1
        have hk' : k = rest.length := by
          rw [List.length_append, List.length_singleton] at hle
          omega
        subst hk'
        have hst : s = t := by simpa using hk
        subst hst
        simp [ht, ho]

theorem mem_sitesOf {code : List Assembly} {i : Nat} {s : Site} :
    s ∈ sitesOf refs code i ↔ ∃ a, code[s.entry]? = some a ∧ (s.offset, i) ∈ refs a := by
  simp only [sitesOf, List.mem_flatMap, List.mem_map, List.mem_filter, decide_eq_true_eq]
  constructor
  · rintro ⟨⟨a, e⟩, ha, ⟨o, j⟩, ⟨ho, hj⟩, rfl⟩
    rw [List.mem_zipIdx_iff_getElem?] at ha
    dsimp only at hj
    exact ⟨a, ha, hj ▸ ho⟩
  · rintro ⟨a, ha, ho⟩
    refine ⟨(a, s.entry), ?_, (s.offset, i), ⟨ho, rfl⟩, rfl⟩
    rw [List.mem_zipIdx_iff_getElem?]
    exact ha

end Assembly

/-- Code in the making: what was written, and the links that were set afterwards, in order. -/
structure Routine where
  statements : List Statement
  links : List (Nat × UInt32)

namespace Routine

open Statement

/-- A routine as it was written, without links. -/
def assembly (r : Routine) : Assembly := Assembly.ofList r.statements

/-- The bytes of a routine. -/
def bytes (r : Routine) : ByteArray :=
  r.links.foldl (fun b l => setLink b l.1 l.2) r.assembly.bytes

/-- The link that was set last at an offset. -/
def link? (r : Routine) (offset : Nat) : Option UInt32 := r.links.reverse.lookup offset

/-- Only operations without a payload are written plainly, and links are set at references only. -/
structure Valid (r : Routine) : Prop where
  readable : ∀ s ∈ r.statements, s.Readable
  recorded : ∀ l ∈ r.links, ∃ i, (l.1, i) ∈ r.assembly.variableRefs ++ r.assembly.functionRefs

theorem bytes_eq {r : Routine} (h : r.Valid) : r.bytes = linkedBytes r.statements r.link? := by
  obtain ⟨statements, links⟩ := r
  have hrec := h.recorded
  clear h
  simp only [bytes, assembly] at hrec ⊢
  induction links using List.reverseRecOn with
  | nil => exact (linkedBytes_none statements).symm
  | append_singleton rest l ih =>
    have hl : ∃ k s, statements[k]? = some s ∧ s.isReference ∧
        l.1 = codeSize (statements.take k) := by
      obtain ⟨i, hi⟩ := hrec l (by simp)
      rcases List.mem_append.mp hi with hi | hi
      · obtain ⟨k, s, hk, hs, ho⟩ := (Assembly.records_variableRefs.mem_iff statements l.1 i).mp hi
        exact ⟨k, s, hk, Assembly.records_variableRefs.isReference hs, ho⟩
      · obtain ⟨k, s, hk, hs, ho⟩ := (Assembly.records_functionRefs.mem_iff statements l.1 i).mp hi
        exact ⟨k, s, hk, Assembly.records_functionRefs.isReference hs, ho⟩
    obtain ⟨k, s, hk, hs, ho⟩ := hl
    rw [List.foldl_append, List.foldl_cons, List.foldl_nil,
      ih fun a ha => hrec a (List.mem_append_left _ ha), ho, setLink_linkedBytes hk hs]
    congr 1
    funext o
    simp only [link?]
    rw [List.reverse_append, List.reverse_singleton, List.singleton_append, List.lookup_cons, ← ho]
    rcases eq_or_ne o l.1 with rfl | hne
    · simp
    · rw [Function.update_of_ne hne, beq_false_of_ne hne]
      rfl

end Routine

section Locations

open Statement

/-- The statement at a location. -/
def statementAt? (code : List Routine) (l : Location) : Option Statement :=
  code[l.entry]?.bind fun r => r.statements[l.instruction]?

/-- The place at which the statement of a location was written. -/
def siteOf (code : List Routine) (l : Location) : Site where
  entry := l.entry
  offset := (code[l.entry]?.map fun r =>
    (Assembly.ofList (r.statements.take l.instruction)).here).getD 0

variable {code : List Routine} {l : Location} {s : Statement}

theorem exists_of_statementAt? (h : statementAt? code l = some s) :
    ∃ r, code[l.entry]? = some r ∧ r.statements[l.instruction]? = some s ∧
      siteOf code l = ⟨l.entry, codeSize (r.statements.take l.instruction)⟩ := by
  obtain ⟨r, hr, hs⟩ := Option.bind_eq_some_iff.mp h
  refine ⟨r, hr, hs, ?_⟩
  rw [siteOf, hr, Option.map_some, Option.getD_some, Assembly.here_ofList]

theorem codeSize_take_lt {statements : List Statement} {j k : Nat} (hjk : j < k)
    (hk : k ≤ statements.length) : codeSize (statements.take j) < codeSize (statements.take k) := by
  have hj : j < statements.length := by omega
  have hsplit : statements.take k =
      statements.take j ++ statements[j] :: (statements.take k).drop (j + 1) := by
    have hj' : j < (statements.take k).length := by simp; omega
    conv_lhs => rw [← List.take_append_drop j (statements.take k)]
    rw [List.take_take, Nat.min_eq_left (Nat.le_of_lt hjk), List.drop_eq_getElem_cons hj',
      List.getElem_take]
  have hpos := (statements[j]).size_pos
  rw [hsplit, codeSize_append, codeSize_cons]
  omega

theorem codeSize_take_add_size_le {statements : List Statement} {k : Nat}
    (hk : statements[k]? = some s) :
    codeSize (statements.take k) + s.size ≤ codeSize statements := by
  conv_rhs => rw [eq_take_append hk]
  rw [codeSize_append, codeSize_cons]
  omega

/-- Different statements are written at different places. -/
theorem siteOf_injective {l' : Location} {s' : Statement} (h : statementAt? code l = some s)
    (h' : statementAt? code l' = some s') (he : siteOf code l = siteOf code l') : l = l' := by
  obtain ⟨r, hr, hs, hsite⟩ := exists_of_statementAt? h
  obtain ⟨r', hr', hs', hsite'⟩ := exists_of_statementAt? h'
  obtain ⟨e, k⟩ := l
  obtain ⟨e', k'⟩ := l'
  rw [hsite, hsite', Site.mk.injEq] at he
  obtain ⟨rfl, he⟩ := he
  rw [hr] at hr'
  cases hr'
  dsimp only at he hs hs'
  have hk := (List.getElem?_eq_some_iff.mp hs).1
  have hk' := (List.getElem?_eq_some_iff.mp hs').1
  rcases Nat.lt_trichotomy k k' with hlt | rfl | hlt
  · have := codeSize_take_lt hlt (Nat.le_of_lt hk')
    omega
  · rfl
  · have := codeSize_take_lt hlt (Nat.le_of_lt hk)
    omega

/-- The recorded references to a table entry are the sites of the statements that refer to it. -/
theorem mem_sitesOf_iff {refs : Assembly → List (Nat × Nat)} {ref : Statement → Option Nat}
    (h : Assembly.Records refs ref) {i : Nat} {site : Site} :
    site ∈ Assembly.sitesOf refs (code.map Routine.assembly) i ↔
      ∃ l s, statementAt? code l = some s ∧ ref s = some i ∧ siteOf code l = site := by
  rw [Assembly.mem_sitesOf]
  constructor
  · rintro ⟨a, ha, ho⟩
    rw [List.getElem?_map, Option.map_eq_some_iff] at ha
    obtain ⟨r, hr, rfl⟩ := ha
    obtain ⟨k, s, hk, hs, ho⟩ := (h.mem_iff r.statements site.offset i).mp ho
    refine ⟨⟨site.entry, k⟩, s, by simp [statementAt?, hr, hk], hs, ?_⟩
    rw [siteOf, hr, Option.map_some, Option.getD_some, Assembly.here_ofList, ← ho]
  · rintro ⟨l, s, hl, hs, rfl⟩
    obtain ⟨r, hr, hk, hsite⟩ := exists_of_statementAt? hl
    rw [hsite]
    refine ⟨r.assembly, by rw [List.getElem?_map, hr]; rfl, ?_⟩
    exact (h.mem_iff r.statements _ i).mpr ⟨l.instruction, s, hk, hs, rfl⟩

/-- The decoder finds the instruction that starts at the offset of a statement. -/
theorem indexOf?_instructionsFrom {statements : List Statement} {k : Nat}
    (hk : k < statements.length) :
    Code.indexOf? ⟨(instructionsFrom 0 statements).toArray⟩ (codeSize (statements.take k)) =
      some k := by
  have hoffset (j : Nat) (hj : j < statements.length)
      (hj' : j < (instructionsFrom 0 statements).length) :
      ((instructionsFrom 0 statements)[j]).offset = codeSize (statements.take j) := by
    have hi := getElem?_instructionsFrom 0 statements j
    rw [List.getElem?_eq_getElem hj, List.getElem?_eq_getElem hj', Option.map_some,
      Option.some.injEq, Nat.zero_add] at hi
    rw [hi]
    obtain ⟨w, payload, -, h⟩ := exists_instruction_eq statements[j]
    obtain ⟨l, kind, hi⟩ := h (codeSize (statements.take j))
    rw [hi]
    rfl
  rw [Code.indexOf?, List.findIdx?_toArray, List.findIdx?_eq_some_iff_getElem]
  refine ⟨by simpa using hk, by simp [hoffset k hk], fun j hj => ?_⟩
  have hlt := codeSize_take_lt hj (Nat.le_of_lt hk)
  simp only [hoffset j (by omega), beq_iff_eq]
  omega

end Locations

end GameRunner

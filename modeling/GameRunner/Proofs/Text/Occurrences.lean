import GameRunner.Proofs.Number.Overflow

/-!
# Occurrences of a needle

Four functions of the library look for a needle in a text: one counts how often it occurs, one tells
where it occurs first, one replaces the first occurrence and one replaces all. They agree on any
needle that is not empty. An empty needle is not counted and not replaced everywhere, but it is found
and replaced at the start of every text.
-/

namespace GameRunner

namespace Text

variable {needle hay before after : List Char}

/-! ### The first occurrence -/

theorem eq_append_drop_of_isPrefixOf (h : needle.isPrefixOf hay = true) :
    hay = needle ++ hay.drop needle.length :=
  List.prefix_iff_eq_append.mp (List.isPrefixOf_iff_prefix.mp h) |>.symm

theorem eq_of_splitFirst? (h : splitFirst? needle hay = some (before, after)) :
    hay = before ++ needle ++ after := by
  induction hay generalizing before with
  | nil =>
    unfold splitFirst? at h
    split_ifs at h with hempty
    cases h
    rw [List.isEmpty_iff.mp hempty]
    rfl
  | cons c cs ih =>
    unfold splitFirst? at h
    split_ifs at h with hstart
    · cases h
      exact eq_append_drop_of_isPrefixOf hstart
    · obtain ⟨⟨before', after'⟩, hrest, heq⟩ := Option.map_eq_some_iff.mp h
      cases heq
      rw [ih hrest]
      rfl

theorem splitFirst?_eq_none_iff : splitFirst? needle hay = none ↔ ¬ needle <:+: hay := by
  induction hay with
  | nil => simp [splitFirst?]
  | cons c cs ih =>
    rw [splitFirst?, List.infix_cons_iff, ← List.isPrefixOf_iff_prefix]
    split_ifs with hstart
    · simp [hstart]
    · simp [hstart, ih]

theorem splitFirst?_nil_left (hay : List Char) : splitFirst? [] hay = some ([], hay) := by
  cases hay <;> rfl

/-! ### The stretches between occurrences -/

theorem stretchesFrom_eq_drop (needle : List Char) (skip : Nat) (hay : List Char) :
    stretchesFrom needle skip hay = stretchesFrom needle 0 (hay.drop skip) := by
  induction skip generalizing hay with
  | zero => rfl
  | succ skip ih =>
    cases hay with
    | nil => rfl
    | cons c cs => exact ih cs

/-- The search goes on behind the first occurrence. -/
theorem stretchesFrom_zero (h : needle ≠ []) (hay : List Char) :
    stretchesFrom needle 0 hay =
      match splitFirst? needle hay with
      | some (before, after) => before :: stretchesFrom needle 0 after
      | none => [hay] := by
  induction hay with
  | nil => simp [stretchesFrom, splitFirst?, h]
  | cons c cs ih =>
    rw [stretchesFrom, splitFirst?]
    split_ifs with hstart
    · obtain ⟨d, ds, rfl⟩ := List.exists_cons_of_ne_nil h
      rw [stretchesFrom_eq_drop]
      rfl
    · rw [ih]
      cases splitFirst? needle cs <;> rfl

theorem stretches_of_some (hneedle : needle ≠ [])
    (h : splitFirst? needle hay = some (before, after)) :
    stretches needle hay = before :: stretches needle after := by
  have hempty : needle.isEmpty = false := List.isEmpty_eq_false_iff.mpr hneedle
  simp only [stretches, hempty]
  rw [if_neg Bool.false_ne_true, stretchesFrom_zero hneedle, h]
  rfl

theorem stretches_of_none (h : splitFirst? needle hay = none) :
    stretches needle hay = [hay] := by
  have hneedle : needle ≠ [] := by
    rintro rfl
    rw [splitFirst?_nil_left] at h
    cases h
  have hempty : needle.isEmpty = false := List.isEmpty_eq_false_iff.mpr hneedle
  rw [stretches, hempty, if_neg Bool.false_ne_true, stretchesFrom_zero hneedle, h]

theorem length_consFirst {c : Char} {parts : List (List Char)} (h : 0 < parts.length) :
    (consFirst c parts).length = parts.length := by
  cases parts with
  | nil => cases h
  | cons s rest => rfl

theorem length_stretchesFrom (needle : List Char) (skip : Nat) (hay : List Char) :
    0 < (stretchesFrom needle skip hay).length ∧
      (stretchesFrom needle skip hay).length ≤ hay.length + 1 := by
  fun_induction stretchesFrom needle skip hay with
  | case1 => simp
  | case2 skip c cs ih =>
    rw [List.length_cons]
    omega
  | case3 c cs hstart ih =>
    rw [List.length_cons, List.length_cons]
    omega
  | case4 c cs hstart ih =>
    rw [length_consFirst ih.1, List.length_cons]
    omega

theorem length_stretches (needle hay : List Char) :
    0 < (stretches needle hay).length ∧ (stretches needle hay).length ≤ hay.length + 1 := by
  unfold stretches
  split_ifs
  · simp
  · exact length_stretchesFrom needle 0 hay

theorem stretches_of_length (h : (stretches needle hay).length = 1) :
    stretches needle hay = [hay] := by
  by_cases hneedle : needle = []
  · rw [hneedle]
    rfl
  · cases hsplit : splitFirst? needle hay with
    | none => exact stretches_of_none hsplit
    | some parts =>
      have hpos := (length_stretches needle parts.2).1
      rw [stretches_of_some hneedle hsplit, List.length_cons] at h
      omega

/-! ### Counting, finding and replacing -/

/-- A text holds a needle somewhere. -/
def Contains (s n : String) : Prop := n.toList <:+: s.toList

variable {n s : String} {parts : List Char × List Char}

theorem not_contains_iff : ¬ Contains s n ↔ splitFirst? n.toList s.toList = none :=
  splitFirst?_eq_none_iff.symm

theorem contains_of_splitFirst? (h : splitFirst? n.toList s.toList = some parts) : Contains s n :=
  ⟨parts.1, parts.2, (eq_of_splitFirst? h).symm⟩

theorem toList_ne_nil (h : n ≠ "") : n.toList ≠ [] :=
  mt String.toList_eq_nil_iff.mp h

theorem occurrences_le (n s : String) : occurrences n s ≤ s.length := by
  have hle := (length_stretches n.toList s.toList).2
  rw [String.length_toList] at hle
  exact Nat.sub_le_of_le_add hle

theorem occurrences_of_splitFirst? (h : n ≠ "")
    (hsplit : splitFirst? n.toList s.toList = some parts) :
    occurrences n s = (stretches n.toList parts.2).length := by
  rw [occurrences, stretches_of_some (toList_ne_nil h) hsplit]
  rfl

theorem occurrences_of_not_contains (h : ¬ Contains s n) : occurrences n s = 0 := by
  rw [occurrences, stretches_of_none (not_contains_iff.mp h)]
  rfl

theorem occurrences_pos_iff (h : n ≠ "") : 0 < occurrences n s ↔ Contains s n := by
  cases hsplit : splitFirst? n.toList s.toList with
  | none =>
    have hnot := not_contains_iff.mpr hsplit
    rw [occurrences_of_not_contains hnot]
    exact iff_of_false (Nat.lt_irrefl 0) hnot
  | some parts =>
    rw [occurrences_of_splitFirst? h hsplit]
    exact iff_of_true (length_stretches n.toList parts.2).1 (contains_of_splitFirst? hsplit)

theorem position_pos_iff : 0 < position n s ↔ Contains s n := by
  unfold position
  cases hsplit : splitFirst? n.toList s.toList with
  | none => exact iff_of_false (Nat.lt_irrefl 0) (not_contains_iff.mpr hsplit)
  | some parts => exact iff_of_true (Nat.succ_pos _) (contains_of_splitFirst? hsplit)

theorem position_le (n s : String) : position n s ≤ s.length + 1 := by
  unfold position
  cases hsplit : splitFirst? n.toList s.toList with
  | none => exact Nat.zero_le _
  | some parts =>
    have hlength := congrArg List.length (eq_of_splitFirst? hsplit)
    rw [String.length_toList, List.length_append, List.length_append] at hlength
    exact Nat.succ_le_succ (by omega)

theorem replaceFirst_of_not_contains (h : ¬ Contains s n) (r : String) : replaceFirst s n r = s := by
  rw [replaceFirst, not_contains_iff.mp h]

theorem replaceAll_of_not_contains (h : ¬ Contains s n) (r : String) : replaceAll s n r = s := by
  rw [replaceAll, stretches_of_none (not_contains_iff.mp h), List.intercalate_singleton,
    String.ofList_toList]

/-- To replace the only occurrence is to replace all of them. -/
theorem replaceAll_eq_replaceFirst (hn : n ≠ "") (h : occurrences n s = 1) (r : String) :
    replaceAll s n r = replaceFirst s n r := by
  cases hsplit : splitFirst? n.toList s.toList with
  | none =>
    rw [occurrences_of_not_contains (not_contains_iff.mpr hsplit)] at h
    cases h
  | some parts =>
    rw [occurrences_of_splitFirst? hn hsplit] at h
    rw [replaceAll, stretches_of_some (toList_ne_nil hn) hsplit, stretches_of_length h,
      replaceFirst, hsplit]
    simp [List.intercalate]

/-- An empty needle is found and replaced at the start. -/
theorem position_empty (s : String) : position "" s = 1 := by
  rw [position, String.toList_empty, splitFirst?_nil_left]
  rfl

theorem replaceFirst_empty (s r : String) : replaceFirst s "" r = r ++ s := by
  rw [replaceFirst, String.toList_empty, splitFirst?_nil_left]
  simp

end Text

namespace Builtin

open Text

/-- How often a needle is counted. -/
def counted (n s : String) : Nat := if n.isEmpty then 0 else occurrences n s

/-- A text in which a needle is replaced everywhere. -/
def replacedAll (s n r : String) : String := if n.isEmpty then s else replaceAll s n r

section Found

variable {n s : String} (h : n ≠ "")
include h

theorem counted_of_ne : counted n s = occurrences n s :=
  if_neg (mt String.isEmpty_iff.mp h)

theorem replacedAll_of_ne (r : String) : replacedAll s n r = replaceAll s n r :=
  if_neg (mt String.isEmpty_iff.mp h)

end Found

section Answering

variable (exec : Exec) (s : Setup) (w : World) (needle t r : Value)

variable {exec s w needle t r} in
theorem answers_compute {name : String} {args : List Value} {v : Value}
    {f : List Value → Except Fault Value} (hname : named? name = some (compute f))
    (hf : f args = .ok v) : World.Answers exec s w name args v := by
  refine ⟨_, hname, ?_⟩
  simp only [compute, World.callBuiltin, World.callAction, hf]
  rfl

theorem answers_count : World.Answers exec s w "string_count" [needle, t]
    (.ofNat (counted needle.toText t.toText)) := by
  refine answers_compute rfl ?_
  change (if needle.toText.isEmpty then Except.ok Value.zero
    else .ok (.ofNat (occurrences needle.toText t.toText))) = _
  unfold counted
  split_ifs <;> rfl

theorem answers_position : World.Answers exec s w "string_pos" [needle, t]
    (.ofNat (position needle.toText t.toText)) :=
  answers_compute rfl rfl

theorem answers_replaceFirst : World.Answers exec s w "string_replace" [t, needle, r]
    (.str (replaceFirst t.toText needle.toText r.toText)) :=
  answers_compute rfl rfl

theorem answers_replaceAll : World.Answers exec s w "string_replace_all" [t, needle, r]
    (.str (replacedAll t.toText needle.toText r.toText)) := by
  refine answers_compute rfl ?_
  change (if needle.toText.isEmpty then Except.ok (Value.str t.toText)
    else .ok (.str (replaceAll t.toText needle.toText r.toText))) = _
  unfold replacedAll
  split_ifs <;> rfl

end Answering

/-- What is answered about a needle and a text agrees: if the needle is not counted it is not found and
not replaced, if it is counted it is found, and if it is counted once then its first occurrence is
its only one. -/
structure FindingsAgree (s : String) (count position : Nat) (first all : String) : Prop where
  absent : count = 0 → position = 0 ∧ first = s ∧ all = s
  present : 0 < count → 0 < position
  single : count = 1 → first = all

theorem findingsAgree_of_ne {n s : String} (h : n ≠ "") (r : String) :
    FindingsAgree s (counted n s) (position n s) (replaceFirst s n r) (replacedAll s n r) := by
  rw [counted_of_ne h, replacedAll_of_ne h]
  refine ⟨fun hzero => ?_, fun hpos => ?_, fun hone => ?_⟩
  · have hnot : ¬ Contains s n := by
      rw [← occurrences_pos_iff h, hzero]
      exact Nat.lt_irrefl 0
    have hposition : ¬ 0 < position n s := mt position_pos_iff.mp hnot
    exact ⟨Nat.eq_zero_of_not_pos hposition, replaceFirst_of_not_contains hnot r,
      replaceAll_of_not_contains hnot r⟩
  · exact position_pos_iff.mpr ((occurrences_pos_iff h).mp hpos)
  · exact (replaceAll_eq_replaceFirst h hone r).symm

theorem not_findingsAgree_empty (s : String) (first all : String) :
    ¬ FindingsAgree s (counted "" s) (position "" s) first all := by
  intro h
  have hzero := (h.absent rfl).1
  rw [position_empty] at hzero
  cases hzero

theorem toInt_ofNat_of_le {n k : Nat} (h : n ≤ k) (hk : k < 2147483648) :
    (Int32.ofNat n).toInt = n :=
  Int32.toInt_ofNat_of_lt (h.trans_lt hk)

theorem counted_le (n s : String) : counted n s ≤ s.length := by
  unfold counted
  split_ifs
  · exact Nat.zero_le _
  · exact occurrences_le n s

theorem counted_pos_iff {n s : String} : 0 < counted n s ↔ n ≠ "" ∧ Contains s n := by
  by_cases h : n = ""
  · subst h
    exact iff_of_false (Nat.lt_irrefl 0) fun hne => hne.1 rfl
  · rw [counted_of_ne h, occurrences_pos_iff h, and_iff_right h]

end Builtin

open Builtin Text World

/-- What is answered about a needle and a text agrees if and only if the needle is not empty. Then it
is found and counted exactly if it occurs in the text. An empty needle is not counted and not
replaced everywhere, but it is found at the first position and replaced there. Counts and positions
are answered as words, and in any text that is not too long for its positions to be words they are
these numbers. -/
theorem searches_agree_iff (exec : Exec) (s : Setup) (w : World) (needle t r : Value) :
    ∃ (count position : Nat) (first all : String),
      Answers exec s w "string_count" [needle, t] (.ofInt (Int32.ofNat count)) ∧
        Answers exec s w "string_pos" [needle, t] (.ofInt (Int32.ofNat position)) ∧
        Answers exec s w "string_replace" [t, needle, r] (.str first) ∧
        Answers exec s w "string_replace_all" [t, needle, r] (.str all) ∧
        (FindingsAgree t.toText count position first all ↔ needle.toText ≠ "") ∧
        (0 < count ↔ needle.toText ≠ "" ∧ Contains t.toText needle.toText) ∧
        (0 < position ↔ Contains t.toText needle.toText) ∧
        (needle.toText = "" → position = 1 ∧ first = r.toText ++ t.toText ∧ all = t.toText) ∧
        (t.toText.length < 2147483647 →
          (Int32.ofNat count).toInt = count ∧ (Int32.ofNat position).toInt = position) := by
  refine ⟨_, _, _, _, answers_count exec s w needle t, answers_position exec s w needle t,
    answers_replaceFirst exec s w needle t r, answers_replaceAll exec s w needle t r, ⟨?_, ?_⟩,
    counted_pos_iff, position_pos_iff, ?_, ?_⟩
  · rintro h hempty
    rw [hempty] at h
    exact not_findingsAgree_empty _ _ _ h
  · exact fun h => findingsAgree_of_ne h r.toText
  · intro hempty
    rw [hempty]
    exact ⟨position_empty _, replaceFirst_empty _ _, rfl⟩
  · intro hlength
    exact ⟨toInt_ofNat_of_le (counted_le _ _) (by omega),
      toInt_ofNat_of_le (position_le _ _) (by omega)⟩

/-- An empty needle is not counted in a text, but it is found and something is put in its place. -/
theorem empty_needle_found_uncounted :
    Answers (Machine.execute shadedSetup 0) shadedSetup (shaded true true) "string_count"
        [.str "", .str "abc"] .zero ∧
      Answers (Machine.execute shadedSetup 0) shadedSetup (shaded true true) "string_pos"
        [.str "", .str "abc"] .one ∧
      Answers (Machine.execute shadedSetup 0) shadedSetup (shaded true true) "string_replace"
        [.str "abc", .str "", .str "-"] (.str "-abc") ∧
      Answers (Machine.execute shadedSetup 0) shadedSetup (shaded true true) "string_replace_all"
        [.str "abc", .str "", .str "-"] (.str "abc") ∧
      ¬ FindingsAgree "abc" 0 1 "-abc" "abc" :=
  ⟨answers_count .., answers_position .., answers_replaceFirst .., answers_replaceAll ..,
    fun h => absurd (h.absent rfl).1 (by decide)⟩

end GameRunner

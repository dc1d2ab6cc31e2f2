import GameRunner.Proofs.Number.Overflow

/-!
# Cutting texts

A position and a length cut a text in three: the characters before the position, those that the
length covers from there on, and those behind them. Copying gives the middle part and deleting gives
the other two, for all positions but the least word. A single character is what copying gives for
the length one, and there is none before the first position.
-/

namespace GameRunner

namespace Builtin

/-- A text is cut at a position, counted from one, and again where the length ends. What lies beyond
an end of the text stands for this end. -/
structure CutAt (s : String) (position length : Int) (before part after : List Char) : Prop where
  whole : s.toList = before ++ part ++ after
  start : (before.length : Int) = min (max (position - 1) 0) s.length
  stop : ((before ++ part).length : Int) = min (before.length + max length 0) s.length

section Exact

variable {s : String} {position length : Int} {before part after : List Char}

/-- Every position and every length cut a text. -/
theorem exists_cutAt (s : String) (position length : Int) :
    ∃ before part after, CutAt s position length before part after := by
  obtain ⟨start, hstart⟩ := Int.eq_ofNat_of_zero_le (a := min (max (position - 1) 0) s.length)
    (by omega)
  obtain ⟨stop, hstop⟩ := Int.eq_ofNat_of_zero_le (a := min (start + max length 0) s.length)
    (by omega)
  have hlength := s.length_toList
  have hbefore : (s.toList.take start).length = start := by
    rw [List.length_take]
    omega
  have htake : (s.toList.take stop).take start = s.toList.take start := by
    rw [List.take_take, Nat.min_eq_left (by omega)]
  have hboth : s.toList.take start ++ (s.toList.take stop).drop start = s.toList.take stop := by
    rw [← htake, List.take_append_drop]
  refine ⟨s.toList.take start, (s.toList.take stop).drop start, s.toList.drop stop, ?_, ?_, ?_⟩
  · rw [hboth, List.take_append_drop]
  · rw [hbefore, hstart]
  · rw [hboth, hbefore, hstop, List.length_take]
    omega

theorem CutAt.exactSpan_eq (h : CutAt s position length before part after) :
    exactSpan s.toList.length position length = (before.length, (before ++ part).length) := by
  have hstart := h.start
  have hstop := h.stop
  simp only [exactSpan, String.length_toList]
  refine Prod.ext ?_ ?_ <;> simp only <;> omega

theorem CutAt.exactCopy_eq (h : CutAt s position length before part after) :
    exactCopy s position length = String.ofList part := by
  rw [exactCopy, h.exactSpan_eq, h.whole]
  simp

theorem CutAt.exactDelete_eq (h : CutAt s position length before part after) :
    exactDelete s position length = String.ofList (before ++ after) := by
  rw [exactDelete, h.exactSpan_eq, h.whole]
  simp

theorem exactCharAt_eq_exactCopy (s : String) (h : 1 ≤ position) :
    exactCharAt s position = exactCopy s position 1 := by
  generalize hindex : (position - 1).toNat = index
  simp only [exactCharAt, exactCopy, exactSpan, if_pos h, hindex, Int.toNat_one]
  by_cases hlt : index < s.toList.length
  · have hcount : min (index + 1) s.toList.length - index = 1 := by omega
    rw [Nat.min_eq_left hlt.le, hcount, List.take_one, List.head?_drop,
      List.getElem?_eq_getElem hlt]
    exact String.singleton_eq_ofList
  · rw [List.getElem?_eq_none (Nat.not_lt.mp hlt), Nat.min_eq_right (Nat.not_lt.mp hlt),
      List.drop_length, List.take_nil, String.ofList_nil]
    rfl

theorem exactCharAt_of_lt (s : String) (h : position < 1) : exactCharAt s position = "" :=
  if_neg (by omega)

end Exact

end Builtin

open Builtin World

/-- Unless the position is the least word, copying gives the characters that the position and the
length cut out of a text, and deleting gives all the others. The character at a position from the
first on is what copying gives for the length one, and there is none at other positions. -/
theorem copied_and_left {position : Value} (h : position.toInt ≠ Int32.minValue) (exec : Exec)
    (s : Setup) (w : World) (t : Value) :
    (∀ length : Value, ∃ before part after,
      CutAt t.toText position.toInt.toInt length.toInt.toInt before part after ∧
        Answers exec s w "string_copy" [t, position, length] (.str (String.ofList part)) ∧
        Answers exec s w "string_delete" [t, position, length]
          (.str (String.ofList (before ++ after)))) ∧
      (1 ≤ position.toInt.toInt → ∀ one : Value, one.toInt = 1 → ∃ character,
        Answers exec s w "string_char_at" [t, position] (.str character) ∧
          Answers exec s w "string_copy" [t, position, one] (.str character)) ∧
      (position.toInt.toInt < 1 →
        Answers exec s w "string_char_at" [t, position] (.str "")) := by
  have hfits : FitsWord (position.toInt.toInt - 1) := fitsWord_sub_one_iff.mpr h
  have hcharacter := (answersInRange_charAt exec s w t position).answers hfits
  refine ⟨fun length => ?_, fun hfirst one hone => ?_, fun hfirst => ?_⟩
  · obtain ⟨before, part, after, hcut⟩ :=
      exists_cutAt t.toText position.toInt.toInt length.toInt.toInt
    have hcopy := (answersInRange_copy exec s w t position length).answers hfits
    have hdelete := (answersInRange_delete exec s w t position length).answers hfits
    rw [hcut.exactCopy_eq] at hcopy
    rw [hcut.exactDelete_eq] at hdelete
    exact ⟨before, part, after, hcut, hcopy, hdelete⟩
  · have hcopy := (answersInRange_copy exec s w t position one).answers hfits
    rw [exactCharAt_eq_exactCopy _ hfirst] at hcharacter
    rw [hone] at hcopy
    exact ⟨_, hcharacter, hcopy⟩
  · rwa [exactCharAt_of_lt _ hfirst] at hcharacter

/-- Two characters out of the middle of a text, the text without them, and the first of them, where
each character but the first two takes more than one byte. -/
theorem copied_and_left_in_middle :
    (Value.real 3).toInt ≠ Int32.minValue ∧
      Answers (Machine.execute shadedSetup 0) shadedSetup (shaded true true) "string_copy"
        [.str "grüßé", .real 3, .real 2] (.str "üß") ∧
      Answers (Machine.execute shadedSetup 0) shadedSetup (shaded true true) "string_delete"
        [.str "grüßé", .real 3, .real 2] (.str "gré") ∧
      ∃ character, Answers (Machine.execute shadedSetup 0) shadedSetup (shaded true true)
        "string_char_at" [.str "grüßé", .real 3] (.str character) ∧
          Answers (Machine.execute shadedSetup 0) shadedSetup (shaded true true) "string_copy"
            [.str "grüßé", .real 3, .real 1] (.str character) := by
  have hposition : (Value.real 3).toInt ≠ Int32.minValue := by decide +kernel
  obtain ⟨hparts, hcharacter, -⟩ := copied_and_left hposition (Machine.execute shadedSetup 0)
    shadedSetup (shaded true true) (.str "grüßé")
  obtain ⟨before, part, after, hcut, hcopy, hdelete⟩ := hparts (.real 2)
  rw [← hcut.exactCopy_eq] at hcopy
  rw [← hcut.exactDelete_eq] at hdelete
  have hpart : exactCopy "grüßé" (Value.real 3).toInt.toInt (Value.real 2).toInt.toInt = "üß" := by
    decide +kernel
  have hleft : exactDelete "grüßé" (Value.real 3).toInt.toInt (Value.real 2).toInt.toInt = "gré" := by
    decide +kernel
  exact ⟨hposition, hpart ▸ hcopy, hleft ▸ hdelete,
    hcharacter (by decide +kernel) (.real 1) (by decide +kernel)⟩

end GameRunner

import GameRunner.Program.References
import GameRunner.Proofs.Code.RoundTrip

/-!
# Setting the links of references

A link takes the low twenty-seven bits of the payload of a reference. Setting the links of assembled
code, in any order and as often as one likes, leaves at each reference the link that was set last,
and leaves everything that the decoder reads as it was.
-/

namespace GameRunner

namespace Bytes

/-- Changing a word of a sequence of words. -/
theorem modifyWord_ofWords (before : List UInt32) (w : UInt32) (behind : List UInt32)
    (f : UInt32 → UInt32) :
    modifyWord (ofWords (before ++ w :: behind)) (4 * before.length) f =
      ofWords (before ++ f w :: behind) := by
  have hsplit (v : UInt32) : ofWords (before ++ v :: behind) =
      ofWords before ++ (ofWords [v] ++ ofWords behind) := by
    rw [← ofWords_append, ← ofWords_append]
    rfl
  have hword : word? (ofWords (before ++ w :: behind)) (4 * before.length) = some w := by
    rw [word?_ofWords _ _ (by simp)]
    simp
  have hfront : (ofWords (before ++ w :: behind)).extract 0 (4 * before.length) =
      ofWords before := by
    rw [hsplit, ByteArray.extract_append_eq_left (size_ofWords before).symm]
  have hback : (ofWords (before ++ w :: behind)).extract (4 * before.length + 4)
      (ofWords (before ++ w :: behind)).size = ofWords behind := by
    rw [hsplit, ← ByteArray.append_assoc, ByteArray.extract_append_eq_right]
    · simp
    · simp
  unfold modifyWord
  rw [hword]
  dsimp only
  rw [hfront, hback, hsplit (f w), ByteArray.append_assoc]
  simp [ofWords]

end Bytes

namespace Statement

/-- The payload of a reference once its link has been set; `none` stands for a link that has not
been set. -/
def relink : Option UInt32 → UInt32 → UInt32
  | none, old => old
  | some delta, old => (old &&& 0xf8000000) ||| (delta &&& 0x7ffffff)

theorem toNat_relink (delta old : UInt32) :
    (relink (some delta) old).toNat = old.toNat / 2 ^ 27 * 2 ^ 27 + delta.toNat % 2 ^ 27 := by
  have hlow : (delta &&& 0x7ffffff).toNat = delta.toNat % 2 ^ 27 :=
    Word.toNat_and_mask delta 27 (by decide)
  have hhigh : (old &&& 0xf8000000).toNat = old.toNat / 2 ^ 27 * 2 ^ 27 :=
    Word.toNat_and_high old 27 (by decide)
  simp only [relink]
  rw [Word.toNat_or_add 27 (by rw [hhigh]; exact Nat.dvd_mul_left _ _) (by rw [hlow]; omega),
    hhigh, hlow]

theorem toNat_relink_div (link : Option UInt32) (old : UInt32) :
    (relink link old).toNat / 2 ^ 27 = old.toNat / 2 ^ 27 := by
  cases link with
  | none => rfl
  | some delta =>
    rw [toNat_relink]
    omega

/-- The link that is set last prevails. -/
theorem relink_relink (delta : UInt32) (link : Option UInt32) (old : UInt32) :
    relink (some delta) (relink link old) = relink (some delta) old := by
  apply UInt32.toNat_inj.mp
  rw [toNat_relink, toNat_relink, toNat_relink_div]

/-- The words of a statement once the link of a reference has been set. -/
def linkedWords (s : Statement) (link : Option UInt32) : List UInt32 :=
  if s.isReference then s.words.modify 1 (relink link) else s.words

theorem exists_words_of_isReference {s : Statement} (h : s.isReference) :
    ∃ w p, s.words = [w, p] := by
  cases s with
  | access op instanceField kind var => exact ⟨_, _, rfl⟩
  | call function arguments => exact ⟨_, _, rfl⟩
  | _ => exact absurd h Bool.false_ne_true

theorem spelledBy_linkedWords (s : Statement) (link : Option UInt32) :
    s.SpelledBy (s.linkedWords link) := by
  unfold linkedWords
  split_ifs with h
  · obtain ⟨w, p, hw⟩ := exists_words_of_isReference h
    right
    refine ⟨h, w, p, relink link p, hw, by simp [hw], toNat_relink_div link p⟩
  · exact Or.inl rfl

theorem linkedWords_none (s : Statement) : s.linkedWords none = s.words := by
  unfold linkedWords
  split_ifs with h
  · obtain ⟨w, p, hw⟩ := exists_words_of_isReference h
    simp [hw, relink]
  · rfl

theorem size_pos (s : Statement) : 0 < s.size := by
  cases s <;> simp [size, words]

/-- The words of the statements of code that is written from an offset on, with links at some
offsets. -/
def partsFrom (links : Nat → Option UInt32) (offset : Nat) : List Statement → List (List UInt32)
  | [] => []
  | s :: rest => s.linkedWords (links offset) :: partsFrom links (offset + s.size) rest

theorem forall₂_partsFrom (links : Nat → Option UInt32) (offset : Nat)
    (statements : List Statement) :
    List.Forall₂ SpelledBy statements (partsFrom links offset statements) := by
  induction statements generalizing offset with
  | nil => exact .nil
  | cons s rest ih => exact .cons (spelledBy_linkedWords s _) (ih _)

theorem partsFrom_append (links : Nat → Option UInt32) (offset : Nat) (a b : List Statement) :
    partsFrom links offset (a ++ b) =
      partsFrom links offset a ++ partsFrom links (offset + codeSize a) b := by
  induction a generalizing offset with
  | nil => rfl
  | cons s rest ih => simp [partsFrom, ih, Nat.add_assoc]

/-- The words of a stretch of code depend on the links in it only. -/
theorem partsFrom_congr {links links' : Nat → Option UInt32} {offset : Nat}
    {statements : List Statement}
    (h : ∀ o, offset ≤ o → o < offset + codeSize statements → links o = links' o) :
    partsFrom links offset statements = partsFrom links' offset statements := by
  induction statements generalizing offset with
  | nil => rfl
  | cons s rest ih =>
    have hs := s.size_pos
    simp only [codeSize_cons] at h
    simp only [partsFrom]
    rw [h offset (Nat.le_refl _) (by omega), ih fun o h1 h2 => h o (by omega) (by omega)]

theorem length_flatten_partsFrom (links : Nat → Option UInt32) (offset : Nat)
    (statements : List Statement) :
    4 * (partsFrom links offset statements).flatten.length = codeSize statements := by
  induction statements generalizing offset with
  | nil => rfl
  | cons s rest ih =>
    have hs := length_of_spelledBy (spelledBy_linkedWords s (links offset))
    rw [partsFrom, List.flatten_cons, List.length_append, codeSize_cons, Nat.mul_add, hs, ih]

theorem flatten_partsFrom_none (offset : Nat) (statements : List Statement) :
    (partsFrom (fun _ => none) offset statements).flatten = statements.flatMap words := by
  induction statements generalizing offset with
  | nil => rfl
  | cons s rest ih => simp [partsFrom, linkedWords_none, ih]

/-- The bytes of code with links at some offsets. -/
def linkedBytes (statements : List Statement) (links : Nat → Option UInt32) : ByteArray :=
  Bytes.ofWords (partsFrom links 0 statements).flatten

theorem linkedBytes_none (statements : List Statement) :
    linkedBytes statements (fun _ => none) = (Assembly.ofList statements).bytes := by
  rw [linkedBytes, flatten_partsFrom_none, Assembly.bytes_ofList]

theorem size_linkedBytes (statements : List Statement) (links : Nat → Option UInt32) :
    (linkedBytes statements links).size = codeSize statements := by
  rw [linkedBytes, Bytes.size_ofWords, length_flatten_partsFrom]

section Site

variable {statements : List Statement} {k : Nat} {s : Statement}

/-- Code around one of its statements. -/
theorem eq_take_append (hk : statements[k]? = some s) :
    statements = statements.take k ++ s :: statements.drop (k + 1) := by
  obtain ⟨hlt, rfl⟩ := List.getElem?_eq_some_iff.mp hk
  rw [List.getElem_cons_drop, List.take_append_drop]

theorem partsFrom_take_append (hk : statements[k]? = some s) (links : Nat → Option UInt32)
    (offset : Nat) :
    partsFrom links offset statements = partsFrom links offset (statements.take k) ++
      s.linkedWords (links (offset + codeSize (statements.take k))) ::
        partsFrom links (offset + codeSize (statements.take k) + s.size)
          (statements.drop (k + 1)) := by
  rw [← partsFrom, ← partsFrom_append, ← eq_take_append hk]

/-- The words of a reference within linked code. -/
theorem exists_linkedBytes_eq (hk : statements[k]? = some s) (hs : s.isReference)
    (links : Nat → Option UInt32) :
    ∃ before w p behind, 4 * before.length = codeSize (statements.take k) + 4 ∧
      s.words = [w, p] ∧ ∀ link, linkedBytes statements
        (Function.update links (codeSize (statements.take k)) link) =
          Bytes.ofWords (before ++ relink link p :: behind) := by
  obtain ⟨w, p, hw⟩ := exists_words_of_isReference hs
  have hpos := s.size_pos
  refine ⟨(partsFrom links 0 (statements.take k)).flatten ++ [w], w, p,
    (partsFrom links (codeSize (statements.take k) + s.size)
      (statements.drop (k + 1))).flatten, ?_, hw, fun link => ?_⟩
  · rw [List.length_append, Nat.mul_add, length_flatten_partsFrom]
    rfl
  · have hfront : partsFrom (Function.update links (codeSize (statements.take k)) link) 0
        (statements.take k) = partsFrom links 0 (statements.take k) := by
      apply partsFrom_congr
      intro o _ ho
      rw [Function.update_of_ne (by omega)]
    have hback : partsFrom (Function.update links (codeSize (statements.take k)) link)
        (codeSize (statements.take k) + s.size) (statements.drop (k + 1)) =
          partsFrom links (codeSize (statements.take k) + s.size) (statements.drop (k + 1)) := by
      apply partsFrom_congr
      intro o ho _
      rw [Function.update_of_ne (by omega)]
    rw [linkedBytes, partsFrom_take_append hk, Nat.zero_add, hfront, hback,
      Function.update_self, linkedWords, if_pos hs, hw]
    simp

/-- Setting the link of a reference sets that link and no other. -/
theorem setLink_linkedBytes (hk : statements[k]? = some s) (hs : s.isReference)
    (links : Nat → Option UInt32) (delta : UInt32) :
    setLink (linkedBytes statements links) (codeSize (statements.take k)) delta =
      linkedBytes statements
        (Function.update links (codeSize (statements.take k)) (some delta)) := by
  obtain ⟨before, w, p, behind, hlen, -, heq⟩ := exists_linkedBytes_eq hk hs links
  have hold := heq (links (codeSize (statements.take k)))
  rw [Function.update_eq_self] at hold
  rw [heq (some delta), hold, setLink, ← hlen, Bytes.modifyWord_ofWords]
  congr 3
  exact relink_relink delta _ p

/-- The link that is read at a reference is the one that was set there. -/
theorem linkAt?_linkedBytes (hk : statements[k]? = some s) (hs : s.isReference)
    {links : Nat → Option UInt32} {delta : UInt32}
    (hl : links (codeSize (statements.take k)) = some delta) :
    linkAt? (linkedBytes statements links) (codeSize (statements.take k)) =
      some (delta.toNat % 2 ^ 27) := by
  obtain ⟨before, w, p, behind, hlen, -, heq⟩ := exists_linkedBytes_eq hk hs links
  have hold := heq (links (codeSize (statements.take k)))
  rw [Function.update_eq_self, hl] at hold
  have hm : (relink (some delta) p &&& 0x7ffffff).toNat = (relink (some delta) p).toNat % 2 ^ 27 :=
    Word.toNat_and_mask _ 27 (by decide)
  rw [linkAt?, hold, ← hlen, Bytes.word?_ofWords _ _ (by simp)]
  simp only [List.getElem?_append_right (Nat.le_refl _), Nat.sub_self, List.getElem?_cons_zero,
    Option.map_some, hm, toNat_relink]
  congr 1
  omega

end Site

/-- Linked code decodes to the instructions of its statements. -/
theorem decode_linkedBytes {statements : List Statement} (hr : ∀ s ∈ statements, s.Readable)
    (links : Nat → Option UInt32) :
    Code.decode (linkedBytes statements links) = ⟨(instructionsFrom 0 statements).toArray⟩ := by
  rw [Code.decode, linkedBytes, Code.decodeWithTail_spelled (forall₂_partsFrom links 0 _) hr]

end Statement

end GameRunner

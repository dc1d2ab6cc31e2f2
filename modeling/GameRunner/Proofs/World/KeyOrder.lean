import GameRunner.Dict
import Mathlib.Tactic

/-!
# The order of keys

The order of the keys of a dictionary comes from the changes that have been made to it. A key is in
since the change that stored under it for the first time after it was last taken out; to store again
changes nothing about that. The keys that are in stand in the order of these changes.
-/

namespace GameRunner

namespace Dict

/-- A change of a dictionary. -/
inductive Change (κ : Type u) (α : Type v)
  | store (key : κ) (value : α)
  | remove (key : κ)
  | clear

variable {κ : Type u} {α : Type v}

namespace Change

/-- A change takes a key out, if it is in. -/
def Removes (k : κ) : Change κ α → Prop
  | .store _ _ => False
  | .remove key => key = k
  | .clear => True

/-- A change stores something under a key. -/
def Stores (k : κ) (c : Change κ α) : Prop := ∃ value, c = .store k value

def apply [DecidableEq κ] (d : Dict κ α) : Change κ α → Dict κ α
  | .store key value => d.insert key value
  | .remove key => d.erase key
  | .clear => .empty

theorem Stores.not_removes {k : κ} {c : Change κ α} (h : c.Stores k) : ¬c.Removes k := by
  obtain ⟨value, rfl⟩ := h
  exact id

theorem stores_store_iff {k key : κ} {value : α} : (store key value).Stores k ↔ key = k := by
  constructor
  · rintro ⟨_, h⟩
    cases h
    rfl
  · rintro rfl
    exact ⟨value, rfl⟩

end Change

/-! ### Histories -/

/-- A key is out after a history of changes: whenever something was stored under it, it was taken out
again. -/
def Out (history : List (Change κ α)) (k : κ) : Prop :=
  ∀ before c after, history = before ++ c :: after → c.Stores k → ∃ c ∈ after, c.Removes k

/-- A key is in since a change: this one stores under the key, which was out before, and none takes it
out later. -/
def InSince (history : List (Change κ α)) (k : κ) (n : Nat) : Prop :=
  ∃ before c after, history = before ++ c :: after ∧ before.length = n ∧ c.Stores k ∧ Out before k ∧
    ∀ c ∈ after, ¬c.Removes k

section Histories

variable {history : List (Change κ α)} {c : Change κ α} {k : κ} {n : Nat}

theorem concat_of_eq {before after : List (Change κ α)} {c' : Change κ α}
    (h : history = before ++ c' :: after) : history ++ [c] = before ++ c' :: (after ++ [c]) := by
  rw [h, List.append_assoc, List.cons_append]

theorem of_concat_eq {before after : List (Change κ α)} {c' : Change κ α}
    (h : history ++ [c] = before ++ c' :: after) :
    (history = before ∧ c = c') ∨ ∃ rest, after = rest ++ [c] ∧ history = before ++ c' :: rest := by
  rcases List.eq_nil_or_concat' after with rfl | ⟨rest, last, rfl⟩
  · obtain ⟨hbefore, hc⟩ := List.append_inj' h rfl
    exact .inl ⟨hbefore, List.singleton_inj.mp hc⟩
  · rw [← List.cons_append, ← List.append_assoc] at h
    obtain ⟨hbefore, hc⟩ := List.append_inj' h rfl
    rw [List.singleton_inj.mp hc]
    exact .inr ⟨rest, rfl, hbefore⟩

/-- One more change takes the key out, or leaves it out without storing under it. -/
theorem out_concat_iff :
    Out (history ++ [c]) k ↔ c.Removes k ∨ (Out history k ∧ ¬c.Stores k) := by
  constructor
  · intro h
    by_cases hc : c.Removes k
    · exact .inl hc
    · refine .inr ⟨fun before c' after hhistory hstores => ?_, fun hstores => ?_⟩
      · obtain ⟨r, hr, hremoves⟩ := h before c' (after ++ [c]) (concat_of_eq hhistory) hstores
        rcases List.mem_append.mp hr with hr | hr
        · exact ⟨r, hr, hremoves⟩
        · rw [List.mem_singleton.mp hr] at hremoves
          exact absurd hremoves hc
      · obtain ⟨r, hr, -⟩ := h history c [] rfl hstores
        cases hr
  · rintro h before c' after hhistory hstores
    rcases of_concat_eq hhistory with ⟨-, rfl⟩ | ⟨rest, rfl, hbefore⟩
    · rcases h with hremoves | ⟨-, hnot⟩
      · exact absurd hremoves hstores.not_removes
      · exact absurd hstores hnot
    · rcases h with hremoves | ⟨hout, -⟩
      · exact ⟨c, List.mem_append_right _ List.mem_cons_self, hremoves⟩
      · obtain ⟨r, hr, hremoves⟩ := hout before c' rest hbefore hstores
        exact ⟨r, List.mem_append_left _ hr, hremoves⟩

/-- One more change leaves a key in, or is the one since which it is in. -/
theorem inSince_concat_iff :
    InSince (history ++ [c]) k n ↔
      (InSince history k n ∧ ¬c.Removes k) ∨ (c.Stores k ∧ Out history k ∧ n = history.length) := by
  constructor
  · rintro ⟨before, c', after, hhistory, hn, hstores, hout, hkept⟩
    rcases of_concat_eq hhistory with ⟨rfl, rfl⟩ | ⟨rest, rfl, hbefore⟩
    · exact .inr ⟨hstores, hout, hn.symm⟩
    · refine .inl ⟨⟨before, c', rest, hbefore, hn, hstores, hout, fun r hr => ?_⟩, ?_⟩
      · exact hkept r (List.mem_append_left _ hr)
      · exact hkept c (List.mem_append_right _ List.mem_cons_self)
  · rintro (⟨⟨before, c', after, hhistory, hn, hstores, hout, hkept⟩, hc⟩ | ⟨hstores, hout, rfl⟩)
    · refine ⟨before, c', after ++ [c], concat_of_eq hhistory, hn, hstores, hout, fun r hr => ?_⟩
      rcases List.mem_append.mp hr with hr | hr
      · exact hkept r hr
      · rw [List.mem_singleton.mp hr]
        exact hc
    · exact ⟨history, c, [], rfl, rfl, hstores, hout, fun _ hr => absurd hr List.not_mem_nil⟩

theorem InSince.lt_length (h : InSince history k n) : n < history.length := by
  obtain ⟨before, c, after, rfl, rfl, -⟩ := h
  rw [List.length_append, List.length_cons]
  omega

theorem not_inSince_nil : ¬InSince ([] : List (Change κ α)) k n :=
  fun h => Nat.not_lt_zero n h.lt_length

/-- A key is out or it is in since some change. -/
theorem out_iff : Out history k ↔ ∀ n, ¬InSince history k n := by
  induction history using List.reverseRecOn with
  | nil =>
    refine iff_of_true (fun before c after h => ?_) fun n => not_inSince_nil
    exact absurd h.symm (List.append_ne_nil_of_right_ne_nil _ (List.cons_ne_nil _ _))
  | append_singleton history c ih =>
    rw [out_concat_iff]
    constructor
    · rintro h n hin
      rcases inSince_concat_iff.mp hin with ⟨hin, hkept⟩ | ⟨hstores, -, -⟩
      · rcases h with hremoves | ⟨hout, -⟩
        · exact hkept hremoves
        · exact ih.mp hout n hin
      · rcases h with hremoves | ⟨-, hnot⟩
        · exact hstores.not_removes hremoves
        · exact hnot hstores
    · intro h
      by_cases hc : c.Removes k
      · exact .inl hc
      · have hout : Out history k :=
          ih.mpr fun n hin => h n (inSince_concat_iff.mpr (.inl ⟨hin, hc⟩))
        refine .inr ⟨hout, fun hstores => ?_⟩
        exact h history.length (inSince_concat_iff.mpr (.inr ⟨hstores, hout, rfl⟩))

end Histories

/-! ### Keys -/

/-- The keys are those that are in, in the order of the changes since which they are in. -/
structure Tells (history : List (Change κ α)) (d : Dict κ α) : Prop where
  mem_iff : ∀ k, k ∈ d.keys ↔ ∃ n, InSince history k n
  order : d.keys.Pairwise fun a b => ∀ m n, InSince history a m → InSince history b n → m < n

section Keys

variable {history : List (Change κ α)} {d : Dict κ α} {k key : κ} {n : Nat}

theorem tells_empty : Tells [] (.empty : Dict κ α) where
  mem_iff _ := iff_of_false List.not_mem_nil fun ⟨_, h⟩ => not_inSince_nil h
  order := .nil

theorem Tells.out_iff_not_mem (h : Tells history d) : Out history k ↔ k ∉ d.keys := by
  rw [h.mem_iff, out_iff, not_exists]

theorem inSince_remove_iff :
    InSince (history ++ [.remove key]) k n ↔ InSince history k n ∧ k ≠ key := by
  have hstores : ¬(Change.remove key : Change κ α).Stores k := by
    rintro ⟨_, h⟩
    cases h
  rw [inSince_concat_iff]
  exact (or_iff_left fun h => hstores h.1).trans (and_congr_right' (not_congr eq_comm))

theorem not_inSince_clear : ¬InSince (history ++ [.clear]) k n := by
  intro h
  rcases inSince_concat_iff.mp h with ⟨-, hkept⟩ | ⟨⟨_, hstores⟩, -⟩
  · exact hkept trivial
  · cases hstores

theorem tells_clear (history : List (Change κ α)) :
    Tells (history ++ [.clear]) (.empty : Dict κ α) where
  mem_iff _ := iff_of_false List.not_mem_nil fun ⟨_, h⟩ => not_inSince_clear h
  order := .nil

end Keys

section Changes

variable [DecidableEq κ] {history : List (Change κ α)} {d : Dict κ α}

theorem mem_keys_insert {k key : κ} {a : α} :
    k ∈ (d.insert key a).keys ↔ k = key ∨ k ∈ d.keys := mem_keys_insertEntry

theorem keys_insertEntry (key : κ) (a : α) (l : List (κ × α)) :
    (insertEntry key a l).map Prod.fst =
      if key ∈ l.map Prod.fst then l.map Prod.fst else l.map Prod.fst ++ [key] := by
  induction l with
  | nil => rfl
  | cons e rest ih =>
    unfold insertEntry
    by_cases he : e.1 = key
    · simp [he]
    · have hkey : key ≠ e.1 := fun h => he h.symm
      rw [if_neg he, List.map_cons, ih, List.map_cons]
      simp only [List.mem_cons, hkey, false_or]
      split_ifs <;> rfl

/-- Storing under a new key adds it at the end. -/
theorem keys_insert (d : Dict κ α) (key : κ) (a : α) :
    (d.insert key a).keys = if key ∈ d.keys then d.keys else d.keys ++ [key] :=
  keys_insertEntry key a d.entries

/-- Removing a key closes the gap. -/
theorem keys_erase (d : Dict κ α) (key : κ) :
    (d.erase key).keys = d.keys.filter (· ≠ key) :=
  (List.filter_map (f := Prod.fst) (p := fun k => decide (k ≠ key)) (l := d.entries)).symm

theorem Tells.store (h : Tells history d) (key : κ) (a : α) :
    Tells (history ++ [.store key a]) (d.insert key a) where
  mem_iff k := by
    have hin (n : Nat) : InSince (history ++ [.store key a]) k n ↔
        InSince history k n ∨ (key = k ∧ Out history k ∧ n = history.length) := by
      rw [inSince_concat_iff, Change.stores_store_iff]
      exact or_congr_left (and_iff_left id)
    rw [mem_keys_insert]
    simp only [hin, exists_or, ← h.mem_iff]
    constructor
    · rintro (rfl | hk)
      · by_cases hk : k ∈ d.keys
        · exact .inl hk
        · exact .inr ⟨_, rfl, h.out_iff_not_mem.mpr hk, rfl⟩
      · exact .inl hk
    · rintro (hk | ⟨-, hkey, -, -⟩)
      · exact .inr hk
      · exact .inl hkey.symm
  order := by
    -- Of a key that was there nothing new is told.
    have hold {k : κ} {n : Nat} (hk : k ∈ d.keys) (hin : InSince (history ++ [.store key a]) k n) :
        InSince history k n := by
      rcases inSince_concat_iff.mp hin with ⟨hin, -⟩ | ⟨-, hout, -⟩
      · exact hin
      · exact absurd hk (h.out_iff_not_mem.mp hout)
    have hbefore := h.order.imp_of_mem fun {a b} ha hb hab m n hm hn =>
      hab m n (hold ha hm) (hold hb hn)
    rw [keys_insert]
    split_ifs with hkey
    · exact hbefore
    · refine List.pairwise_append.mpr ⟨hbefore, List.pairwise_singleton _ _, ?_⟩
      intro b hb c hc m n hm hn
      rw [List.mem_singleton.mp hc] at hn
      rcases inSince_concat_iff.mp hn with ⟨hn, -⟩ | ⟨-, -, rfl⟩
      · exact absurd ((h.mem_iff key).mpr ⟨n, hn⟩) hkey
      · exact (hold hb hm).lt_length

theorem Tells.remove (h : Tells history d) (key : κ) :
    Tells (history ++ [.remove key]) (d.erase key) where
  mem_iff k := by
    rw [keys_erase, List.mem_filter, decide_eq_true_eq, h.mem_iff, ← exists_and_right]
    exact exists_congr fun n => inSince_remove_iff.symm
  order := by
    rw [keys_erase]
    refine (h.order.imp fun {a b} hab m n hm hn => ?_).filter _
    exact hab m n (inSince_remove_iff.mp hm).1 (inSince_remove_iff.mp hn).1

/-- One more change keeps the order. -/
theorem Tells.apply (h : Tells history d) (c : Change κ α) : Tells (history ++ [c]) (c.apply d) := by
  cases c with
  | store key a => exact h.store key a
  | remove key => exact h.remove key
  | clear => exact tells_clear history

end Changes

end Dict

end GameRunner

import GameRunner.Archive.Read
import Mathlib.Tactic

/-!
# What a load comes to

A load writes to the journal but never looks at it. Two things are said about it: that it gives a
certain result, whatever the journal is, or that all results that it can give have a property. Both
carry over from the parts of a load to the whole.
-/

namespace GameRunner.Archive

section Visits

variable {m : Type → Type} [Monad m] [LawfulMonad m] {α β : Type}

/-- If every visit to an element comes to a value, visiting the list comes to the list of values. -/
theorem mapM_eq_pure {f : α → m β} {l : List α} {r : List β}
    (h : List.Forall₂ (fun x y => f x = pure y) l r) : l.mapM f = pure r := by
  induction h with
  | nil => rfl
  | cons hx _ ih => rw [List.mapM_cons, hx, pure_bind, ih, pure_bind]

theorem mapM_range_eq_pure {f : Nat → m β} {r : List β} {n : Nat} (hn : r.length = n)
    (h : ∀ i (hi : i < r.length), f i = pure r[i]) : (List.range n).mapM f = pure r := by
  subst hn
  apply mapM_eq_pure
  rw [List.forall₂_iff_get]
  refine ⟨List.length_range, fun i hi hi' => ?_⟩
  simpa using h i hi'

end Visits

/-! ### Reads as loads -/

section Lifting

variable {α β : Type}

@[simp] theorem ok_bind (a : α) (f : α → Read β) : (Except.ok a >>= f) = f a := rfl

@[simp] theorem lift_ok (a : α) : (liftM (Except.ok a : Read α) : Load α) = pure a := rfl

@[simp] theorem lift_pure (a : α) : (liftM (pure a : Read α) : Load α) = pure a := rfl

@[simp] theorem lift_bind (m : Read α) (f : α → Read β) :
    (liftM (m >>= f) : Load β) = liftM m >>= fun a => liftM (f a) := by
  cases m <;> rfl

theorem lift_mapM (f : α → Read β) (l : List α) :
    (liftM (l.mapM f) : Load (List β)) = l.mapM fun x => liftM (f x) := by
  induction l with
  | nil => rfl
  | cons x rest ih => simp only [List.mapM_cons, lift_bind, ih, lift_pure]

end Lifting

namespace Load

variable {α β : Type}

/-- A load gives a result, whatever the journal is. -/
def Gives (m : Load α) (a : α) : Prop := ∀ log, (m log).1 = .ok a

/-- A load can give a result. -/
def CanGive (m : Load α) (a : α) : Prop := ∃ log, (m log).1 = .ok a

/-- Whatever a load gives has a property. -/
def Yields (m : Load α) (P : α → Prop) : Prop := ∀ log a, (m log).1 = .ok a → P a

theorem bind_of_ok {m : Load α} {f : α → Load β} {log log' : Journal} {a : α}
    (h : m log = (.ok a, log')) : (m >>= f) log = f a log' := by
  change (match m log with | (r, log') => ExceptT.bindCont f r log') = _
  rw [h]
  rfl

theorem bind_of_error {m : Load α} {f : α → Load β} {log log' : Journal} {e : FormatError}
    (h : m log = (.error e, log')) : (m >>= f) log = (.error e, log') := by
  change (match m log with | (r, log') => ExceptT.bindCont f r log') = _
  rw [h]
  rfl

theorem orEmpty_of_ok {what owner : String} {m : Load (List α)} {log log' : Journal} {l : List α}
    (h : m log = (.ok l, log')) : orEmpty what owner m log = (.ok l, log') := by
  simp only [orEmpty, tryCatch, tryCatchThe, MonadExceptOf.tryCatch, ExceptT.tryCatch, ExceptT.mk,
    bind, StateT.bind, h]
  rfl

theorem orEmpty_of_error {what owner : String} {m : Load (List α)} {log log' : Journal}
    {e : FormatError} (h : m log = (.error e, log')) :
    (orEmpty what owner m log).1 = .ok [] := by
  simp only [orEmpty, tryCatch, tryCatchThe, MonadExceptOf.tryCatch, ExceptT.tryCatch, ExceptT.mk,
    bind, StateT.bind, h]
  rfl

@[simp] theorem orEmpty_pure (what owner : String) (l : List α) :
    orEmpty what owner (Pure.pure l) = Pure.pure l := rfl

namespace Gives

variable {m : Load α} {a : α}

theorem pure (a : α) : Gives (Pure.pure a) a := fun _ => rfl

theorem note (s : Severity) (line : Unit → String) : Gives (note s line) () := fun _ => rfl

theorem lift {m : Read α} (h : m = .ok a) : Gives (liftM m) a := by
  rw [h, lift_ok]
  exact .pure a

theorem bind {f : α → Load β} {c : β} (hm : Gives m a) (hf : Gives (f a) c) :
    Gives (m >>= f) c := by
  intro log
  have h : m log = (.ok a, (m log).2) := Prod.ext (hm log) rfl
  rw [bind_of_ok h]
  exact hf _

end Gives

namespace Yields

variable {m : Load α} {P Q : α → Prop}

theorem mono (h : Yields m P) (hPQ : ∀ a, P a → Q a) : Yields m Q :=
  fun log a ha => hPQ a (h log a ha)

theorem pure {a : α} (h : P a) : Yields (Pure.pure a) P := by
  rintro log b hb
  cases hb
  exact h

theorem lift {m : Read α} (h : ∀ a, m = .ok a → P a) : Yields (liftM m) P :=
  fun _ a ha => h a ha

theorem of_canGive {a : α} (h : Yields m P) (ha : CanGive m a) : P a := by
  obtain ⟨log, ha⟩ := ha
  exact h log a ha

/-- All that is known of a part of a load is that it gave its result. -/
theorem canGive (m : Load α) : Yields m (CanGive m) := fun log _ ha => ⟨log, ha⟩

theorem any (m : Load α) : Yields m fun _ => True := fun _ _ _ => trivial

theorem bind {f : α → Load β} {R : β → Prop} (hm : Yields m P) (hf : ∀ a, P a → Yields (f a) R) :
    Yields (m >>= f) R := by
  intro log c hc
  rcases h : m log with ⟨_ | a, log'⟩
  · rw [bind_of_error h] at hc
    cases hc
  · rw [bind_of_ok h] at hc
    exact hf a (hm log a (congrArg Prod.fst h)) log' c hc

/-- A part of a load of whose result nothing needs to be known. -/
theorem skip {f : α → Load β} {R : β → Prop} (hf : ∀ a, Yields (f a) R) : Yields (m >>= f) R :=
  (any m).bind fun a _ => hf a

/-- A read of which nothing is known but that it gave its result. -/
theorem read {m : Read α} {f : α → Load β} {R : β → Prop}
    (hf : ∀ a, m = .ok a → Yields (f a) R) : Yields (liftM m >>= f) R :=
  (lift fun _ h => h).bind hf

theorem mapM {f : α → Load β} {R : α → β → Prop} (hf : ∀ x, Yields (f x) (R x)) (l : List α) :
    Yields (l.mapM f) fun r => List.Forall₂ R l r := by
  induction l with
  | nil => exact .pure .nil
  | cons x rest ih =>
    rw [List.mapM_cons]
    exact (hf x).bind fun y hy => ih.bind fun r hr => .pure (.cons hy hr)

/-- A list that cannot be read is empty, so nothing else has to be known about it. -/
theorem orEmpty {what owner : String} {m : Load (List β)} {P : List β → Prop} (hm : Yields m P)
    (hnil : P []) : Yields (orEmpty what owner m) P := by
  intro log r hr
  rcases h : m log with ⟨e | l, log'⟩
  · rw [orEmpty_of_error h] at hr
    cases hr
    exact hnil
  · rw [orEmpty_of_ok h] at hr
    cases hr
    exact hm log _ (congrArg Prod.fst h)

end Yields

/-- What a load gives does not depend on the journal. -/
def Blind (m : Load α) : Prop := ∀ log log', (m log).1 = (m log').1

namespace Blind

variable {m : Load α} {a a' : α}

theorem pure (a : α) : Blind (Pure.pure a) := fun _ _ => rfl

theorem throw (e : FormatError) : Blind (throw e : Load α) := fun _ _ => rfl

theorem note (s : Severity) (line : Unit → String) : Blind (note s line) := fun _ _ => rfl

theorem lift (m : Read α) : Blind (liftM m) := by
  cases m <;> exact fun _ _ => rfl

theorem bind {f : α → Load β} (hm : Blind m) (hf : ∀ a, Blind (f a)) : Blind (m >>= f) := by
  intro log log'
  have h := hm log log'
  rcases hlog : m log with ⟨e | a, j⟩ <;> rcases hlog' : m log' with ⟨e' | a', j'⟩ <;>
    rw [hlog, hlog'] at h <;> cases h
  · rw [bind_of_error hlog, bind_of_error hlog']
  · rw [bind_of_ok hlog, bind_of_ok hlog']
    exact hf a j j'

theorem eq_of_canGive (h : Blind m) (ha : CanGive m a) (ha' : CanGive m a') : a = a' := by
  obtain ⟨log, ha⟩ := ha
  obtain ⟨log', ha'⟩ := ha'
  rw [h log log', ha'] at ha
  cases ha
  rfl

end Blind

end Load

end GameRunner.Archive

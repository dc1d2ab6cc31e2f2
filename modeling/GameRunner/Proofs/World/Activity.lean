import GameRunner.World.Basic
import Mathlib.Tactic

/-!
# Activities

Code runs code: through scripts, and through the events that it causes. What all of this has in
common is described once, for any way to run code. An activity takes effects one after the other,
runs code, and goes on with what comes back. For a stretch it may set the event that is running or
who calls a function, or go one script call deeper, and then it puts back what was there before.

What follows for every activity: what all effects and the code that is run have in common as a
relation between two worlds, the activity has too. If the code leaves the context as it was, so does
the activity. Code is never run deeper than script calls may be nested. And what an activity comes
to rests on the code in those worlds alone in which it runs code.
-/

namespace GameRunner

/-- What is set while code runs and put back afterwards. -/
structure Context where
  event : Option EventContext
  self : Option Int32
  other : Option Int32
  callDepth : Nat
  deriving Repr, DecidableEq

namespace World

def context (w : World) : Context := ⟨w.event, w.self, w.other, w.callDepth⟩

def withContext (w : World) (c : Context) : World :=
  { w with event := c.event, self := c.self, other := c.other, callDepth := c.callDepth }

end World

/-- Code that is run leaves the context as it was. -/
def Exec.KeepsContext (exec : Exec) : Prop :=
  ∀ w code self other w', exec w code self other = some w' → w'.context = w.context

/-- Code that is run leads from a world to one that is related to it. -/
def Exec.Keeps (R : World → World → Prop) (exec : Exec) : Prop :=
  ∀ w code self other w', exec w code self other = some w' → R w w'

open Classical in
/-- The same way to run code, but none is run in the given world. -/
noncomputable def Exec.refusing (exec : Exec) (v : World) : Exec :=
  fun w code self other => if w = v then none else exec w code self other

@[simp] theorem Exec.refusing_self (exec : Exec) (v : World) (code self : Int32)
    (other : Option Int32) : exec.refusing v v code self other = none := if_pos rfl

theorem Exec.refusing_of_ne (exec : Exec) {v w : World} (h : w ≠ v) :
    exec.refusing v w = exec w := by
  funext code self other
  exact if_neg h

theorem Exec.eq_of_refusing {exec : Exec} {v w w' : World} {code self : Int32}
    {other : Option Int32} (h : exec.refusing v w code self other = some w') :
    exec w code self other = some w' := by
  by_cases hw : w = v
  · simp [hw] at h
  · rwa [exec.refusing_of_ne hw] at h

/-- Something runs code in a world: with some way to run code that leaves the context as it was it
comes to an end, but it does not if no code is run in that world. -/
def RunsCodeIn {α : Type} (m : Exec → Option α) (v : World) : Prop :=
  ∃ exec : Exec, exec.KeepsContext ∧ m exec ≠ none ∧ m (exec.refusing v) = none

theorem RunsCodeIn.map {α β : Type} {m : Exec → Option α} {v : World} (h : RunsCodeIn m v)
    (f : α → β) : RunsCodeIn (fun exec => (m exec).map f) v := by
  obtain ⟨exec, hkeeps, hsome, hnone⟩ := h
  exact ⟨exec, hkeeps, mt Option.map_eq_none_iff.mp hsome, Option.map_eq_none_iff.mpr hnone⟩

/-- What can be done from a world on, given a way to run code. The results hold a world; `E` tells
which effects there are. -/
inductive Activity (E : World → World → Prop) :
    {α : Type} → (α → World) → World → (Exec → Option α) → Prop
  | done {α : Type} {p : α → World} (a : α) : Activity E p (p a) fun _ => some a
  | stuck {α : Type} {p : α → World} {w : World} : Activity E p w fun _ => none
  | act {α : Type} {p : α → World} {w v : World} {m : Exec → Option α} :
    E w v → Activity E p v m → Activity E p w m
  | bind {α β : Type} {p : α → World} {q : β → World} {w : World} {m : Exec → Option α}
    {k : α → Exec → Option β} :
    Activity E p w m → (∀ a, Activity E q (p a) (k a)) →
      Activity E q w fun exec => (m exec).bind fun a => k a exec
  | run {w : World} (code self : Int32) (other : Option Int32) :
    Activity E id w fun exec => exec w code self other
  | during {α β : Type} {p : α → World} {q : β → World} {w : World} {m : Exec → Option α}
    (event : Option EventContext) (f : α → β) :
    Activity E p { w with event := event } m → (∀ a, q (f a) = { p a with event := w.event }) →
      Activity E q w fun exec => (m exec).map f
  | calling {α β : Type} {p : α → World} {q : β → World} {w : World} {m : Exec → Option α}
    (self other : Option Int32) (f : α → β) :
    Activity E p { w with self := self, other := other } m →
      (∀ a, q (f a) = { p a with self := w.self, other := w.other }) →
        Activity E q w fun exec => (m exec).map f
  | deeper {α β : Type} {p : α → World} {q : β → World} {w : World} {m : Exec → Option α}
    (f : α → β) : w.callDepth < maxCallDepth →
    Activity E p { w with callDepth := w.callDepth + 1 } m →
      (∀ a, q (f a) = { p a with callDepth := (p a).callDepth - 1 }) →
        Activity E q w fun exec => (m exec).map f

namespace Activity

variable {E : World → World → Prop} {α β : Type} {p : α → World} {q : β → World} {w : World}
  {m : Exec → Option α}

theorem congr {m' : Exec → Option α} (h : Activity E p w m) (he : ∀ exec, m' exec = m exec) :
    Activity E p w m' := by
  rw [funext he]
  exact h

/-- The last effect of an activity. -/
theorem finish {a : α} (h : E w (p a)) : Activity E p w fun _ => some a := .act h (.done a)

theorem map (f : α → β) (h : Activity E p w m) (hf : ∀ a, q (f a) = p a) :
    Activity E q w fun exec => (m exec).map f := by
  refine (h.bind (k := fun a _ => some (f a)) fun a => ?_).congr fun exec => Option.map_eq_bind
  rw [← hf]
  exact .done (f a)

theorem mono {E' : World → World → Prop} (hE : ∀ w v, E w v → E' w v) (h : Activity E p w m) :
    Activity E' p w m := by
  induction h with
  | done a => exact .done a
  | stuck => exact .stuck
  | act he _ ih => exact .act (hE _ _ he) ih
  | bind _ _ ihm ihk => exact .bind ihm ihk
  | run code self other => exact .run code self other
  | during event f _ hf ih => exact .during event f ih hf
  | calling self other f _ hf ih => exact .calling self other f ih hf
  | deeper f hlt _ hf ih => exact .deeper f hlt ih hf

/-- Visiting the elements of a list in turn is an activity if each visit is one. -/
theorem foldlM {γ : Type} {visit : Exec → World → γ → Option World}
    (h : ∀ w c, Activity E id w fun exec => visit exec w c) (l : List γ) (w : World) :
    Activity E id w fun exec => l.foldlM (visit exec) w := by
  induction l generalizing w with
  | nil => exact .done (p := id) w
  | cons c rest ih => exact .bind (h w c) ih

section Laws

variable {exec : Exec}

/-- A relation that holds along every effect and across all code that is run holds across the whole
activity, if it takes no notice of the context. -/
theorem rel {R : World → World → Prop} (hE : ∀ w v, E w v → R w v)
    (htrans : ∀ w v u, R w v → R v u → R w u) (hcontext : ∀ w c, R w (w.withContext c))
    (hexec : exec.Keeps R) (h : Activity E p w m) {a : α} (ha : m exec = some a) : R w (p a) := by
  induction h with
  | done b =>
    cases ha
    exact hcontext _ (World.context _)
  | stuck => cases ha
  | act he _ ih => exact htrans _ _ _ (hE _ _ he) (ih ha)
  | bind _ _ ihm ihk =>
    obtain ⟨b, hb, hk⟩ := Option.bind_eq_some_iff.mp ha
    exact htrans _ _ _ (ihm hb) (ihk b hk)
  | run code self other => exact hexec _ _ _ _ _ ha
  | @during _ _ _ _ w _ event f _ hf ih =>
    obtain ⟨b, hb, rfl⟩ := Option.map_eq_some_iff.mp ha
    rw [hf]
    exact htrans _ _ _ (hcontext w { w.context with event := event })
      (htrans _ _ _ (ih hb) (hcontext _ { World.context _ with event := w.event }))
  | @calling _ _ _ _ w _ self other f _ hf ih =>
    obtain ⟨b, hb, rfl⟩ := Option.map_eq_some_iff.mp ha
    rw [hf]
    exact htrans _ _ _ (hcontext w { w.context with self := self, other := other })
      (htrans _ _ _ (ih hb) (hcontext _ { World.context _ with self := w.self, other := w.other }))
  | @deeper _ _ p _ w _ f _ _ hf ih =>
    obtain ⟨b, hb, rfl⟩ := Option.map_eq_some_iff.mp ha
    rw [hf]
    exact htrans _ _ _ (hcontext w { w.context with callDepth := w.callDepth + 1 })
      (htrans _ _ _ (ih hb)
        (hcontext (p b) { World.context (p b) with callDepth := (p b).callDepth - 1 }))

/-- An activity puts the context back as it was. -/
theorem context_eq (hE : ∀ w v, E w v → v.context = w.context) (hexec : exec.KeepsContext)
    (h : Activity E p w m) {a : α} (ha : m exec = some a) : (p a).context = w.context := by
  induction h with
  | done b =>
    cases ha
    rfl
  | stuck => cases ha
  | act he _ ih => exact (ih ha).trans (hE _ _ he)
  | bind _ _ ihm ihk =>
    obtain ⟨b, hb, hk⟩ := Option.bind_eq_some_iff.mp ha
    exact (ihk b hk).trans (ihm hb)
  | run code self other => exact hexec _ _ _ _ _ ha
  | @during _ _ _ _ w _ event f _ hf ih =>
    obtain ⟨b, hb, rfl⟩ := Option.map_eq_some_iff.mp ha
    have hc := ih hb
    simp only [World.context, Context.mk.injEq] at hc
    simp only [hf, World.context, hc]
  | @calling _ _ _ _ w _ self other f _ hf ih =>
    obtain ⟨b, hb, rfl⟩ := Option.map_eq_some_iff.mp ha
    have hc := ih hb
    simp only [World.context, Context.mk.injEq] at hc
    simp only [hf, World.context, hc]
  | @deeper _ _ _ _ w _ f _ _ hf ih =>
    obtain ⟨b, hb, rfl⟩ := Option.map_eq_some_iff.mp ha
    have hc := ih hb
    simp only [World.context, Context.mk.injEq] at hc
    simp only [hf, World.context, hc, Nat.add_sub_cancel]

/-- An activity takes no notice of how code would run with fewer script calls around it than the
activity has, nor deeper than script calls may be nested. -/
theorem eq_of_agree (hE : ∀ w v, E w v → v.context = w.context) (hexec : exec.KeepsContext)
    {exec' : Exec} {n : Nat}
    (hagree : ∀ v : World, n ≤ v.callDepth → v.callDepth ≤ maxCallDepth → exec v = exec' v)
    (h : Activity E p w m) (hn : n ≤ w.callDepth) (hw : w.callDepth ≤ maxCallDepth) :
    m exec = m exec' := by
  induction h with
  | done b => rfl
  | stuck => rfl
  | act he _ ih =>
    have hc : _ = _ := congrArg Context.callDepth (hE _ _ he)
    exact ih (hn.trans_eq hc.symm) (hc.trans_le hw)
  | bind hm _ ihm ihk =>
    dsimp only
    rw [← ihm hn hw]
    apply Option.bind_congr
    intro b hb
    have hc : _ = _ := congrArg Context.callDepth (hm.context_eq hE hexec hb)
    exact ihk b (hn.trans_eq hc.symm) (hc.trans_le hw)
  | run code self other => exact congrFun (congrFun (congrFun (hagree _ hn hw) code) self) other
  | during event f _ _ ih => exact congrArg (Option.map f) (ih hn hw)
  | calling self other f _ _ ih => exact congrArg (Option.map f) (ih hn hw)
  | deeper f hlt _ _ ih => exact congrArg (Option.map f) (ih (hn.trans (Nat.le_succ _)) hlt)

theorem callDepth_le_of_runsCodeIn (hE : ∀ w v, E w v → v.context = w.context)
    (h : Activity E p w m) (hw : w.callDepth ≤ maxCallDepth) {v : World} (hv : RunsCodeIn m v) :
    v.callDepth ≤ maxCallDepth := by
  obtain ⟨exec, hkeeps, hsome, hnone⟩ := hv
  by_contra hdeep
  have hagree : ∀ u : World, 0 ≤ u.callDepth → u.callDepth ≤ maxCallDepth →
      exec u = exec.refusing v u := by
    intro u _ hu
    refine (exec.refusing_of_ne ?_).symm
    rintro rfl
    exact hdeep hu
  exact hsome ((h.eq_of_agree hE hkeeps hagree (Nat.zero_le _) hw).trans hnone)

/-- What an activity comes to, it also comes to with code that comes to an end more often. -/
theorem eq_some_of_le {exec' : Exec}
    (hle : ∀ w code self other w', exec w code self other = some w' →
      exec' w code self other = some w')
    (h : Activity E p w m) {a : α} (ha : m exec = some a) : m exec' = some a := by
  induction h with
  | done b => exact ha
  | stuck => exact ha
  | act _ _ ih => exact ih ha
  | bind _ _ ihm ihk =>
    obtain ⟨b, hb, hk⟩ := Option.bind_eq_some_iff.mp ha
    exact Option.bind_eq_some_iff.mpr ⟨b, ihm hb, ihk b hk⟩
  | run code self other => exact hle _ _ _ _ _ ha
  | during event f _ _ ih =>
    obtain ⟨b, hb, rfl⟩ := Option.map_eq_some_iff.mp ha
    exact congrArg (Option.map f) (ih hb)
  | calling self other f _ _ ih =>
    obtain ⟨b, hb, rfl⟩ := Option.map_eq_some_iff.mp ha
    exact congrArg (Option.map f) (ih hb)
  | deeper f _ _ _ ih =>
    obtain ⟨b, hb, rfl⟩ := Option.map_eq_some_iff.mp ha
    exact congrArg (Option.map f) (ih hb)

/-- What an activity comes to rests on the code in those worlds alone without which it would come to
nothing. -/
theorem eq_some_of_agree {exec' : Exec} (h : Activity E p w m) {a : α} (ha : m exec = some a)
    (hagree : ∀ v, m (exec.refusing v) = none → exec v = exec' v) : m exec' = some a := by
  induction h with
  | done b => exact ha
  | stuck => exact ha
  | act _ _ ih => exact ih ha hagree
  | bind hm _ ihm ihk =>
    obtain ⟨b, hb, hk⟩ := Option.bind_eq_some_iff.mp ha
    refine Option.bind_eq_some_iff.mpr ⟨b, ihm hb fun v hv => ?_, ihk b hk fun v hv => ?_⟩
    · apply hagree v
      dsimp only
      rw [hv, Option.bind_none]
    · apply hagree v
      -- The first part comes to nothing as well, or to what it came to before.
      rw [Option.bind_eq_none_iff]
      intro c hc
      have hbc := hm.eq_some_of_le (fun _ _ _ _ _ => Exec.eq_of_refusing) hc
      rw [hb] at hbc
      cases hbc
      exact hv
  | @run w code self other =>
    dsimp only
    rw [← hagree w (exec.refusing_self w code self other)]
    exact ha
  | during event f _ _ ih =>
    obtain ⟨b, hb, rfl⟩ := Option.map_eq_some_iff.mp ha
    exact congrArg (Option.map f) (ih hb fun v hv => hagree v (congrArg (Option.map f) hv))
  | calling self other f _ _ ih =>
    obtain ⟨b, hb, rfl⟩ := Option.map_eq_some_iff.mp ha
    exact congrArg (Option.map f) (ih hb fun v hv => hagree v (congrArg (Option.map f) hv))
  | deeper f _ _ _ ih =>
    obtain ⟨b, hb, rfl⟩ := Option.map_eq_some_iff.mp ha
    exact congrArg (Option.map f) (ih hb fun v hv => hagree v (congrArg (Option.map f) hv))

/-- An activity takes notice of what code does in those worlds alone in which it runs code. -/
theorem eq_of_runsCodeIn {exec' : Exec} (h : Activity E p w m) (hexec : exec.KeepsContext)
    (hexec' : exec'.KeepsContext) (hagree : ∀ v, RunsCodeIn m v → exec v = exec' v) :
    m exec = m exec' := by
  cases ha : m exec with
  | some a =>
    refine (h.eq_some_of_agree ha fun v hv => hagree v ⟨exec, hexec, ?_, hv⟩).symm
    rw [ha]
    exact Option.some_ne_none a
  | none =>
    cases hb : m exec' with
    | none => rfl
    | some b =>
      have hcome : m exec = some b := by
        refine h.eq_some_of_agree hb fun v hv => (hagree v ⟨exec', hexec', ?_, hv⟩).symm
        rw [hb]
        exact Option.some_ne_none b
      rw [← ha, hcome]

end Laws

end Activity

end GameRunner

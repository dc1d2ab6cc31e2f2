import GameRunner.Event.Fire
import Mathlib.Tactic

/-!
# Plans of what to start

By itself the engine starts events on instances, the code with which a room is filled, and the drawing
of instances; everything else that runs is started by code. What it starts, and in which worlds, is
written down as a plan: either there is nothing more to start, or there is something to start in a
world, and then a further plan for whatever world comes back, or the engine breaks off. Between two
starts the world changes without code; which changes these are can be told of a plan, and which starts
there are.
-/

namespace GameRunner

/-- Something that the engine starts on an instance. -/
inductive Start
  | event (id : Int32) (type : Nat) (subtype : Int32) (other : Option Int32)
  | placementCode (id code : Int32)
  | roomCode (id code : Int32)
  | drawing (id object : Int32) (codes : List Int32)
  deriving Repr, DecidableEq

namespace Start

/-- The instance on which something is started. -/
def id : Start → Int32
  | event id _ _ _ => id
  | placementCode id _ => id
  | roomCode id _ => id
  | drawing id _ _ => id

def run (exec : Exec) (s : Setup) (w : World) : Start → Option World
  | event id type subtype other => w.fire exec s id type subtype other
  | placementCode id code => exec w code id none
  | roomCode id code => exec w code id none
  | drawing id object codes => w.during ⟨EventType.draw, 0, object⟩ (World.runAll exec id none codes)

end Start

/-- What is to be started one after the other, depending on the worlds that come back. -/
inductive Plan (α : Type)
  | done (a : α)
  | start (w : World) (t : Start) (next : World → Plan α)
  | broken

namespace Plan

variable {α β γ : Type}

/-- A plan that goes on with a further one. -/
def bind : Plan α → (α → Plan β) → Plan β
  | done a, k => k a
  | start w t next, k => start w t fun v => (next v).bind k
  | broken, _ => broken

instance : Monad Plan where
  pure := done
  bind := bind

theorem bind_assoc (plan : Plan α) (k : α → Plan β) (l : β → Plan γ) :
    plan >>= k >>= l = plan >>= fun a => k a >>= l := by
  induction plan with
  | done a => rfl
  | start w t next ih => exact congrArg (start w t) (funext ih)
  | broken => rfl

section Running

variable (exec : Exec) (s : Setup)

def run : Plan α → Option α
  | done a => some a
  | start w t next => (t.run exec s w).bind fun v => (next v).run
  | broken => none

/-- What is started, in order, each with the world at that moment. -/
def trace : Plan α → List (World × Start)
  | done _ => []
  | start w t next => (w, t) :: (t.run exec s w).elim [] fun v => (next v).trace
  | broken => []

@[simp] theorem run_pure (a : α) : (pure a : Plan α).run exec s = some a := rfl

@[simp] theorem trace_pure (a : α) : (pure a : Plan α).trace exec s = [] := rfl

@[simp] theorem run_bind (plan : Plan α) (k : α → Plan β) :
    (plan >>= k).run exec s = (plan.run exec s).bind fun a => (k a).run exec s := by
  induction plan with
  | done a => rfl
  | start w t next ih =>
    change ((t.run exec s w).bind fun v => (next v >>= k).run exec s) =
      ((t.run exec s w).bind fun v => (next v).run exec s).bind _
    rw [Option.bind_assoc]
    exact Option.bind_congr fun v _ => ih v
  | broken => rfl

@[simp] theorem trace_bind (plan : Plan α) (k : α → Plan β) :
    (plan >>= k).trace exec s =
      plan.trace exec s ++ (plan.run exec s).elim [] fun a => (k a).trace exec s := by
  induction plan with
  | done a => rfl
  | start w t next ih =>
    change (w, t) :: ((t.run exec s w).elim [] fun v => (next v >>= k).trace exec s) =
      (w, t) :: ((t.run exec s w).elim [] fun v => (next v).trace exec s) ++
        ((t.run exec s w).bind fun v => (next v).run exec s).elim [] _
    cases t.run exec s w with
    | none => rfl
    | some v => simp [ih]
  | broken => rfl

theorem run_start (w : World) (t : Start) : (start w t done).run exec s = t.run exec s w :=
  Option.bind_fun_some _

theorem trace_start (w : World) (t : Start) : (start w t done).trace exec s = [(w, t)] := by
  unfold trace
  cases t.run exec s w <;> rfl

theorem mem_trace_bind {exec : Exec} {s : Setup} {plan : Plan α} {k : α → Plan β}
    {x : World × Start} : x ∈ (plan >>= k).trace exec s ↔
      x ∈ plan.trace exec s ∨ ∃ a, plan.run exec s = some a ∧ x ∈ (k a).trace exec s := by
  rw [trace_bind, List.mem_append]
  cases plan.run exec s <;> simp

theorem run_foldlM (visit : World → γ → Plan World) (l : List γ) (w : World) :
    (l.foldlM visit w).run exec s = l.foldlM (fun w c => (visit w c).run exec s) w := by
  induction l generalizing w with
  | nil => rfl
  | cons c rest ih =>
    rw [List.foldlM_cons, run_bind, List.foldlM_cons]
    exact Option.bind_congr fun v _ => ih v

/-- The visits to the members of a list, each with the world in which it comes. After one that has no
result there are no further ones. -/
def visits (visit : World → γ → Plan World) : List γ → World → List (World × γ)
  | [], _ => []
  | c :: rest, w => (w, c) :: ((visit w c).run exec s).elim [] (visits visit rest)

theorem trace_foldlM (visit : World → γ → Plan World) (l : List γ) (w : World) :
    (l.foldlM visit w).trace exec s =
      (visits exec s visit l w).flatMap fun v => (visit v.1 v.2).trace exec s := by
  induction l generalizing w with
  | nil => rfl
  | cons c rest ih =>
    rw [List.foldlM_cons, trace_bind, visits, List.flatMap_cons]
    cases (visit w c).run exec s with
    | none => rfl
    | some v => exact congrArg ((visit w c).trace exec s ++ ·) (ih v)

/-- If every visit starts something at once or does nothing at all, then the first thing that is
started is started in the first world. -/
theorem head?_trace_foldlM {visit : World → γ → Plan World}
    (h : ∀ w c, visit w c = done w ∨ ∃ t next, visit w c = start w t next) (l : List γ) (w : World)
    {x : World × Start} (hx : ((l.foldlM visit w).trace exec s).head? = some x) : x.1 = w := by
  induction l generalizing w with
  | nil => cases hx
  | cons c rest ih =>
    rw [List.foldlM_cons, trace_bind] at hx
    rcases h w c with hvisit | ⟨t, next, hvisit⟩
    · exact ih w (by simpa [hvisit, trace, run] using hx)
    · rw [hvisit, trace, List.cons_append, List.head?_cons, Option.some_inj] at hx
      exact hx ▸ rfl

theorem visits_isPrefix (visit : World → γ → Plan World) (l : List γ) (w : World) :
    (visits exec s visit l w).map Prod.snd <+: l := by
  induction l generalizing w with
  | nil => exact List.nil_prefix
  | cons c rest ih =>
    rw [visits, List.map_cons, List.prefix_cons_inj]
    cases (visit w c).run exec s with
    | none => exact List.nil_prefix
    | some v => exact ih v

end Running

/-! ### What can be said of a plan -/

/-- Whatever code does, a condition holds of everything that is started, and the engine does not break
off. -/
def Starts (P : World → Start → Prop) : Plan α → Prop
  | done _ => True
  | start w t next => P w t ∧ ∀ v, (next v).Starts P
  | broken => False

/-- A relation holds of all changes that are not made by code: from a world to the first start, from
the end of what was started to the next start, and at last to the result. -/
def OwnChanges (exec : Exec) (s : Setup) (R : World → World → Prop) (p : α → World) :
    World → Plan α → Prop
  | w, done a => R w (p a)
  | w, start u t next => R w u ∧ ∀ v, t.run exec s u = some v → (next v).OwnChanges exec s R p v
  | _, broken => True

section Starting

variable {P : World → Start → Prop}

theorem Starts.of_mem_trace {exec : Exec} {s : Setup} {plan : Plan α} (h : plan.Starts P)
    {x : World × Start} (hx : x ∈ plan.trace exec s) : P x.1 x.2 := by
  induction plan with
  | done a => cases hx
  | start w t next ih =>
    rcases List.mem_cons.mp hx with rfl | hx
    · exact h.1
    · cases hrun : t.run exec s w with
      | none => simp [hrun] at hx
      | some v => exact ih v (h.2 v) (by simpa [hrun] using hx)
  | broken => exact h.elim

theorem Starts.pure (a : α) : (pure a : Plan α).Starts P := trivial

theorem Starts.single {w : World} {t : Start} (h : P w t) : (start w t done).Starts P :=
  ⟨h, fun _ => trivial⟩

theorem Starts.bind {plan : Plan α} {k : α → Plan β} (h : plan.Starts P)
    (hk : ∀ a, (k a).Starts P) : (plan >>= k).Starts P := by
  induction plan with
  | done a => exact hk a
  | start w t next ih => exact ⟨h.1, fun v => ih v (h.2 v)⟩
  | broken => exact h

theorem Starts.foldlM {visit : World → γ → Plan World} (h : ∀ w c, (visit w c).Starts P)
    (l : List γ) (w : World) : (l.foldlM visit w).Starts P := by
  induction l generalizing w with
  | nil => exact .pure w
  | cons c rest ih => exact .bind (h w c) ih

end Starting

section Changing

variable {exec : Exec} {s : Setup} {R : World → World → Prop} {p : α → World} {q : β → World}
  {w v : World}

theorem OwnChanges.before (htrans : ∀ w v u, R w v → R v u → R w u) {plan : Plan α} (hwv : R w v)
    (h : plan.OwnChanges exec s R p v) : plan.OwnChanges exec s R p w := by
  cases plan with
  | done a => exact htrans _ _ _ hwv h
  | start u t next => exact ⟨htrans _ _ _ hwv h.1, h.2⟩
  | broken => trivial

theorem OwnChanges.mono {R' : World → World → Prop} (hR : ∀ w v, R w v → R' w v) {plan : Plan α}
    (h : plan.OwnChanges exec s R p w) : plan.OwnChanges exec s R' p w := by
  induction plan generalizing w with
  | done a => exact hR _ _ h
  | start u t next ih => exact ⟨hR _ _ h.1, fun v hv => ih v (h.2 v hv)⟩
  | broken => trivial

/-- What holds before every change, whether code makes it or not, holds after it. -/
theorem OwnChanges.invariant {I : World → Prop} (hown : ∀ w v, R w v → I w → I v)
    (hcode : ∀ (t : Start) u v, t.run exec s u = some v → I u → I v) {plan : Plan α}
    (h : plan.OwnChanges exec s R p w) (hw : I w) :
    plan.OwnChanges exec s (fun w v => I w ∧ R w v) p w := by
  induction plan generalizing w with
  | done a => exact ⟨hw, h⟩
  | start u t next ih =>
    have hu : I u := hown w u h.1 hw
    exact ⟨⟨hw, h.1⟩, fun v hv => ih v (h.2 v hv) (hcode t u v hv hu)⟩
  | broken => trivial

theorem OwnChanges.bind (htrans : ∀ w v u, R w v → R v u → R w u) {plan : Plan α}
    {k : α → Plan β} (h : plan.OwnChanges exec s R p w)
    (hk : ∀ a, plan.run exec s = some a → (k a).OwnChanges exec s R q (p a)) :
    (plan >>= k).OwnChanges exec s R q w := by
  induction plan generalizing w with
  | done a => exact .before htrans h (hk a rfl)
  | start u t next ih =>
    refine ⟨h.1, fun v hv => ih v (h.2 v hv) fun a ha => hk a ?_⟩
    rw [run, hv]
    exact ha
  | broken => trivial

theorem OwnChanges.foldlM (hrefl : ∀ w, R w w) (htrans : ∀ w v u, R w v → R v u → R w u)
    {visit : World → γ → Plan World} (h : ∀ w c, (visit w c).OwnChanges exec s R id w)
    (l : List γ) (w : World) : (l.foldlM visit w).OwnChanges exec s R id w := by
  induction l generalizing w with
  | nil => exact hrefl w
  | cons c rest ih => exact .bind htrans (h w c) fun v _ => ih v

/-- A relation that holds of all changes of a run, whether code makes them or not, holds between the
first world and each later one. -/
theorem OwnChanges.moments_of_trace (htrans : ∀ w v u, R w v → R v u → R w u) {plan : Plan α}
    (hcode : ∀ x ∈ plan.trace exec s, ∀ v, x.2.run exec s x.1 = some v → R x.1 v)
    (h : plan.OwnChanges exec s R p w) :
    (∀ x ∈ plan.trace exec s, R w x.1) ∧ ∀ a, plan.run exec s = some a → R w (p a) := by
  induction plan generalizing w with
  | done a =>
    refine ⟨fun x hx => ?_, fun b hb => ?_⟩
    · cases hx
    · cases hb
      exact h
  | start u t next ih =>
    obtain ⟨hwu, hnext⟩ := h
    cases hrun : t.run exec s u with
    | none => simp [trace, run, hrun, hwu]
    | some v =>
      have hwv : R w v := htrans _ _ _ hwu (hcode (u, t) List.mem_cons_self v hrun)
      have hlater : ∀ x ∈ (next v).trace exec s, x ∈ (start u t next).trace exec s := by
        intro x hx
        rw [trace, hrun]
        exact List.mem_cons_of_mem _ hx
      obtain ⟨hmoments, hend⟩ := ih v (fun x hx => hcode x (hlater x hx)) (hnext v hrun)
      refine ⟨fun x hx => ?_, fun a ha => ?_⟩
      · simp only [trace, hrun, Option.elim_some, List.mem_cons] at hx
        rcases hx with rfl | hx
        · exact hwu
        · exact htrans _ _ _ hwv (hmoments x hx)
      · simp only [run, hrun, Option.bind_some] at ha
        exact htrans _ _ _ hwv (hend a ha)
  | broken =>
    refine ⟨fun x hx => ?_, fun a ha => ?_⟩
    · cases hx
    · cases ha

/-- A relation that holds of all changes, whether code makes them or not, holds between the first
world and each later one. -/
theorem OwnChanges.moments (htrans : ∀ w v u, R w v → R v u → R w u)
    (hcode : ∀ (t : Start) u v, t.run exec s u = some v → R u v) {plan : Plan α}
    (h : plan.OwnChanges exec s R p w) :
    (∀ x ∈ plan.trace exec s, R w x.1) ∧ ∀ a, plan.run exec s = some a → R w (p a) :=
  h.moments_of_trace htrans fun x _ => hcode x.2 x.1

end Changing

end Plan

end GameRunner

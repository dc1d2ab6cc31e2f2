import GameRunner.Proofs.Machine.FrameLaw
import GameRunner.Proofs.Play.Moments
import GameRunner.Proofs.World.Selection

/-!
# The arguments of a script

A script sees its arguments as variables of the instance that it runs on. They are bound when its code
starts, and when it is over the variables of these names hold again what they held before, or are
missing again, whatever code has done to them meanwhile. Scripts that a script runs on the same
instance do the same for theirs, so that every script finds its own arguments again after a call.
-/

namespace GameRunner

theorem Dict.get?_put {κ : Type*} {α : Type*} [DecidableEq κ] (d : Dict κ α) (k k' : κ)
    (a : Option α) : (d.put k a).get? k' = if k' = k then a else d.get? k' := by
  cases a with
  | none => exact d.get?_erase k k'
  | some a => exact d.get?_insert k k' a

namespace World

/-- The name of the variable for an argument. -/
def argumentName (k : Nat) : String := s!"argument{k}"

/-- The names of the variables through which a script sees a number of arguments. -/
def argumentNames (count : Nat) : List String :=
  (List.range count).map argumentName ++ ["argument_count", "argument"]

theorem toList_argumentName (k : Nat) :
    (argumentName k).toList = "argument".toList ++ Nat.toDigits 10 k := by
  have hname : argumentName k = "argument" ++ toString k := rfl
  rw [hname, String.toList_append, Nat.toString_eq_repr, Nat.toList_repr]

theorem argumentName_injective : Function.Injective argumentName := by
  intro k l h
  have hlist := congrArg String.toList h
  rw [toList_argumentName, toList_argumentName, List.append_cancel_left_eq] at hlist
  rw [← Nat.ofDigitChars_ten_toDigits (n := k), hlist, Nat.ofDigitChars_ten_toDigits]

theorem argumentName_ne_argument (k : Nat) : argumentName k ≠ "argument" := by
  intro h
  have hlist := congrArg String.toList h
  rw [toList_argumentName, List.append_right_eq_self] at hlist
  exact Nat.toDigits_ne_nil hlist

theorem argumentName_ne_count (k : Nat) : argumentName k ≠ "argument_count" := by
  intro h
  have hlist := congrArg String.toList h
  have hcount : "argument_count".toList = "argument".toList ++ "_count".toList := by decide
  rw [toList_argumentName, hcount, List.append_cancel_left_eq] at hlist
  exact Nat.underscore_not_in_toDigits (n := k) (hlist ▸ by decide)

theorem nodup_argumentNames (count : Nat) : (argumentNames count).Nodup := by
  refine List.nodup_append.mpr ⟨List.nodup_range.map argumentName_injective, by decide, ?_⟩
  intro name hname other hother
  obtain ⟨k, -, rfl⟩ := List.mem_map.mp hname
  rcases List.mem_pair.mp hother with rfl | rfl
  · exact argumentName_ne_count k
  · exact argumentName_ne_argument k

theorem map_fst_bindings (args : List Value) :
    (bindings args).map Prod.fst = argumentNames args.length := by
  have hnumbered : (args.zipIdx.map fun a => (argumentName a.2, a.1)).map Prod.fst =
      (List.range args.length).map argumentName := by
    rw [List.map_map, List.range_eq_range', ← List.zipIdx_map_snd 0 args, List.map_map]
    rfl
  exact (List.map_append ..).trans (congrArg (· ++ _) hnumbered)

section Variables

variable {l : List (String × Value)} {d before : Dict String Value} {name : String}

theorem get?_bind_of_notMem (h : name ∉ l.map Prod.fst) : (bind l d).get? name = d.get? name := by
  induction l generalizing d with
  | nil => rfl
  | cons b rest ih =>
    simp only [List.map_cons, List.mem_cons, not_or] at h
    refine (ih (d := d.insert b.1 b.2) h.2).trans ?_
    rw [Dict.get?_insert, if_neg h.1]

theorem get?_bind_of_mem (hnodup : (l.map Prod.fst).Nodup) {b : String × Value} (h : b ∈ l) :
    (bind l d).get? b.1 = some b.2 := by
  induction l generalizing d with
  | nil => cases h
  | cons c rest ih =>
    simp only [List.map_cons, List.nodup_cons] at hnodup
    rcases List.mem_cons.mp h with rfl | hrest
    · refine (get?_bind_of_notMem (d := d.insert b.1 b.2) hnodup.1).trans ?_
      rw [Dict.get?_insert, if_pos rfl]
    · exact ih (d := d.insert c.1 c.2) hnodup.2 hrest

/-- Giving back what was saved makes the saved names what they were and leaves all others alone. -/
theorem get?_restore_saved (names : List String) (before d : Dict String Value) (name : String) :
    (restore (saved names before) d).get? name =
      if name ∈ names then before.get? name else d.get? name := by
  induction names generalizing d with
  | nil => rfl
  | cons k rest ih =>
    refine (ih (d.put k (before.get? k))).trans ?_
    rw [Dict.get?_put]
    by_cases hrest : name ∈ rest
    · rw [if_pos hrest, if_pos (List.mem_cons_of_mem k hrest)]
    · rw [if_neg hrest]
      by_cases hk : name = k
      · subst hk
        rw [if_pos rfl, if_pos List.mem_cons_self]
      · rw [if_neg hk, if_neg]
        exact fun h => (List.mem_cons.mp h).elim hk hrest

end Variables

/-- An instance has the variables of a script's arguments, and all others as they were. -/
structure Bound (args : List Value) (before i : Instance) : Prop where
  argument (k : Nat) (h : k < args.length) : i.vars.get? (argumentName k) = some args[k]
  count : i.vars.get? "argument_count" = some (.ofNat args.length)
  array : i.vars.get? "argument" = some (.ofList args)
  others (name : String) : name ∉ argumentNames args.length →
    i.vars.get? name = before.vars.get? name

theorem bound_givenArguments (args : List Value) (i : Instance) :
    Bound args i (givenArguments args i) := by
  have hnodup : ((bindings args).map Prod.fst).Nodup := by
    rw [map_fst_bindings]
    exact nodup_argumentNames args.length
  have hget {b : String × Value} (h : b ∈ bindings args) :
      (givenArguments args i).vars.get? b.1 = some b.2 := get?_bind_of_mem hnodup h
  constructor
  · intro k hk
    refine hget (b := (argumentName k, args[k])) (List.mem_append_left _ ?_)
    exact List.mem_map.mpr ⟨(args[k], k), List.mk_mem_zipIdx_iff_getElem?.mpr
      (List.getElem?_eq_getElem hk), rfl⟩
  · exact hget (b := ("argument_count", _)) (List.mem_append_right _ List.mem_cons_self)
  · exact hget (b := ("argument", _))
      (List.mem_append_right _ (List.mem_cons_of_mem _ List.mem_cons_self))
  · intro name hname
    apply get?_bind_of_notMem
    rwa [map_fst_bindings]

/-! ### What a script leaves behind -/

section Scripts

variable {exec : Exec} {w v : World} {code self other : Int32} {args : List Value} {x : Value}

/-- The world in which the code of a script starts. -/
def entering (w : World) (self : Int32) (args : List Value) : World :=
  (w.modify self (givenArguments args)).descend

/-- A script that comes to a value has run its code on an instance and given it back its variables. -/
theorem callScript_eq_ok (h : w.callScript exec code args self other = some (.ok x, v)) :
    ∃ i after, w.callDepth < maxCallDepth ∧ w.instance? self = some i ∧
      exec (w.entering self args) code self (some other) = some after ∧
      scriptOutcome self (saved (argumentNames args.length) i.vars) after.ascend = (.ok x, v) := by
  by_cases hdepth : w.callDepth < maxCallDepth
  · cases hi : w.instance? self with
    | none => simp [callScript, Nat.not_le.mpr hdepth, hi] at h
    | some i =>
      rw [callScript_eq hdepth hi, map_fst_bindings] at h
      obtain ⟨after, hafter, hout⟩ := Option.map_eq_some_iff.mp h
      exact ⟨i, after, hdepth, rfl, hafter, hout⟩
  · simp [callScript, Nat.not_lt.mp hdepth] at h

/-- The code of a script starts in one world only. -/
theorem runsCodeIn_callScript {i : Instance} (hdepth : w.callDepth < maxCallDepth)
    (hi : w.instance? self = some i) (u : World) :
    RunsCodeIn (fun exec => w.callScript exec code args self other) u ↔
      u = w.entering self args := by
  have hcall (exec : Exec) : w.callScript exec code args self other =
      (exec (w.entering self args) code self (some other)).map fun after =>
        scriptOutcome self (saved ((bindings args).map Prod.fst) i.vars) after.ascend :=
    callScript_eq hdepth hi exec code args other
  constructor
  · rintro ⟨exec, -, hsome, hnone⟩
    by_contra hne
    dsimp only at hsome hnone
    rw [hcall, exec.refusing_of_ne (Ne.symm hne), ← hcall] at hnone
    exact hsome hnone
  · rintro rfl
    refine ⟨fun w _ _ _ => some w, fun _ _ _ _ _ h => by cases h; rfl, ?_, ?_⟩
    · simp [hcall]
    · simp [hcall]

/-- The instance on which code runs is still there when the code is over. -/
theorem exists_instance?_of_progresses (h : w.Progresses v) {i : Instance}
    (hi : w.instance? self = some i) : ∃ j, v.instance? self = some j := by
  obtain rfl : i.id = self := Roster.id_of_get? hi
  have hmem : i.id ∈ w.instances.ids := List.mem_map_of_mem (List.mem_of_find?_eq_some hi)
  obtain ⟨j, hj, hid⟩ := List.mem_map.mp (h.ids.subset hmem)
  exact ⟨j, hid ▸ instance?_of_mem hj⟩

theorem instance?_modify_self {i : Instance} {f : Instance → Instance}
    (hi : w.instance? self = some i) (hf : (f i).id = i.id) :
    (w.modify self f).instance? self = some (f i) := by
  rw [instance?_modify, if_pos rfl, hi, ← Roster.id_of_get? hi, ← hf]
  rfl

end Scripts

end World

open World in
/-- A script that comes to a value starts its code in one world only, where the variables for the
arguments are bound to them and there is no returned value. When it is over, each of these variables is
what it was before the call, or is missing as it was before, and there is no returned value again. All
other variables are as the code has left them. The instance is there all the time, even if it has been
destroyed. -/
theorem callScript_restores_arguments {s : Setup} {depth : Nat} {w v : World}
    {code self other : Int32} {args : List Value} {x : Value}
    (h : w.callScript (Machine.execute s depth) code args self other = some (.ok x, v)) :
    ∃ start after i started left j,
      (∀ u, RunsCodeIn (fun exec => w.callScript exec code args self other) u ↔ u = start) ∧
      Machine.execute s depth start code self (some other) = some after ∧
      w.instance? self = some i ∧ start.instance? self = some started ∧
      after.instance? self = some left ∧ v.instance? self = some j ∧
      Bound args i started ∧ started.returned = none ∧
      (∀ name ∈ argumentNames args.length, j.vars.get? name = i.vars.get? name) ∧
      (∀ name ∉ argumentNames args.length, j.vars.get? name = left.vars.get? name) ∧
      j.returned = none ∧ j.destroyed = left.destroyed := by
  obtain ⟨i, after, hdepth, hi, hafter, hout⟩ := callScript_eq_ok h
  have hstarted : (w.entering self args).instance? self = some (givenArguments args i) :=
    instance?_modify_self hi rfl
  have hprogress := Machine.progresses_execute s depth _ _ _ _ _ hafter
  obtain ⟨left, hleft⟩ := exists_instance?_of_progresses hprogress hstarted
  have hascended : after.ascend.instance? self = some left := hleft
  simp only [scriptOutcome, hascended, Prod.mk.injEq] at hout
  obtain ⟨-, rfl⟩ := hout
  have hj := instance?_modify_self (f := givenBack (saved (argumentNames args.length) i.vars))
    hascended rfl
  have hvars (name : String) := get?_restore_saved (argumentNames args.length) i.vars left.vars name
  refine ⟨_, after, i, _, left, _, runsCodeIn_callScript hdepth hi, hafter, hi, hstarted, hleft, hj,
    bound_givenArguments args i, rfl, ?_, ?_, rfl, rfl⟩
  · intro name hname
    exact (hvars name).trans (if_pos hname)
  · intro name hname
    exact (hvars name).trans (if_neg hname)

/-- The first script writes its first argument, runs the second one on the same instance with two
arguments and destroys the instance. The second script writes its second argument. -/
def spoilingSetup : Setup where
  game :=
    { strings := #["spoilt", "left", "right"]
      variableTable := #[⟨"argument0", -1, 0, 0, 0⟩, ⟨"argument1", -1, 1, 0, 0⟩]
      functionTable := #[⟨"inner", 1, 0⟩, ⟨"instance_destroy", 1, 0⟩] }
  program :=
    { code := #[
        ⟨#[(Statement.pushString 0).instruction 0,
          { (Statement.popVar Selector.self 0).instruction 8 with variableIndex := 0 },
          (Statement.pushString 2).instruction 16, (Statement.pushString 1).instruction 24,
          { (Statement.call 0 2).instruction 32 with functionIndex := 0 },
          Statement.popz.instruction 40,
          { (Statement.call 1 0).instruction 44 with functionIndex := 1 },
          Statement.ret.instruction 52]⟩,
        ⟨#[(Statement.pushString 0).instruction 0,
          { (Statement.popVar Selector.self 1).instruction 8 with variableIndex := 1 }]⟩]
      references := ⟨[], []⟩
      scripts := .ofList [("outer", 0), ("inner", 1)] }
  settings := {}

/-- An instance with a variable that has the name of an argument. -/
def spoilingWorld : World where
  instances :=
    ⟨[{ Instance.create 100001 3 0 0 with vars := .ofList [("argument0", .str "mine")] }],
      by decide⟩
  nextId := 100002
  generator := .ofSeed 1

open World in
/-- A script that is called with one argument spoils it and calls another one with two. Afterwards the
instance is destroyed and has its own variable again, and the second argument is missing as before. -/
theorem callScript_restores_arguments_spoiling :
    let exec := Machine.execute spoilingSetup 2
    ∃ x v j, spoilingWorld.callScript exec 0 [.str "given"] 100001 100001 = some (.ok x, v) ∧
      v.instance? 100001 = some j ∧ j.destroyed = true ∧ j.returned = none ∧
      j.vars.get? "argument0" = some (.str "mine") ∧ j.vars.get? "argument1" = none ∧
      j.vars.get? "argument_count" = none := by
  intro exec
  have hends : ((spoilingWorld.callScript exec 0 [.str "given"] 100001 100001).map fun r =>
      (r.1.isOk, (r.2.instance? 100001).map fun j =>
        (j.destroyed, (j.vars.get? "argument1").isSome))) = some (true, some (true, false)) := by
    decide +kernel
  obtain ⟨⟨outcome, v⟩, hcall, hends⟩ := Option.map_eq_some_iff.mp hends
  cases outcome with
  | error fault => cases hends
  | ok x =>
    obtain ⟨start, after, i, started, left, j, -, -, hi, -, -, hj, -, -, hnames, -, hreturned, -⟩ :=
      callScript_restores_arguments hcall
    have hbefore : spoilingWorld.instance? 100001 = spoilingWorld.instances.toList.head? := rfl
    rw [hbefore] at hi
    cases hi
    simp only [hj, Option.map_some, Prod.mk.injEq, Option.some_inj] at hends
    obtain ⟨-, hdestroyed, hmissing⟩ := hends
    exact ⟨x, v, j, hcall, hj, hdestroyed, hreturned, hnames "argument0" (by decide +kernel),
      by simpa using hmissing, hnames "argument_count" (by decide +kernel)⟩

end GameRunner

import GameRunner.Play.Engine
import GameRunner.Proofs.Machine.Faults

/-!
# Scripts that are run by number

To run a script by its number is to call a function by the script's name. So it is the script with
that number that runs only if no library function has this name and no later script has it with other
code. Besides, the instance that was the other one is forgotten: the script finds its own instance in
that place.
-/

namespace GameRunner

/-- Of the values that are stored under a key one after the other, the last one stays. -/
theorem Dict.get?_ofList {κ : Type*} {α : Type*} [DecidableEq κ] (l : List (κ × α)) (k : κ) :
    (Dict.ofList l).get? k = (l.filter fun e => e.1 = k).getLast?.map Prod.snd := by
  have hfold (l : List (κ × α)) (d : Dict κ α) :
      (l.foldl (fun d e => d.insert e.1 e.2) d).get? k =
        ((l.filter fun e => e.1 = k).getLast?.map Prod.snd).or (d.get? k) := by
    induction l generalizing d with
    | nil => rfl
    | cons e rest ih =>
      rw [List.foldl_cons, ih, Dict.get?_insert]
      by_cases he : e.1 = k
      · rw [if_pos he.symm, List.filter_cons_of_pos (by simpa using he)]
        cases hrest : (rest.filter fun e => e.1 = k).getLast? with
        | none => simp [List.getLast?_eq_none_iff.mp hrest]
        | some last => simp [List.getLast?_cons, hrest]
      · rw [if_neg (Ne.symm he), List.filter_cons_of_neg (by simpa using he)]
  exact (hfold l .empty).trans (Option.or_none)

namespace Game

/-- The scripts with a name, in the order of their numbers. -/
def scriptsNamed (g : Game) (name : String) : List Script :=
  g.scripts.toList.filter fun script => script.name = name

variable {g : Game} {index : Int32} {script : Script}

/-- Among the scripts with the name of a script are this one and the later ones with its name. -/
theorem scriptsNamed_eq (h : tableAt? g.scripts index = some script) :
    ∃ earlier, g.scriptsNamed script.name = earlier ++ script ::
      (g.scripts.toList.drop (index.toInt.toNat + 1)).filter fun t => t.name = script.name := by
  unfold tableAt? at h
  split_ifs at h with hindex
  have hlist : g.scripts.toList[index.toInt.toNat]? = some script := by
    rw [Array.getElem?_toList]
    exact h
  obtain ⟨hlt, hget⟩ := List.getElem?_eq_some_iff.mp hlist
  refine ⟨(g.scripts.toList.take index.toInt.toNat).filter fun t => t.name = script.name, ?_⟩
  unfold scriptsNamed
  conv_lhs => rw [← List.take_append_drop index.toInt.toNat g.scripts.toList,
    List.drop_eq_getElem_cons hlt, hget]
  rw [List.filter_append, List.filter_cons_of_pos (by simp)]

end Game

theorem Program.scriptCode?_ofGame (g : Game) (name : String) :
    (Program.ofGame g).scriptCode? name = (g.scriptsNamed name).getLast?.map (·.code) := by
  change (Dict.ofList (g.scripts.toList.map fun s => (s.name, s.code))).get? name = _
  rw [Dict.get?_ofList, List.filter_map, List.getLast?_map, Option.map_map]
  rfl

namespace World

variable {exec : Exec} {s : Setup} {w : World} {args : List Value} {self other : Int32}

/-- What a name means when it is called: a library function or else a script. -/
def body (exec : Exec) (s : Setup) (name : String) (args : List Value) (self other : Int32)
    (w : World) : CallResult :=
  match Builtin.named? name with
  | some b => w.callBuiltin exec s b args
  | none =>
    match s.program.scriptCode? name with
    | some code => w.callScript exec code args self other
    | none => some (.ok .zero, w.reportUnknown name args.length)

theorem call_eq (exec : Exec) (s : Setup) (w : World) (name : String) (args : List Value)
    (self other : Int32) :
    w.call exec s name args self other =
      (w.reportCall s name args self).asCaller self other (body exec s name args self other) := by
  unfold call
  congr 1
  funext u
  unfold body
  cases Builtin.named? name with
  | none => rfl
  | some b => cases b <;> rfl

/-- To run a script by number is to call what its name means on behalf of the calling instance, which
is the other one as well. Apart from that, calls are reported. -/
theorem exists_call_runScript {index : Value} {script : Script}
    (hscript : tableAt? s.game.scripts index.toInt = some script) :
    ∃ u, w.OnlyReports u ∧
      w.call exec s "script_execute" (index :: args) self other =
        u.asCaller self self (body exec s script.name args self self) := by
  obtain ⟨lines, hreport⟩ : w.OnlyReports (w.reportCall s "script_execute" (index :: args) self) :=
    .reportCall ..
  let inner : World := { w.reportCall s "script_execute" (index :: args) self with
    self := some self
    other := some other }
  obtain ⟨lines', hreport'⟩ : inner.OnlyReports (inner.reportCall s script.name args self) :=
    .reportCall ..
  have htarget : inner.scriptTarget? s index.toInt = some (script.name, self) := by
    simp [inner, scriptTarget?, hscript]
  have hbody : body exec s "script_execute" (index :: args) self other inner =
      inner.call exec s script.name args self self := by
    have hnamed : Builtin.named? "script_execute" = some .runScript := rfl
    simp only [body, hnamed, callBuiltin, htarget]
  refine ⟨{ w with journal :=
    { w.journal with latest := lines' ++ (lines ++ w.journal.latest) } }, ⟨lines' ++ lines, ?_⟩, ?_⟩
  · simp only [List.append_assoc]
  · rw [call_eq, asCaller, hbody, call_eq, hreport']
    unfold asCaller
    simp only [inner, hreport, Option.map_map]
    rfl

end World

open World in
/-- If there is a script with a number, running it by number calls what the name of the script means,
on behalf of the calling instance for both parts, and differs from that call in nothing but reports. If
the name is that of a library function, this function is what runs. Else it is the last script of that
name. So the script with that number is run as if it had been called directly if its name is not that
of a library function, all later scripts of the same name have the same code, and the other instance is
the calling one. -/
theorem script_by_number (game : Game) (settings : Settings) {index : Value} {script : Script}
    (hscript : tableAt? game.scripts index.toInt = some script) (exec : Exec) (w : World)
    (args : List Value) (self other : Int32) :
    let s := Setup.ofGame game settings
    let result := w.call exec s "script_execute" (index :: args) self other
    ∃ u, w.OnlyReports u ∧
      (∀ b, Builtin.named? script.name = some b →
        result = u.asCaller self self fun w => w.callBuiltin exec s b args) ∧
      (Builtin.named? script.name = none →
        (∃ last, (game.scriptsNamed script.name).getLast? = some last ∧
          result = u.asCaller self self fun w => w.callScript exec last.code args self self) ∧
        ((∀ t ∈ game.scripts.toList.drop (index.toInt.toInt.toNat + 1),
            t.name = script.name → t.code = script.code) →
          other = self →
          result = u.asCaller self other fun w =>
            w.callScript exec script.code args self other)) := by
  intro s result
  obtain ⟨u, hu, hresult⟩ : ∃ u, w.OnlyReports u ∧
      result = u.asCaller self self (body exec s script.name args self self) :=
    exists_call_runScript hscript
  obtain ⟨earlier, hnames⟩ := Game.scriptsNamed_eq hscript
  refine ⟨u, hu, ?_, ?_⟩
  · intro b hb
    rw [hresult]
    unfold body
    rw [hb]
  · intro hb
    have hlast (last : Script) (h : (game.scriptsNamed script.name).getLast? = some last) :
        result = u.asCaller self self fun w => w.callScript exec last.code args self self := by
      have hcode : s.program.scriptCode? script.name = some last.code := by
        refine (Program.scriptCode?_ofGame game script.name).trans ?_
        rw [h]
        rfl
      rw [hresult]
      unfold body
      rw [hb, hcode]
    obtain ⟨last, hmem, hfinal⟩ : ∃ last, last ∈ script ::
        (game.scripts.toList.drop (index.toInt.toInt.toNat + 1)).filter
          (fun t => t.name = script.name) ∧
        (game.scriptsNamed script.name).getLast? = some last := by
      refine ⟨_, List.getLast_mem (List.cons_ne_nil _ _), ?_⟩
      rw [hnames, List.getLast?_append, List.getLast?_eq_some_getLast (List.cons_ne_nil _ _)]
      rfl
    refine ⟨⟨last, hfinal, hlast last hfinal⟩, ?_⟩
    rintro hlater rfl
    have hcode : last.code = script.code := by
      rcases List.mem_cons.mp hmem with rfl | hmem
      · rfl
      · obtain ⟨hmem, hname⟩ := List.mem_filter.mp hmem
        exact hlater last hmem (by simpa using hname)
    rw [← hcode]
    exact hlast last hfinal

/-- The first script has the name of a library function, the second and the third one share a name, and
the fourth one tells whether there is another instance. -/
def impostorSetup : Setup :=
  .ofGame
    { strings := #["own", "second", "third", "company", "alone"]
      code := #[
        { bytes := (Assembly.ofList [.pushString 0, .ret]).bytes },
        { offset := 16, bytes := (Assembly.ofList [.pushString 1, .ret]).bytes },
        { offset := 32, bytes := (Assembly.ofList [.pushString 2, .ret]).bytes },
        { offset := 48
          bytes := (Assembly.ofList [.pushImmediate (-2), .branch .pushenv 4, .pushString 3, .ret,
            .branch .popenv (-3), .pushString 4, .ret]).bytes }]
      scripts := #[⟨"string_upper", 0⟩, ⟨"twin", 1⟩, ⟨"twin", 2⟩, ⟨"company", 3⟩] }
    {}

/-- A single instance. -/
def impostorWorld : World where
  instances := ⟨[.create 100001 3 0 0], by decide⟩
  nextId := 100002
  generator := .ofSeed 1

/-- The third script is the last one of its name, and on behalf of one instance it is run by its number
as if it had been called directly. -/
theorem script_by_number_twin :
    let exec := Machine.execute impostorSetup 2
    tableAt? impostorSetup.game.scripts (Value.ofInt 2).toInt = some ⟨"twin", 2⟩ ∧
      ∃ u, impostorWorld.OnlyReports u ∧
        impostorWorld.call exec impostorSetup "script_execute" [.ofInt 2] 100001 100001 =
          u.asCaller 100001 100001 fun w => w.callScript exec 2 [] 100001 100001 := by
  intro exec
  have hscript : tableAt? impostorSetup.game.scripts (Value.ofInt 2).toInt = some ⟨"twin", 2⟩ := by
    decide +kernel
  obtain ⟨u, hu, -, hdirect⟩ :=
    script_by_number impostorSetup.game {} hscript exec impostorWorld [] 100001 100001
  obtain ⟨-, hagrees⟩ := hdirect rfl
  exact ⟨hscript, u, hu, hagrees (by decide +kernel) rfl⟩

/-- The text of the value that a call comes to. -/
def World.answer? (r : World.CallResult) : Option String :=
  r.bind fun r => r.1.toOption.map Value.toText

/-- Run by number, the first script gives way to the library function of its name, the second one to
the third one, and the fourth one finds its own instance in the place of the other one, which is not
there. Called directly, each of them does what it says. -/
theorem script_by_number_differs :
    let exec := Machine.execute impostorSetup 2
    let byNumber (n : Int32) : World.CallResult :=
      impostorWorld.call exec impostorSetup "script_execute" [.ofInt n, .str "a"] 100001 100002
    let direct (n : Int32) : World.CallResult :=
      impostorWorld.callScript exec n [.str "a"] 100001 100002
    impostorSetup.game.scripts.toList.map (·.code) = [0, 1, 2, 3] ∧
      [0, 1, 3].map (fun n => World.answer? (byNumber n)) =
        [some "A", some "third", some "company"] ∧
      [0, 1, 3].map (fun n => World.answer? (direct n)) =
        [some "own", some "second", some "alone"] := by
  decide +kernel

end GameRunner

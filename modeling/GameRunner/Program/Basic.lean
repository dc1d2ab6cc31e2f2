import GameRunner.Dict
import GameRunner.Program.References

/-!
# Programs

A program is the code of a game made ready to run: every entry decoded and linked, and scripts found
by name. Of two scripts with one name the later is meant.
-/

namespace GameRunner

/-- Decoded and linked code. -/
structure Program where
  code : Array Code
  references : References
  scripts : Dict String Int32

namespace Program

/-- The program of a game. -/
def ofGame (g : Game) : Program :=
  let m := CodeMap.ofGame g
  let references := References.ofGame g m
  { code := references.stamp m.decoded
    references
    scripts := Dict.ofList (g.scripts.toList.map fun s => (s.name, s.code)) }

/-- The code entry with an index. -/
def code? (p : Program) (code : Int32) : Option Code := tableAt? p.code code

/-- The code of a script. -/
def scriptCode? (p : Program) (name : String) : Option Int32 := p.scripts.get? name

/-- What is reported when the program of a game is made. -/
def report (g : Game) (p : Program) (log : Journal) : Journal :=
  if !log.keeps .warn then log
  else
  let log := g.code.foldl (fun (log : Journal) e =>
    match Code.warning? e.bytes with
    | some w => log.add .warn fun _ => w
    | none => log) log
  let log := (References.warnings g (CodeMap.ofGame g)).foldl
    (fun (log : Journal) w => log.add .warn fun _ => w) log
  let log := log.add .info fun _ =>
    s!"Resolved {p.references.variableCount} variable references, " ++
      s!"{p.references.functionCount} function references"
  log.add .info fun _ =>
    let total := p.code.foldl (fun n c => n + c.size) 0
    s!"VM initialized: {p.code.size} code entries decoded ({total} instructions)"

end Program

end GameRunner

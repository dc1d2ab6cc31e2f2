/-!
# The journal

Everything the engine reports while it works is a line of text with a severity. The journal keeps
the lines up to a chosen severity; lines beyond it are not even composed.
-/

namespace GameRunner

/-- How severe a line of the journal is. -/
inductive Severity
  | error
  | warn
  | info
  | debug
  | trace
  deriving Repr, DecidableEq

namespace Severity

/-- Position in the scale, the most severe first. -/
def rank : Severity → Nat
  | error => 0
  | warn => 1
  | info => 2
  | debug => 3
  | trace => 4

/-- The name under which lines are shown. -/
def name : Severity → String
  | error => "ERROR"
  | warn => "WARN"
  | info => "INFO"
  | debug => "DEBUG"
  | trace => "TRACE"

end Severity

/-- Lines reported so far, the latest first. Without a limit nothing is kept. -/
structure Journal where
  limit : Option Severity
  latest : List (Severity × String)
  deriving Inhabited

namespace Journal

/-- A journal that keeps nothing. -/
def silent : Journal := ⟨none, []⟩

/-- An empty journal that keeps lines up to the given severity. -/
def upTo (limit : Option Severity) : Journal := ⟨limit, []⟩

/-- Whether lines of a severity are kept. -/
def keeps (j : Journal) (s : Severity) : Bool :=
  match j.limit with
  | none => false
  | some limit => s.rank ≤ limit.rank

/-- Adds a line, unless its severity is beyond the limit. -/
def add (j : Journal) (s : Severity) (line : Unit → String) : Journal :=
  if j.keeps s then { j with latest := (s, line ()) :: j.latest } else j

/-- The lines in order, each behind the name of its severity. -/
def lines (j : Journal) : List String :=
  j.latest.reverse.map fun l => l.1.name ++ " " ++ l.2

/-- The same journal without its lines. -/
def cleared (j : Journal) : Journal := { j with latest := [] }

end Journal

end GameRunner

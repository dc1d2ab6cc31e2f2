/-!
# TOML values and tables

A document is a table. Tables come about in four ways, and the way decides how they may be extended:
by a header of their own, as a parent in the header of another table, by a dotted key, or inline. No
table may be given two headers, dotted keys do not reach into a table with a header, and an inline
table is complete as it stands.
-/

namespace GameRunner.Toml

/-- How a table came about. -/
inductive TableKind
  | header
  | parent
  | dotted
  | inline
  deriving Repr, DecidableEq

/-- A value. The array of tables that headers with double brackets build is kept apart from an
array that is written out. -/
inductive Value
  | str (s : String)
  | integer (n : Int)
  | float
  | boolean (b : Bool)
  | datetime
  | array (items : List Value)
  | tables (items : List Value)
  | table (kind : TableKind) (entries : List (String × Value))

/-- The entries of a table. -/
abbrev Entries := List (String × Value)

/-- Replaces the value under a key that is present. -/
def replaceEntry (key : String) (v : Value) (entries : Entries) : Entries :=
  entries.map fun e => if e.1 = key then (key, v) else e

/-- Changes the last table of an array of tables. -/
def modifyLast (f : Entries → Option Entries) : List Value → Option (List Value)
  | [] => none
  | [.table kind entries] => (f entries).map fun entries => [.table kind entries]
  | [_] => none
  | v :: rest => (modifyLast f rest).map (v :: ·)

/-- Changes the table at the end of a path of keys, making the tables on the way that are missing.
With `viaDots` the path is that of a dotted key, which does not pass through a table that has a
header. -/
def updateAt (viaDots : Bool) (f : TableKind → Entries → Option Entries) :
    List String → TableKind → Entries → Option Entries
  | [], kind, entries => f kind entries
  | key :: path, _, entries =>
    match entries.lookup key with
    | none =>
      let kind := if viaDots then .dotted else .parent
      (updateAt viaDots f path kind []).map fun sub => entries ++ [(key, .table kind sub)]
    | some (.table kind sub) =>
      if kind = .inline ∨ (viaDots ∧ kind = .header) then none
      else
        (updateAt viaDots f path kind sub).map fun sub =>
          replaceEntry key (.table kind sub) entries
    | some (.tables items) =>
      (modifyLast (updateAt viaDots f path .header) items).map fun items =>
        replaceEntry key (.tables items) entries
    | some _ => none

/-- Starts the table that a header names. -/
def openTable (key : String) (_ : TableKind) (entries : Entries) : Option Entries :=
  match entries.lookup key with
  | none => some (entries ++ [(key, .table .header [])])
  | some (.table .parent sub) => some (replaceEntry key (.table .header sub) entries)
  | some _ => none

/-- Adds a table to the array of tables that a header with double brackets names. -/
def openArrayTable (key : String) (_ : TableKind) (entries : Entries) : Option Entries :=
  match entries.lookup key with
  | none => some (entries ++ [(key, .tables [.table .header []])])
  | some (.tables items) =>
    some (replaceEntry key (.tables (items ++ [.table .header []])) entries)
  | some _ => none

/-- Adds a value under a dotted key whose parts before the last are `path`. The table that receives
it was made by dots if there are such parts, and only then. -/
def addValue (path : List String) (key : String) (v : Value) :
    TableKind → Entries → Option Entries :=
  updateAt true (fun kind entries =>
    if (kind == .dotted) == path.isEmpty then none
    else if (entries.lookup key).isSome then none
    else some (entries ++ [(key, v)])) path

namespace Value

/-- The text of a string. -/
def text? : Value → Option String
  | .str s => some s
  | _ => none

/-- An integer within bounds. -/
def integer? (low high : Int) : Value → Option Int
  | .integer n => if low ≤ n ∧ n ≤ high then some n else none
  | _ => none

/-- The items of an array of either kind. -/
def items? : Value → Option (List Value)
  | .array items => some items
  | .tables items => some items
  | _ => none

/-- The entries of a table. A date stands for a table in which no known key occurs. -/
def entries? : Value → Option Entries
  | .table _ entries => some entries
  | .datetime => some []
  | _ => none

/-- The texts of an array of strings. -/
def texts? (v : Value) : Option (List String) :=
  v.items?.bind fun items => items.mapM text?

end Value

end GameRunner.Toml

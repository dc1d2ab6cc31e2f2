import GameRunner.Code.Assembly
import GameRunner.Game.Assets

/-!
# Threading references

When code is placed in an archive, the references to each variable and function are tied into a
chain: the table entry leads to the first occurrence, and each occurrence holds the distance to the
next one. Code is placed entry after entry, so the addresses along a chain increase.
-/

namespace GameRunner

/-- A reference, by code entry and offset in it. -/
structure Site where
  entry : Nat
  offset : Nat
  deriving Repr, DecidableEq, Inhabited

namespace Site

/-- The address of a site, given where the entries start. -/
def address (starts : List Nat) (s : Site) : Nat := (starts[s.entry]?).getD 0 + s.offset

end Site

/-- Where entries of the given sizes start that are placed one behind the other. -/
def startsFrom (pos : Nat) : List Nat → List Nat
  | [] => []
  | size :: rest => pos :: startsFrom (pos + size) rest

namespace Assembly

/-- The sites in a list of code entries at which a table entry is referred to. -/
def sitesOf (refs : Assembly → List (Nat × Nat)) (code : List Assembly) (index : Nat) :
    List Site :=
  code.zipIdx.flatMap fun a =>
    ((refs a.1).filter fun r => r.2 = index).map fun r => ⟨a.2, r.1⟩

/-- Sets the links along a chain of sites. -/
def threadChain (starts : List Nat) : List Site → List ByteArray → List ByteArray
  | a :: b :: rest, code =>
    let distance := b.address starts - a.address starts
    threadChain starts (b :: rest)
      (code.modify a.entry fun bytes => setLink bytes a.offset (UInt32.ofNat distance))
  | _, code => code

/-- The address at which a chain starts, or `-1` if it is empty. -/
def firstAddress (starts : List Nat) (sites : List Site) : Int32 :=
  match sites with
  | [] => -1
  | s :: _ => Int32.ofNat (s.address starts)

/-- A variable with its chain. -/
def threadVariable (starts : List Nat) (code : List Assembly) (v : Variable) (index : Nat) :
    Variable :=
  let sites := sitesOf variableRefs code index
  { v with
    occurrences := Int32.ofNat sites.length
    firstOccurrence := firstAddress starts sites }

/-- A function with its chain. -/
def threadFunction (starts : List Nat) (code : List Assembly) (f : Function) (index : Nat) :
    Function :=
  let sites := sitesOf functionRefs code index
  { f with
    occurrences := Int32.ofNat sites.length
    firstOccurrence := firstAddress starts sites }

/-- The bytes of code entries with the chains of some variables and functions set. -/
def threadAll (starts : List Nat) (code : List Assembly) (variableCount functionCount : Nat) :
    List ByteArray :=
  let chains := (List.range variableCount).map (sitesOf variableRefs code) ++
    (List.range functionCount).map (sitesOf functionRefs code)
  chains.foldl (fun bytes sites => threadChain starts sites bytes) (code.map (·.bytes))

end Assembly

end GameRunner

import GameRunner.Code.Decode
import GameRunner.Game.Basic
import GameRunner.Journal
import GameRunner.Program.Ranges

/-!
# References

The variable and function tables name the first occurrence of each entry in code and the number of
occurrences. Each occurrence holds the distance to the next one. Walking these chains once gives, for
each table entry, the instructions that refer to it, and these are then marked with its index.
-/

namespace GameRunner

/-- An instruction, by code entry and position in it. -/
structure Location where
  entry : Nat
  instruction : Nat
  deriving Repr, DecidableEq, Inhabited

/-- Why a chain was not walked to its end. -/
inductive ChainBreak
  | leavesCode (address resolved : Nat)
  | midInstruction (entry : Nat) (offset : Nat)
  | truncated (entry : Nat)
  deriving Repr, DecidableEq

/-- The link stored behind the instruction word at an offset: the low twenty-seven bits. -/
def linkAt? (bytes : ByteArray) (offset : Nat) : Option Nat :=
  (Bytes.word? bytes (offset + 4)).map fun w => (w &&& 0x7ffffff).toNat

/-- The code of a game as a chain is walked through it. -/
structure CodeMap where
  entries : Array CodeEntry
  decoded : Array Code
  ranges : Array CodeRange

namespace CodeMap

/-- The code map of a game. -/
def ofGame (g : Game) : CodeMap :=
  ⟨g.code, g.code.map fun e => Code.decode e.bytes, codeRanges g.code.toList⟩

/-- The name of an entry. -/
def entryName (m : CodeMap) (entry : Nat) : String :=
  ((m.entries[entry]?).map (·.name)).getD ""

/-- The bytes of an entry. -/
def entryBytes (m : CodeMap) (entry : Nat) : ByteArray :=
  ((m.entries[entry]?).map (·.bytes)).getD .empty

/-- The instruction that starts at an address, with its offset in its entry. -/
def locate (m : CodeMap) (resolved address : Nat) : Except ChainBreak (Location × Nat) :=
  match findRange? m.ranges address with
  | none => .error (.leavesCode address resolved)
  | some r =>
    let offset := address - r.start
    match ((m.decoded[r.index]?).getD ⟨#[]⟩).indexOf? offset with
    | none => .error (.midInstruction r.index offset)
    | some i => .ok (⟨r.index, i⟩, offset)

/-- Walks a chain of `remaining` more occurrences from an address on, behind the `resolved`
locations found before, the latest first. -/
def walkFrom (m : CodeMap) : (remaining resolved address : Nat) → List Location →
    List Location × Option ChainBreak
  | 0, _, _, found => (found.reverse, none)
  | remaining + 1, resolved, address, found =>
    match m.locate resolved address with
    | .error e => (found.reverse, some e)
    | .ok (location, offset) =>
      if remaining = 0 then ((location :: found).reverse, none)
      else
        match linkAt? (m.entryBytes location.entry) offset with
        | some link => walkFrom m remaining (resolved + 1) (address + link) (location :: found)
        | none => ((location :: found).reverse, some (.truncated location.entry))

/-- The locations on the chain of a table entry. -/
def walk (m : CodeMap) (first count : Int32) : List Location × Option ChainBreak :=
  if count ≤ 0 ∨ first < 0 then ([], none)
  else m.walkFrom count.toInt.toNat 0 first.toInt.toNat []

/-- The warning about a broken chain. -/
def breakWarning (m : CodeMap) (name : String) (count : Int32) : ChainBreak → String
  | .leavesCode address resolved =>
    "reference chain of '" ++ name ++ "' leaves bytecode at " ++ Text.hex address ++
      s!" ({resolved}/{count} resolved)"
  | .midInstruction entry offset =>
    "reference chain of '" ++ name ++ "' lands mid-instruction in " ++ m.entryName entry ++
      " at " ++ Text.hex offset
  | .truncated entry =>
    "reference chain of '" ++ name ++ "' truncated in " ++ m.entryName entry

end CodeMap

/-- The instructions that refer to each variable and each function. -/
structure References where
  variableSites : List (List Location)
  functionSites : List (List Location)

namespace References

/-- The references of a game. -/
def ofGame (g : Game) (m : CodeMap) : References where
  variableSites := g.variableTable.toList.map fun v => (m.walk v.firstOccurrence v.occurrences).1
  functionSites := g.functionTable.toList.map fun f => (m.walk f.firstOccurrence f.occurrences).1

/-- The number of references to variables. -/
def variableCount (r : References) : Nat := r.variableSites.flatten.length

/-- The number of references to functions. -/
def functionCount (r : References) : Nat := r.functionSites.flatten.length

/-- The warnings about broken chains, in the order of the tables. -/
def warnings (g : Game) (m : CodeMap) : List String :=
  (g.variableTable.toList.filterMap fun v =>
    (m.walk v.firstOccurrence v.occurrences).2.map (m.breakWarning v.name v.occurrences)) ++
  (g.functionTable.toList.filterMap fun f =>
    (m.walk f.firstOccurrence f.occurrences).2.map (m.breakWarning f.name f.occurrences))

/-- Changes the instruction at a location. -/
def modifyAt (code : Array Code) (l : Location) (f : Instruction → Instruction) : Array Code :=
  code.modify l.entry fun c => ⟨c.instructions.modify l.instruction f⟩

/-- Changes the instructions at the locations of each table entry, entry after entry. -/
def stampAll (mark : Nat → Instruction → Instruction) (table : List (List Location))
    (code : Array Code) : Array Code :=
  table.zipIdx.foldl
    (fun code e => e.1.foldl (fun code l => modifyAt code l (mark e.2)) code) code

/-- Marks every instruction with the variable or function it refers to; of two table entries that
name an instruction the later one prevails. -/
def stamp (r : References) (code : Array Code) : Array Code :=
  let code := stampAll (fun n i => { i with variableIndex := Int32.ofNat n }) r.variableSites code
  stampAll (fun n i => { i with functionIndex := Int32.ofNat n }) r.functionSites code

end References

end GameRunner

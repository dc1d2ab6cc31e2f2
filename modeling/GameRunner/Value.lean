import GameRunner.Number.Arithmetic
import GameRunner.Number.Text
import GameRunner.Text.Blank

/-!
# Values

Game code works on dynamically typed values: reals, texts, sparse two-dimensional arrays and the
undefined value. Each operation applies the coercion it needs: arithmetic reads a real, branches read
a truth value, and so on. Arrays list their rows, and rows their elements, in ascending order of
index; access with one index uses row zero. Values are immutable, so a copy of an array never
changes when the other copy is written.
-/

namespace GameRunner

/-- A dynamically typed value. -/
inductive Value
  | real (x : Float)
  | str (s : String)
  | array (rows : List (Int32 × List (Int32 × Value)))
  | undefined

/-- Storing in a list ordered by index. -/
def insertSorted (i : Int32) (a : α) : List (Int32 × α) → List (Int32 × α)
  | [] => [(i, a)]
  | e :: rest =>
    if i < e.1 then (i, a) :: e :: rest
    else if e.1 = i then (i, a) :: rest
    else e :: insertSorted i a rest

/-- The element stored at an index. -/
def findSorted? (i : Int32) (l : List (Int32 × α)) : Option α :=
  (l.find? fun e => e.1 = i).map Prod.snd

theorem findSorted?_insertSorted_self (i : Int32) (a : α) (l : List (Int32 × α)) :
    findSorted? i (insertSorted i a l) = some a := by
  induction l with
  | nil => simp [insertSorted, findSorted?]
  | cons e rest ih =>
    unfold insertSorted
    split
    · simp [findSorted?]
    · split
      · simp [findSorted?]
      · next h =>
        simp only [findSorted?, List.find?_cons, h, decide_false] at *
        exact ih

theorem findSorted?_insertSorted_of_ne {i j : Int32} (h : j ≠ i) (a : α) (l : List (Int32 × α)) :
    findSorted? j (insertSorted i a l) = findSorted? j l := by
  have hij : ¬ i = j := fun x => h x.symm
  induction l with
  | nil => simp [insertSorted, findSorted?, hij]
  | cons e rest ih =>
    unfold insertSorted
    split
    · simp [findSorted?, hij]
    · split
      · next he => simp [findSorted?, hij, he]
      · by_cases hj : e.1 = j
        · simp [findSorted?, hj]
        · simp only [findSorted?, List.find?_cons, hj, decide_false] at *
          exact ih

namespace Value

instance : Inhabited Value := ⟨.undefined⟩

/-- The real zero. -/
def zero : Value := .real 0

/-- The real one. -/
def one : Value := .real 1

/-- What look-ups return that find no instance. -/
def noone : Value := .real (-4)

/-- An integer as a value. -/
def ofInt (n : Int32) : Value := .real (Number.ofInt32 n)

/-- A count as a value. Counts are kept in 32 bits. -/
def ofNat (n : Nat) : Value := ofInt (Int32.ofNat n)

/-- A truth value is one or zero. -/
def ofBool (b : Bool) : Value := if b then one else zero

/-- The value as a real: texts are read as numbers, and what is no number counts as zero. -/
def toReal : Value → Float
  | .real x => x
  | .str s => (Number.read? (Text.trim s)).getD 0
  | .array _ => 0
  | .undefined => 0

/-- The value truncated to a 32-bit integer. -/
def toInt (v : Value) : Int32 := Number.toInt32 v.toReal

/-- The value truncated to a 64-bit integer. -/
def toLong (v : Value) : Int64 := Number.toInt64 v.toReal

/-- A real as text. One equal to a 64-bit integer is written as that integer. -/
def realText (x : Float) : String :=
  let n := Number.toInt64 x
  if x == Number.ofInt64 n then toString n.toInt else Number.text x

/-- The value as text. -/
def toText : Value → String
  | .real x => realText x
  | .str s => s
  | .array _ => "<array>"
  | .undefined => "<undefined>"

/-- The value as a condition: reals hold from one half in magnitude, texts unless empty, arrays
always. -/
def toBool : Value → Bool
  | .real x => 0.5 ≤ x.abs
  | .str s => !s.isEmpty
  | .array _ => true
  | .undefined => false

/-- Whether the value is a text. -/
def isText : Value → Bool
  | .str _ => true
  | _ => false

/-- The name of the value's type. -/
def typeName : Value → String
  | .real _ => "number"
  | .str _ => "string"
  | .array _ => "array"
  | .undefined => "undefined"

/-- The rows of an array. -/
def rows? : Value → Option (List (Int32 × List (Int32 × Value)))
  | .array rows => some rows
  | _ => none

/-- The number of elements in row zero of an array. -/
def rowLength (rows : List (Int32 × List (Int32 × Value))) : Nat :=
  ((findSorted? 0 rows).getD []).length

/-- A one-dimensional array of the given elements. -/
def ofList (elements : List Value) : Value :=
  if elements.isEmpty then .array []
  else .array [(0, elements.zipIdx.map fun e => (Int32.ofNat e.2, e.1))]

/-- The element of a one-dimensional array; zero for anything else. -/
def arrayGet (v : Value) (i : Int32) : Value :=
  match v with
  | .array rows => (findSorted? i ((findSorted? 0 rows).getD [])).getD zero
  | _ => zero

/-- Stores an element in row zero. A value that is no array is replaced by one. -/
def arraySet (v : Value) (i : Int32) (element : Value) : Value :=
  let rows := v.rows?.getD []
  .array (insertSorted 0 (insertSorted i element ((findSorted? 0 rows).getD [])) rows)

/-- Reading the element just stored gives it back. -/
@[simp] theorem arrayGet_arraySet_self (v : Value) (i : Int32) (e : Value) :
    (v.arraySet i e).arrayGet i = e := by
  simp [arrayGet, arraySet, findSorted?_insertSorted_self]

/-- Storing an element leaves the others as they were. -/
theorem arrayGet_arraySet_of_ne (v : Value) {i j : Int32} (h : j ≠ i) (e : Value) :
    (v.arraySet i e).arrayGet j = v.arrayGet j := by
  cases v <;>
    simp [arrayGet, arraySet, rows?, findSorted?_insertSorted_self,
      findSorted?_insertSorted_of_ne h] <;>
    simp [findSorted?]

mutual

/-- Equality of values. Reals compare as numbers, so zero has one sign and what is no number differs
from itself. -/
def same : Value → Value → Bool
  | .real x, .real y => x == y
  | .str s, .str t => s == t
  | .array r, .array r' => sameRows r r'
  | .undefined, .undefined => true
  | _, _ => false

/-- Equality of lists of rows. -/
def sameRows : List (Int32 × List (Int32 × Value)) → List (Int32 × List (Int32 × Value)) → Bool
  | [], [] => true
  | (i, e) :: r, (i', e') :: r' => i == i' && sameElements e e' && sameRows r r'
  | _, _ => false

/-- Equality of rows. -/
def sameElements : List (Int32 × Value) → List (Int32 × Value) → Bool
  | [], [] => true
  | (i, v) :: r, (i', v') :: r' => i == i' && same v v' && sameElements r r'
  | _, _ => false

end

end Value

end GameRunner

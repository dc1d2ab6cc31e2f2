import GameRunner.Game.Assets

/-!
# Which code entry an address belongs to

The byte ranges of the code entries are sorted by where they start. The range of an address is the
first one that ends behind it, found by halving, provided it starts at the address or before.
-/

namespace GameRunner

/-- The addresses `start ≤ a < stop` of a code entry, with its index. -/
structure CodeRange where
  start : Nat
  stop : Nat
  index : Nat
  deriving Repr, DecidableEq, Inhabited

/-- Whether the element at a position satisfies a predicate. -/
def holdsAt (p : α → Bool) (a : Array α) (i : Nat) : Bool :=
  match a[i]? with
  | some x => p x
  | none => false

/-- Halves the stretch of `size` elements from `base` on until one is left: the upper half is kept
if its first element satisfies the predicate. -/
def halve (p : α → Bool) (a : Array α) : Nat → Nat → Nat → Nat
  | 0, base, _ => base
  | fuel + 1, base, size =>
    if size ≤ 1 then base
    else
      let half := size / 2
      halve p a fuel (if holdsAt p a (base + half) then base + half else base) (size - half)

/-- How many elements from the start satisfy a predicate, if those that do come first. -/
def partitionPoint (p : α → Bool) (a : Array α) : Nat :=
  if a.isEmpty then 0
  else
    let base := halve p a a.size 0 a.size
    if holdsAt p a base then base + 1 else base

/-- The ranges of all code entries with bytes, sorted by start. -/
def codeRanges (code : List CodeEntry) : Array CodeRange :=
  let ranges := (code.zipIdx.filter fun e => e.1.bytes.size ≠ 0).map fun e =>
    { start := e.1.offset, stop := e.1.offset + e.1.bytes.size, index := e.2 : CodeRange }
  (ranges.mergeSort fun r s => decide (r.start ≤ s.start)).toArray

/-- The range that an address lies in. -/
def findRange? (ranges : Array CodeRange) (address : Nat) : Option CodeRange :=
  (ranges[partitionPoint (fun r => decide (r.stop ≤ address)) ranges]?).filter fun r =>
    decide (r.start ≤ address)

end GameRunner

import GameRunner.Library.Action
import GameRunner.Text.Case
import GameRunner.Text.Search

/-!
# Texts

Positions in texts count characters from one. A function that is given the least integer as a position
breaks off.
-/

namespace GameRunner

namespace Builtin

/-- The characters from a position on, by index: where they start and where they end. Both are kept
within the text. -/
def span (count : Nat) (position length : Int32) : Option (Nat × Nat) :=
  (Number.difference? position 1).map fun index =>
    let start := min index.toInt.toNat count
    (start, min (start + length.toInt.toNat) count)

/-- The part of a text from a position on. -/
def copyText (s : String) (position length : Int32) : Option String :=
  let cs := s.toList
  (span cs.length position length).map fun (start, stop) =>
    String.ofList ((cs.drop start).take (stop - start))

/-- A text without the part from a position on. -/
def deleteText (s : String) (position length : Int32) : Option String :=
  let cs := s.toList
  (span cs.length position length).map fun (start, stop) =>
    String.ofList (cs.take start ++ cs.drop stop)

/-- The character at a position as a text, empty if there is none. -/
def charAt (s : String) (position : Int32) : Option String :=
  (Number.difference? position 1).map fun (index : Int32) =>
    if 0 ≤ index then
      match s.toList[index.toInt.toNat]? with
      | some c => String.singleton c
      | none => ""
    else ""

/-- The text of the character with a code, empty if there is none. -/
def charOf (code : Int32) : String :=
  if 0 ≤ code && code.toInt.toNat.isValidChar then String.singleton (Char.ofNat code.toInt.toNat)
  else ""

/-- A function from text to text. -/
def textual (f : String → String) : Builtin :=
  compute fun args => do return .str (f (← text args 0))

/-- The character with the code in the first argument. -/
def character : Builtin := compute fun args => do return .str (charOf (← int args 0))

/-- Functions of texts. -/
def texts : FunctionTable :=
  [("string", textual id),
    ("real", number fun args => real args 0),
    ("string_length", compute fun args => do return .ofNat (← text args 0).length),
    ("string_char_at", attempting fun args => do
      return (charAt (← text args 0) (← int args 1)).map .str),
    ("string_copy", attempting fun args => do
      return (copyText (← text args 0) (← int args 1) (← int args 2)).map .str),
    ("string_pos", compute fun args => do
      return .ofNat (Text.position (← text args 0) (← text args 1))),
    ("string_delete", attempting fun args => do
      return (deleteText (← text args 0) (← int args 1) (← int args 2)).map .str),
    ("string_lower", textual Text.lower),
    ("string_upper", textual Text.upper),
    ("string_replace", compute fun args => do
      return .str (Text.replaceFirst (← text args 0) (← text args 1) (← text args 2))),
    ("string_replace_all", compute fun args => do
      let s ← text args 0
      let needle ← text args 1
      if needle.isEmpty then return .str s
      else return .str (Text.replaceAll s needle (← text args 2))),
    ("string_count", compute fun args => do
      let needle ← text args 0
      let hay ← text args 1
      if needle.isEmpty then return .zero else return .ofNat (Text.occurrences needle hay)),
    ("string_hash_to_newline", textual fun s => Text.replaceChar s '#' '\n'),
    ("string_width", number fun args => do return (measureText (← text args 0)).1),
    ("string_height", number fun args => do return (measureText (← text args 0)).2),
    ("chr", character),
    ("ansi_char", character),
    ("ord", compute fun args => do
      return .ofNat (((← text args 0).toList.head?.map Char.toNat).getD 0))]

end Builtin

end GameRunner

/-!
# Hexadecimal and decimal digits
-/

namespace GameRunner.Text

/-- Lower-case hexadecimal digits. -/
def hexDigits (n : Nat) : String :=
  String.ofList (Nat.toDigits 16 n)

/-- Lower-case hexadecimal digits behind the mark `0x`. -/
def hex (n : Nat) : String :=
  "0x" ++ hexDigits n

/-- Pads a text with zeros on the left. -/
def padZeros (width : Nat) (s : String) : String :=
  String.ofList (List.replicate (width - s.length) '0') ++ s

/-- A decimal integer that always shows its sign. -/
def signed (n : Int) : String :=
  if 0 ≤ n then "+" ++ toString n.toNat else toString n

/-- Reads decimal digits after an optional plus sign. -/
def readNat? (s : String) : Option Nat :=
  let digits := match s.toList with
    | '+' :: cs => cs
    | cs => cs
  if digits.isEmpty || !digits.all Char.isDigit then none
  else some (digits.foldl (fun n c => 10 * n + (c.toNat - '0'.toNat)) 0)

/-- Reads decimal digits after an optional sign. -/
def readInt? (s : String) : Option Int :=
  match s.toList with
  | '-' :: '+' :: _ => none
  | '-' :: cs => (readNat? (String.ofList cs)).map fun n => -(n : Int)
  | _ => (readNat? s).map fun n => (n : Int)

end GameRunner.Text

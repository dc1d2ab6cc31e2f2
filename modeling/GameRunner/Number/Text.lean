import GameRunner.Number.Convert
import GameRunner.Number.Shortest

/-!
# Decimal text of reals

Reals are written positionally with the fewest digits that read back, however large or small they
are, and without a fraction when they are integers. Reading accepts an optional sign, digits with an
optional point, and an optional exponent, or the words for infinity and for no number in any case.
-/

namespace GameRunner.Number

/-- Digits written positionally: padded with zeros on the right, or split by a point. -/
def Decimal.positional (d : Decimal) : String :=
  let text := toString d.digits
  if 0 ≤ d.exponent then text ++ String.ofList (List.replicate d.exponent.toNat '0')
  else
    let places := (-d.exponent).toNat
    let cs := text.toList
    let padded := List.replicate (places + 1 - cs.length) '0' ++ cs
    let whole := padded.length - places
    String.ofList (padded.take whole ++ '.' :: padded.drop whole)

/-- A decimal in scientific notation: one digit before the point and an exponent. -/
def Decimal.scientific (d : Decimal) : String :=
  match (toString d.digits).toList with
  | [] => ""
  | first :: rest =>
    let power := toString (d.exponent + rest.length)
    match rest with
    | [] => String.ofList [first] ++ "e" ++ power
    | _ => String.ofList (first :: '.' :: rest) ++ "e" ++ power

/-- Text of a decoded number, given how to write a positive finite one. -/
def Decoded.text (f : Format) (zero : String) (write : Decimal → String) : Decoded → String
  | .nan => "NaN"
  | .infinite negative => if negative then "-inf" else "inf"
  | .finite negative significand exponent =>
    let magnitude := if significand = 0 then zero else write (shortest f significand exponent)
    if negative then "-" ++ magnitude else magnitude

/-- The text of a real. -/
def text (x : Float) : String :=
  (decoded x).text .double "0" Decimal.positional

/-- The text of a single-precision number, with the fewest digits for that precision. -/
def singleText (bits : UInt32) : String :=
  (decodeSingle bits).text .single "0" Decimal.positional

/-- A decimal that always shows a fraction or an exponent: the exponent is used from `10 ^ 16`
upwards and below `10 ^ -4`. -/
def Decimal.diagnostic (d : Decimal) : String :=
  let leading := d.exponent + ((toString d.digits).length - 1 : Nat)
  if leading < -4 ∨ 16 ≤ leading then d.scientific
  else if 0 ≤ d.exponent then d.positional ++ ".0"
  else d.positional

/-- The text of a real in diagnostic output. -/
def diagnosticText (x : Float) : String :=
  (decoded x).text .double "0.0" Decimal.diagnostic

/-- The value of a digit sequence after `start`. -/
def digitsValue (start : Nat) (cs : List Char) : Nat :=
  cs.foldl (fun n c => 10 * n + (c.toNat - '0'.toNat)) start

/-- The exponent after the mark `e`, with an optional sign. -/
def readExponent? : List Char → Option Int
  | '-' :: cs => if cs.isEmpty ∨ !cs.all Char.isDigit then none else some (-(digitsValue 0 cs : Int))
  | '+' :: cs => if cs.isEmpty ∨ !cs.all Char.isDigit then none else some (digitsValue 0 cs)
  | cs => if cs.isEmpty ∨ !cs.all Char.isDigit then none else some (digitsValue 0 cs)

/-- The real nearest to a decimal, as a bit pattern without sign. Exponents so large or so small
that the result is certain are not expanded. -/
def Decimal.roundBits (d : Decimal) : Nat :=
  let length : Int := (toString d.digits).length
  if d.digits = 0 then 0
  else if 400 < d.exponent + length then Format.double.infinityBits
  else if d.exponent + length < -400 then 0
  else if 0 ≤ d.exponent then Format.double.roundQuotient (d.digits * tenTo d.exponent.toNat) 1
  else Format.double.roundQuotient d.digits (tenTo (-d.exponent).toNat)

/-- Reads digits, an optional point with digits after it, and an optional exponent. -/
def readDecimal? (cs : List Char) : Option Decimal :=
  let whole := cs.takeWhile Char.isDigit
  let rest := cs.dropWhile Char.isDigit
  let (fraction, rest) :=
    match rest with
    | '.' :: after => (after.takeWhile Char.isDigit, after.dropWhile Char.isDigit)
    | _ => ([], rest)
  if whole.isEmpty ∧ fraction.isEmpty then none
  else
    let digits := digitsValue (digitsValue 0 whole) fraction
    let places : Int := fraction.length
    match rest with
    | [] => some ⟨digits, -places⟩
    | c :: power =>
      if c = 'e' ∨ c = 'E' then (readExponent? power).map fun e => ⟨digits, e - places⟩ else none

/-- Reads an unsigned number as a bit pattern. -/
def readMagnitude? (cs : List Char) : Option Nat :=
  match readDecimal? cs with
  | some d => some d.roundBits
  | none =>
    match String.ofList (cs.map Char.toLower) with
    | "nan" => some (Format.double.infinityBits + twoTo 51)
    | "inf" => some Format.double.infinityBits
    | "infinity" => some Format.double.infinityBits
    | _ => none

/-- Reads the text of a real as a bit pattern; the whole text has to be used. -/
def readBits? (s : String) : Option UInt64 :=
  match s.toList with
  | '-' :: cs => (readMagnitude? cs).map fun m => UInt64.ofNat (Format.double.withSign true m)
  | '+' :: cs => (readMagnitude? cs).map UInt64.ofNat
  | cs => (readMagnitude? cs).map UInt64.ofNat

/-- Reads the text of a real. -/
def read? (s : String) : Option Float :=
  (readBits? s).map Float.ofBits

end GameRunner.Number

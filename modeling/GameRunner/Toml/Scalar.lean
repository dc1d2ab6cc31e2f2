import GameRunner.Number.Text
import GameRunner.Toml.Value

/-!
# TOML strings, numbers and dates

Each reader takes the characters that remain and gives the value with the characters behind it.
-/

namespace GameRunner.Toml

/-- A reader of part of the remaining characters. -/
abbrev Reader (α : Type) := List Char → Option (α × List Char)

/-- Space and tab. -/
def isSpace (c : Char) : Bool := c = ' ' || c = '\t'

/-- Characters that may stand in comments and literal strings: tab, and all but the controls. -/
def isPlain (c : Char) : Bool := c = '\t' || (0x20 ≤ c.toNat && c.toNat ≠ 0x7f)

/-- The characters behind a line break, if there is one. -/
def newline? : List Char → Option (List Char)
  | '\n' :: rest => some rest
  | '\r' :: '\n' :: rest => some rest
  | _ => none

/-- The value of a hexadecimal digit. -/
def hexValue? (c : Char) : Option Nat :=
  if c.isDigit then some (c.toNat - '0'.toNat)
  else if 'a' ≤ c && c ≤ 'f' then some (c.toNat - 'a'.toNat + 10)
  else if 'A' ≤ c && c ≤ 'F' then some (c.toNat - 'A'.toNat + 10)
  else none

/-- The character with a hexadecimal number; it has to be a Unicode scalar value. -/
def charOfHex? (digits : List Char) : Option Char := do
  let n := (← digits.mapM hexValue?).foldl (fun n d => 16 * n + d) 0
  if n < 0xd800 ∨ (0xdfff < n ∧ n < 0x110000) then some (Char.ofNat n) else none

/-- The character that an escape behind a backslash stands for. -/
def escape : Reader Char
  | 'b' :: rest => some ('\x08', rest)
  | 't' :: rest => some ('\t', rest)
  | 'n' :: rest => some ('\n', rest)
  | 'f' :: rest => some ('\x0c', rest)
  | 'r' :: rest => some ('\r', rest)
  | '"' :: rest => some ('"', rest)
  | '\\' :: rest => some ('\\', rest)
  | 'u' :: a :: b :: c :: d :: rest => (charOfHex? [a, b, c, d]).map (·, rest)
  | 'U' :: a :: b :: c :: d :: e :: f :: g :: h :: rest =>
    (charOfHex? [a, b, c, d, e, f, g, h]).map (·, rest)
  | _ => none

/-- A basic string behind its opening quote. Every step uses at least one character. -/
def basicString : Nat → Reader (List Char)
  | 0, _ => none
  | _ + 1, [] => none
  | fuel + 1, c :: rest =>
    if c = '"' then some ([], rest)
    else if c = '\\' then do
      let (e, rest) ← escape rest
      let (tail, rest) ← basicString fuel rest
      return (e :: tail, rest)
    else if isPlain c then do
      let (tail, rest) ← basicString fuel rest
      return (c :: tail, rest)
    else none

/-- A literal string behind its opening quote. -/
def literalString : Reader (List Char)
  | [] => none
  | c :: rest =>
    if c = '\x27' then some ([], rest)
    else if isPlain c then (literalString rest).map fun r => (c :: r.1, r.2)
    else none

/-- Drops spaces and line breaks. -/
def dropLines : Nat → List Char → List Char
  | 0, cs => cs
  | fuel + 1, cs =>
    match newline? cs with
    | some rest => dropLines fuel rest
    | none =>
      match cs with
      | c :: rest => if isSpace c then dropLines fuel rest else cs
      | [] => []

/-- The closing of a multi-line string: three quotes, behind at most two that belong to it. -/
def closing? (quote : Char) (cs : List Char) : Option (List Char × List Char) :=
  let run := (cs.takeWhile (· = quote)).length
  if 3 ≤ run then
    let own := min (run - 3) 2
    some (List.replicate own quote, cs.drop (own + 3))
  else none

/-- A multi-line basic string behind its opening quotes. A backslash at the end of a line removes
the line break and the space behind it. -/
def multilineBasic : Nat → Reader (List Char)
  | 0, _ => none
  | fuel + 1, cs =>
    match closing? '"' cs with
    | some (own, rest) => some (own, rest)
    | none =>
      match newline? cs with
      | some rest => (multilineBasic fuel rest).map fun r => ('\n' :: r.1, r.2)
      | none =>
        match cs with
        | [] => none
        | c :: rest =>
          if c = '\\' then
            match escape rest with
            | some (e, rest) => (multilineBasic fuel rest).map fun r => (e :: r.1, r.2)
            | none =>
              match newline? (rest.dropWhile isSpace) with
              | some after => multilineBasic fuel (dropLines fuel after)
              | none => none
          else if isPlain c then (multilineBasic fuel rest).map fun r => (c :: r.1, r.2)
          else none

/-- A multi-line literal string behind its opening quotes. -/
def multilineLiteral : Nat → Reader (List Char)
  | 0, _ => none
  | fuel + 1, cs =>
    match closing? '\x27' cs with
    | some (own, rest) => some (own, rest)
    | none =>
      match newline? cs with
      | some rest => (multilineLiteral fuel rest).map fun r => ('\n' :: r.1, r.2)
      | none =>
        match cs with
        | [] => none
        | c :: rest =>
          if isPlain c then (multilineLiteral fuel rest).map fun r => (c :: r.1, r.2) else none

/-- Drops a line break right behind the opening of a multi-line string. -/
def afterOpening (cs : List Char) : List Char := (newline? cs).getD cs

/-- A string that ends on its line, as it may also stand for a key. -/
def lineString : Reader String
  | '"' :: rest => (basicString (rest.length + 1) rest).map fun r => (String.ofList r.1, r.2)
  | '\x27' :: rest => (literalString rest).map fun r => (String.ofList r.1, r.2)
  | _ => none

/-- A string of any of the four kinds. -/
def string : Reader String
  | '"' :: '"' :: '"' :: rest =>
    (multilineBasic (rest.length + 1) (afterOpening rest)).map fun r => (String.ofList r.1, r.2)
  | '\x27' :: '\x27' :: '\x27' :: rest =>
    (multilineLiteral (rest.length + 1) (afterOpening rest)).map fun r => (String.ofList r.1, r.2)
  | cs => lineString cs

/-- Digits in which an underscore may stand between two. -/
def digitRun (isDigit : Char → Bool) : List Char → List Char × List Char
  | [] => ([], [])
  | [c] => if isDigit c then ([c], []) else ([], [c])
  | c :: d :: rest =>
    if isDigit c then
      if d = '_' then
        match rest with
        | e :: rest' =>
          if isDigit e then
            let (run, after) := digitRun isDigit (e :: rest')
            (c :: run, after)
          else ([c], d :: rest)
        | [] => ([c], [d])
      else
        let (run, after) := digitRun isDigit (d :: rest)
        (c :: run, after)
    else ([], c :: d :: rest)

/-- A non-empty run of digits. -/
def digits1 (isDigit : Char → Bool) (cs : List Char) : Option (List Char × List Char) :=
  let (run, rest) := digitRun isDigit cs
  if run.isEmpty then none else some (run, rest)

/-- An optional sign; `true` for minus. -/
def sign : List Char → Bool × List Char
  | '-' :: rest => (true, rest)
  | '+' :: rest => (false, rest)
  | cs => (false, cs)

/-- The digits of a decimal integer: a single zero, or a run that does not start with zero. -/
def decimalDigits (cs : List Char) : Option (List Char × List Char) :=
  match cs with
  | '0' :: rest => some (['0'], rest)
  | _ => digits1 Char.isDigit cs

/-- The value of digits in a base. -/
def digitsIn (base : Nat) (ds : List Char) : Nat :=
  ds.foldl (fun n c => base * n + (hexValue? c).getD 0) 0

/-- An integer of 64 bits. -/
def bounded (n : Int) (rest : List Char) : Option (Value × List Char) :=
  if -9223372036854775808 ≤ n ∧ n ≤ 9223372036854775807 then some (.integer n, rest) else none

/-- An integer in decimal, hexadecimal, octal or binary notation. -/
def integer : Reader Value
  | '0' :: 'x' :: rest => do
    let (ds, rest) ← digits1 (fun c => (hexValue? c).isSome) rest
    bounded (digitsIn 16 ds) rest
  | '0' :: 'o' :: rest => do
    let (ds, rest) ← digits1 (fun c => '0' ≤ c && c ≤ '7') rest
    bounded (digitsIn 8 ds) rest
  | '0' :: 'b' :: rest => do
    let (ds, rest) ← digits1 (fun c => c = '0' || c = '1') rest
    bounded (digitsIn 2 ds) rest
  | cs => do
    let (negative, cs) := sign cs
    let (ds, rest) ← decimalDigits cs
    let n : Int := digitsIn 10 ds
    bounded (if negative then -n else n) rest

/-- The exponent of a float. -/
def exponent? (cs : List Char) : Option (List Char × List Char) :=
  match cs with
  | c :: rest =>
    if c = 'e' || c = 'E' then do
      let (negative, rest) := sign rest
      let (ds, rest) ← digits1 Char.isDigit rest
      return ('e' :: (if negative then '-' :: ds else ds), rest)
    else none
  | [] => none

/-- A float given by its sign and its magnitude. One that is too large for a real is refused; one
that is too far below zero is not. -/
def belowInfinity (negative : Bool) (text : List Char) (rest : List Char) :
    Option (Value × List Char) :=
  match Number.read? (String.ofList text) with
  | some x => if x.isInf && !negative then none else some (.float, rest)
  | none => none

/-- A float: an integer part with a fraction, an exponent or both, or one of the special words. -/
def float (cs : List Char) : Option (Value × List Char) :=
  let (negative, unsigned) := sign cs
  match unsigned with
  | 'i' :: 'n' :: 'f' :: rest => some (.float, rest)
  | 'n' :: 'a' :: 'n' :: rest => some (.float, rest)
  | _ => do
    let (whole, rest) ← decimalDigits unsigned
    match rest with
    | '.' :: after =>
      let (fraction, rest) ← digits1 Char.isDigit after
      match exponent? rest with
      | some (power, rest) => belowInfinity negative (whole ++ '.' :: fraction ++ power) rest
      | none => belowInfinity negative (whole ++ '.' :: fraction) rest
    | _ =>
      let (power, rest) ← exponent? rest
      belowInfinity negative (whole ++ power) rest

/-- A number of exactly `n` digits. -/
def fixedDigits (n : Nat) (cs : List Char) : Option (Nat × List Char) :=
  let ds := cs.take n
  if ds.length = n && ds.all Char.isDigit then some (digitsIn 10 ds, cs.drop n) else none

/-- The characters behind an expected one. -/
def expect (c : Char) : List Char → Option (List Char)
  | d :: rest => if d = c then some rest else none
  | [] => none

/-- The number of days of a month. -/
def daysIn (year month : Nat) : Nat :=
  if month = 2 then
    if year % 4 = 0 && (year % 100 ≠ 0 || year % 400 = 0) then 29 else 28
  else if month = 4 || month = 6 || month = 9 || month = 11 then 30
  else 31

/-- The characters behind a date. -/
def date? (cs : List Char) : Option (List Char) := do
  let (year, cs) ← fixedDigits 4 cs
  let cs ← expect '-' cs
  let (month, cs) ← fixedDigits 2 cs
  let cs ← expect '-' cs
  let (day, cs) ← fixedDigits 2 cs
  if 1 ≤ month && month ≤ 12 && 1 ≤ day && day ≤ daysIn year month then some cs else none

/-- The characters behind a time of day. -/
def time? (cs : List Char) : Option (List Char) := do
  let (hour, cs) ← fixedDigits 2 cs
  let cs ← expect ':' cs
  let (minute, cs) ← fixedDigits 2 cs
  let cs ← expect ':' cs
  let (second, cs) ← fixedDigits 2 cs
  if 23 < hour || 59 < minute || 60 < second then none
  else
    match cs with
    | '.' :: c :: rest => if c.isDigit then some (rest.dropWhile Char.isDigit) else some cs
    | _ => some cs

/-- The characters behind an optional offset from universal time. -/
def afterOffset (cs : List Char) : List Char :=
  match cs with
  | [] => cs
  | c :: rest =>
    if c = 'Z' || c = 'z' then rest
    else if c = '+' || c = '-' then
      (do
        let (hour, rest) ← fixedDigits 2 rest
        let rest ← expect ':' rest
        let (minute, rest) ← fixedDigits 2 rest
        if 23 < hour || 59 < minute then none else some rest).getD cs
    else cs

/-- A date, a time, or both. -/
def datetime (cs : List Char) : Option (Value × List Char) :=
  match date? cs with
  | none => (time? cs).map (.datetime, ·)
  | some rest =>
    match rest with
    | c :: after =>
      if c = 'T' || c = 't' || c = ' ' then
        match time? after with
        | some rest => some (.datetime, afterOffset rest)
        | none => some (.datetime, rest)
      else some (.datetime, rest)
    | [] => some (.datetime, rest)

/-- A date or a number. -/
def number (cs : List Char) : Option (Value × List Char) :=
  (datetime cs).or ((float cs).or (integer cs))

/-- The characters behind a word that starts the remaining ones. -/
def word? (word : String) (cs : List Char) : Option (List Char) :=
  if word.toList.isPrefixOf cs then some (cs.drop word.length) else none

/-- A value that contains no other values. -/
def scalar (cs : List Char) : Option (Value × List Char) :=
  match cs with
  | [] => none
  | c :: _ =>
    if c = '"' || c = '\x27' then (string cs).map fun r => (.str r.1, r.2)
    else if c = '+' || c = '-' || c.isDigit || c = 'i' || c = 'n' then number cs
    else if c = 't' then (word? "true" cs).map (.boolean true, ·)
    else if c = 'f' then (word? "false" cs).map (.boolean false, ·)
    else none

end GameRunner.Toml

import GameRunner.Toml.Scalar

/-!
# TOML documents

A document is a sequence of lines: blank lines and comments, headers that open a table, and keys with
values, which go into the table opened last. Arrays and inline tables may be nested up to a fixed
depth; only arrays may extend over several lines.
-/

namespace GameRunner.Toml

/-- The deepest nesting of values, one more than is accepted. -/
def depthLimit : Nat := 80

/-- The characters behind an optional comment. -/
def afterComment : List Char → List Char
  | '#' :: rest => rest.dropWhile isPlain
  | cs => cs

/-- The characters behind the end of a line, which may hold a comment. -/
def lineEnd? (cs : List Char) : Option (List Char) :=
  match afterComment (cs.dropWhile isSpace) with
  | [] => some []
  | rest => newline? rest

/-- Drops space, line breaks and comments that end with a line break. -/
def dropBlank : Nat → List Char → List Char
  | 0, cs => cs
  | fuel + 1, cs =>
    let cs := cs.dropWhile isSpace
    match newline? (afterComment cs) with
    | some rest => dropBlank fuel rest
    | none => cs

/-- Characters of a key without quotes. -/
def isBare (c : Char) : Bool := c.isAlphanum || c = '_' || c = '-'

/-- One part of a key, with space around it. -/
def keyPart (cs : List Char) : Option (String × List Char) := do
  let cs := cs.dropWhile isSpace
  let (part, rest) ← match cs with
    | '"' :: _ => lineString cs
    | '\x27' :: _ => lineString cs
    | _ =>
      let bare := cs.takeWhile isBare
      if bare.isEmpty then none else some (String.ofList bare, cs.dropWhile isBare)
  return (part, rest.dropWhile isSpace)

/-- A key: parts with dots between them, of which each uses at least one character. -/
def keyParts : Nat → List Char → Option (List String × List Char)
  | 0, _ => none
  | fuel + 1, cs => do
    let (part, rest) ← keyPart cs
    match rest with
    | '.' :: rest =>
      let (parts, rest) ← keyParts fuel rest
      return (part :: parts, rest)
    | _ => return ([part], rest)

/-- A key as the parts before the last and the last. -/
def key (cs : List Char) : Option (List String × String × List Char) := do
  let (parts, rest) ← keyParts (cs.length + 1) cs
  let last ← parts.getLast?
  if depthLimit ≤ parts.length then none
  else return (parts.dropLast, last, rest)

/-- The elements of an array behind its bracket or a comma, given a reader for each. -/
def arrayItems (value : List Char → Option (Value × List Char)) :
    Nat → List Char → Option (List Value × List Char)
  | 0, _ => none
  | fuel + 1, cs =>
    let cs := dropBlank cs.length cs
    match cs with
    | ']' :: rest => some ([], rest)
    | _ => do
      let (v, rest) ← value cs
      match dropBlank rest.length rest with
      | ',' :: rest =>
        let (vs, rest) ← arrayItems value fuel rest
        return (v :: vs, rest)
      | ']' :: rest => return ([v], rest)
      | _ => none

/-- The entries of an inline table behind its brace or a comma, added to those before. -/
def inlineEntries (value : List Char → Option (Value × List Char)) :
    Nat → Entries → List Char → Option (Entries × List Char)
  | 0, _, _ => none
  | fuel + 1, entries, cs => do
    let (path, last, rest) ← key cs
    let rest ← expect '=' rest
    let (v, rest) ← value (rest.dropWhile isSpace)
    let entries ← addValue path last v .inline entries
    match rest.dropWhile isSpace with
    | ',' :: rest => inlineEntries value fuel entries rest
    | '\x7d' :: rest => return (entries, rest)
    | _ => none

/-- A value, nested less deep than the given bound. -/
def value : Nat → List Char → Option (Value × List Char)
  | 0, _ => none
  | depth + 1, cs =>
    match cs with
    | '[' :: rest =>
      if depth = 0 then none
      else (arrayItems (value depth) (rest.length + 1) rest).map fun r => (.array r.1, r.2)
    | '\x7b' :: rest =>
      if depth = 0 then none
      else
        match rest.dropWhile isSpace with
        | '\x7d' :: rest => some (.table .inline [], rest)
        | _ =>
          (inlineEntries (value depth) (rest.length + 1) [] rest).map fun r =>
            (.table .inline r.1, r.2)
    | cs => scalar cs

/-- A document as far as it has been read: its entries, and the table opened last. -/
structure Draft where
  entries : Entries
  current : List String

/-- Reads a header behind its bracket or brackets. -/
def header (d : Draft) (close : String) (start : String → TableKind → Entries → Option Entries)
    (cs : List Char) : Option (Draft × List Char) := do
  let (path, last, rest) ← key cs
  let rest ← word? close rest
  let rest ← lineEnd? rest
  let entries ← updateAt false (start last) path .header d.entries
  return (⟨entries, path ++ [last]⟩, rest)

/-- Reads a key and its value. -/
def keyValue (d : Draft) (cs : List Char) : Option (Draft × List Char) := do
  let (path, last, rest) ← key cs
  let rest ← expect '=' rest
  let (v, rest) ← value depthLimit (rest.dropWhile isSpace)
  let rest ← lineEnd? rest
  let entries ← updateAt false (addValue path last v) d.current .header d.entries
  return ({ d with entries }, rest)

/-- Reads line after line; each uses at least one character. -/
def lines : Nat → Draft → List Char → Option Draft
  | 0, _, _ => none
  | fuel + 1, d, cs =>
    match cs.dropWhile isSpace with
    | [] => some d
    | '[' :: '[' :: rest => do
      let (d, rest) ← header d "]]" openArrayTable rest
      lines fuel d rest
    | '[' :: rest => do
      let (d, rest) ← header d "]" openTable rest
      lines fuel d rest
    | '#' :: rest => do
      let rest ← lineEnd? ('#' :: rest)
      lines fuel d rest
    | c :: rest =>
      match newline? (c :: rest) with
      | some rest => lines fuel d rest
      | none => do
        let (d, rest) ← keyValue d (c :: rest)
        lines fuel d rest

/-- Reads a document; a byte order mark at its start is passed over. -/
def parse (s : String) : Option Entries :=
  let cs := match s.toList with
    | '\ufeff' :: rest => rest
    | cs => cs
  (lines (cs.length + 1) ⟨[], []⟩ cs).map (·.entries)

end GameRunner.Toml

import GameRunner.Text.Quoted

/-!
# Why an archive cannot be read
-/

namespace GameRunner

/-- The reasons for which bytes are no archive. -/
inductive FormatError
  | invalidMagic (expected found : String)
  | unexpectedEof (offset need length : Nat)
  | missingChunk (tag : String)
  | invalidString (offset : Nat)
  deriving Repr, DecidableEq

/-- The wording of a format error. -/
def FormatError.message : FormatError → String
  | .invalidMagic expected found =>
    "invalid magic: expected " ++ Text.quoted expected ++ ", found " ++ Text.quoted found
  | .unexpectedEof offset need length =>
    "unexpected end of data at offset " ++ Text.hex offset ++
      s!" (need {need} bytes, file is {length} bytes)"
  | .missingChunk tag => s!"required chunk {tag} not found"
  | .invalidString offset => "string at offset " ++ Text.hex offset ++ " is not valid UTF-8"

end GameRunner

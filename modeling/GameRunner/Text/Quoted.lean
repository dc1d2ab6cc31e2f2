import GameRunner.Text.Case
import GameRunner.Text.Digits
import GameRunner.Text.HiddenTable

/-!
# Quoted text in messages

A text is shown between double quotes, with quotes, backslashes and the common controls escaped by a
letter and other characters without a visible form by their number.
-/

namespace GameRunner.Text

/-- Whether a character is written by its number. -/
def isHidden (c : Char) : Bool :=
  let n := c.toNat
  n < 0x20 || n = 0x7f || (0x80 ≤ n && inRanges hiddenRanges n)

/-- A character as it stands between the quotes. -/
def quotedChar (c : Char) : String :=
  if c = '"' then "\\\""
  else if c = '\\' then "\\\\"
  else if c = '\x00' then "\\0"
  else if c = '\t' then "\\t"
  else if c = '\n' then "\\n"
  else if c = '\r' then "\\r"
  else if isHidden c then "\\u\x7b" ++ hexDigits c.toNat ++ "\x7d"
  else c.toString

/-- A text between quotes. -/
def quoted (s : String) : String :=
  "\"" ++ String.join (s.toList.map quotedChar) ++ "\""

end GameRunner.Text

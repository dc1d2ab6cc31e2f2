/-!
# Text from bytes that may not be valid

Each longest start of an encoded character that cannot be completed is replaced by one replacement
character.
-/

namespace GameRunner.Text

/-- The character that stands for bytes without meaning. -/
def replacement : Char := '\ufffd'

/-- Whether a byte continues a character. -/
def isContinuation (b : UInt8) : Bool := 0x80 ≤ b && b ≤ 0xbf

/-- Whether the second byte of a character of three bytes may follow the first one. -/
def follows3 (b0 b1 : UInt8) : Bool :=
  (if b0 = 0xe0 then 0xa0 ≤ b1 else 0x80 ≤ b1) && (if b0 = 0xed then b1 ≤ 0x9f else b1 ≤ 0xbf)

/-- Whether the second byte of a character of four bytes may follow the first one. -/
def follows4 (b0 b1 : UInt8) : Bool :=
  (if b0 = 0xf0 then 0x90 ≤ b1 else 0x80 ≤ b1) && (if b0 = 0xf4 then b1 ≤ 0x8f else b1 ≤ 0xbf)

/-- The six low bits of a byte, in front of which the bits `high` stand. -/
def addBits (high : Nat) (b : UInt8) : Nat := high * 64 + b.toNat % 64

/-- Decodes bytes, replacing what is not valid. -/
def lossyChars : List UInt8 → List Char
  | [] => []
  | b0 :: r0 =>
    if b0 < 0x80 then Char.ofNat b0.toNat :: lossyChars r0
    else if 0xc2 ≤ b0 && b0 ≤ 0xdf then
      match r0 with
      | b1 :: r1 =>
        if isContinuation b1 then Char.ofNat (addBits (b0.toNat % 32) b1) :: lossyChars r1
        else replacement :: lossyChars (b1 :: r1)
      | [] => [replacement]
    else if 0xe0 ≤ b0 && b0 ≤ 0xef then
      match r0 with
      | b1 :: r1 =>
        if follows3 b0 b1 then
          match r1 with
          | b2 :: r2 =>
            if isContinuation b2 then
              Char.ofNat (addBits (addBits (b0.toNat % 16) b1) b2) :: lossyChars r2
            else replacement :: lossyChars (b2 :: r2)
          | [] => [replacement]
        else replacement :: lossyChars (b1 :: r1)
      | [] => [replacement]
    else if 0xf0 ≤ b0 && b0 ≤ 0xf4 then
      match r0 with
      | b1 :: r1 =>
        if follows4 b0 b1 then
          match r1 with
          | b2 :: r2 =>
            if isContinuation b2 then
              match r2 with
              | b3 :: r3 =>
                if isContinuation b3 then
                  Char.ofNat (addBits (addBits (addBits (b0.toNat % 8) b1) b2) b3) :: lossyChars r3
                else replacement :: lossyChars (b3 :: r3)
              | [] => [replacement]
            else replacement :: lossyChars (b2 :: r2)
          | [] => [replacement]
        else replacement :: lossyChars (b1 :: r1)
      | [] => [replacement]
    else replacement :: lossyChars r0

/-- The text of bytes, with replacements where they are not valid. -/
def lossy (bytes : List UInt8) : String := String.ofList (lossyChars bytes)

end GameRunner.Text

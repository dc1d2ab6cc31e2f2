import GameRunner.Code.Instruction
import GameRunner.Number.Text
import GameRunner.Text.Digits

/-!
# Listings

One line of text per instruction: its offset, its name and its operands.
-/

namespace GameRunner

namespace Literal

/-- The suffix and the operand of a pushed constant. -/
def listing : Literal → Option String
  | .none => Option.none
  | .double bits => some (".d " ++ Number.text (Float.ofBits bits))
  | .float bits => some (".f " ++ Number.singleText bits)
  | .int32 n => some s!".i {n}"
  | .int64 n => some s!".l {n}"
  | .bool b => some (if b then ".b true" else ".b false")
  | .str index => some s!".s string[{index}]"
  | .int16 n => some s!".e {n}"
  | .raw word => some (".? " ++ Text.hex word.toNat)

end Literal

namespace Instruction

/-- The operands of a variable access. -/
def accessListing (i : Instruction) : String :=
  let kind := Text.hex i.refKind.toNat
  s!" {i.extra} var[{i.variableIndex}] type={kind}"

/-- The operands of an instruction. -/
def operandListing (i : Instruction) : String :=
  match i.op? with
  | some .push => (i.literal.listing).getD (".v" ++ i.accessListing)
  | some .pushi => (i.literal.listing).getD (".v" ++ i.accessListing)
  | some .pushloc => i.accessListing
  | some .pushglb => i.accessListing
  | some .pushbltn => i.accessListing
  | some .pop => i.accessListing
  | some .call => s!" func[{i.functionIndex}] argc={i.argCount}"
  | some .cmp => s!" cmp={i.comparison}"
  | some .b => " " ++ Text.signed i.branchOffset
  | some .bt => " " ++ Text.signed i.branchOffset
  | some .bf => " " ++ Text.signed i.branchOffset
  | some .pushenv => " " ++ Text.signed i.branchOffset
  | some .popenv => " " ++ Text.signed i.branchOffset
  | some .dup => s!" {i.dupCount}"
  | _ => ""

/-- The line of an instruction. -/
def listing (i : Instruction) : String :=
  Text.padZeros 5 (Text.hexDigits i.offset) ++ ": " ++ i.name ++ i.operandListing

end Instruction

end GameRunner

import RiscvGloss.Mismatch
import RiscvGloss.Text.Upper

/-! Why a line has no explanation. -/

namespace RiscvGloss

/-- The reasons for rejecting a line. Mnemonics are in lower case, as they were looked up, and a
malformed memory reference is given as written. -/
inductive Rejection where
  | unknownInstruction (mnemonic : String)
  | malformedMemory (token : String)
  | unfit (mnemonic : String) (mismatch : Mismatch)
  deriving DecidableEq, Repr

/-- The wording of a rejection. A mismatch names its mnemonic in upper case. -/
def Rejection.message : Rejection → String
  | unknownInstruction mnemonic => s!"Unknown instruction {mnemonic}"
  | malformedMemory token => s!"Invalid memory operand: {token}"
  | unfit mnemonic mismatch => s!"{Text.upper mnemonic}: {mismatch.message}"

end RiscvGloss

import RiscvGloss.Instruction

/-! Checking operands against the format of their mnemonic. -/

namespace RiscvGloss

/-- How strictly lines are checked. With `upperFallthrough` an upper immediate has to pass the
check of loads and stores as well, which none does. -/
structure Settings where
  upperFallthrough : Bool := false
  deriving DecidableEq, Repr

/-- The settings as a record for developers. -/
def Settings.summary (settings : Settings) : String :=
  s!"Config \x7b upper_immediate_fallthrough: {settings.upperFallthrough} \x7d"

namespace Format

/-- The shapes that the operands have to fit, in the order of the checks. -/
def shapes (settings : Settings) : Format → List (List Expectation)
  | u => if settings.upperFallthrough then [u.shape, s.shape] else [u.shape]
  | format => [format.shape]

/-- The first mismatch of operands with the shapes of a format. -/
def mismatch? (settings : Settings) (format : Format) (operands : List Operand) :
    Option Mismatch :=
  (format.shapes settings).findSome? (Mismatch.between? · (operands.map Operand.kind))

end Format

namespace Instruction

/-- Rejects operands that do not fit the instruction. -/
def checkOperands (instruction : Instruction) (settings : Settings) (operands : List Operand) :
    Except Rejection Unit :=
  match instruction.format.mismatch? settings operands with
  | none => .ok ()
  | some mismatch => .error (.unfit instruction.mnemonic mismatch)

/-- The instruction that a mnemonic and its operands make. -/
def validate (settings : Settings) (mnemonic : String) (operands : List Operand) :
    Except Rejection Instruction := do
  let instruction ← find mnemonic
  instruction.checkOperands settings operands
  return instruction

end Instruction

end RiscvGloss

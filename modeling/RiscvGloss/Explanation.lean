import RiscvGloss.Logged
import RiscvGloss.Operand.Read
import RiscvGloss.Text.Lower
import RiscvGloss.Tokens

/-! Explaining a line: its first token is the mnemonic in any letter case, the others are operands.
Operands are read before the mnemonic is looked up, so a malformed one comes before an unknown
mnemonic. -/

namespace RiscvGloss

/-- The answer to a line without tokens. -/
def emptyLine : String := "Empty line"

/-- What is worth a warning about an operand: a base that is no register. -/
def Operand.warnings : Operand → List Event
  | memory text _ base =>
    if (Register.ofName? base).isSome then [] else [.unknownBase text base]
  | _ => []

/-- Reads a token as an operand. -/
def readOperand (token : String) : Attempt Operand := do
  let operand ← liftExcept (Operand.read token)
  Logged.note operand.warnings
  return operand

/-- The sentence for a mnemonic in lower case and its operands. -/
def explainOperands (settings : Settings) (mnemonic : String) (operands : List Operand) :
    Attempt String := do
  let instruction ← liftExcept (Instruction.find mnemonic)
  Logged.note [.format mnemonic instruction.format]
  liftExcept (instruction.checkOperands settings operands)
  return instruction.phrase.render operands

/-- The sentence for a line. -/
def explain (settings : Settings) (line : String) : Attempt String := do
  match tokens line with
  | [] => return emptyLine
  | first :: rest =>
    let operands ← rest.mapM readOperand
    Logged.note (operands.map .operand)
    explainOperands settings (Text.lower first) operands

/-- A rejection as an answer, with the line as given. -/
def Rejection.answer (line : String) (reason : Rejection) : String :=
  s!"Error in {line}: {reason.message}"

/-- The answer to a line: its sentence, or why there is none. -/
def gloss (settings : Settings) (line : String) : Logged String := do
  match ← (explain settings line).run with
  | .ok sentence => return sentence
  | .error reason =>
    Logged.note [.rejected line reason]
    return reason.answer line

end RiscvGloss

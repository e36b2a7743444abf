import RiscvGloss.Main
import RiscvGloss.Proofs.Explanation
import RiscvGloss.Proofs.Language
import RiscvGloss.Proofs.Phrase
import RiscvGloss.Proofs.Faithful
import RiscvGloss.Proofs.Text.CaseMap
import RiscvGloss.Proofs.Rejection
import RiscvGloss.Proofs.Answer
import RiscvGloss.Proofs.Text.CutAfter
import RiscvGloss.Proofs.Text.Utf8
import RiscvGloss.Proofs.Command.Input
import RiscvGloss.Proofs.Events
import RiscvGloss.Proofs.Log
import RiscvGloss.Proofs.Fallthrough
import RiscvGloss.Proofs.Command.Run
import RiscvGloss.Proofs.Command.Arguments
import RiscvGloss.Proofs.Command.Sources
import RiscvGloss.Proofs.Command.Quiet
import RiscvGloss.Proofs.Literal.Number
import RiscvGloss.Proofs.Literal.Value
import RiscvGloss.Proofs.Operand.Read
import RiscvGloss.Proofs.Text.Trim
import RiscvGloss.Proofs.Record
import RiscvGloss.Proofs.Command.Records
import RiscvGloss.Proofs.Verdict
import RiscvGloss.Proofs.Rendering
import RiscvGloss.Proofs.Tokens
import RiscvGloss.Proofs.Text.Lower
import RiscvGloss.Proofs.Mnemonic
import RiscvGloss.Proofs.Text.Digits
import RiscvGloss.Proofs.Literal.Spelling
import RiscvGloss.Proofs.Text.Quoted
import RiscvGloss.Proofs.RejectedRecord
import RiscvGloss.Proofs.Operand.Verbatim

import RiscvGloss.Literal
import RiscvGloss.Register

/-! Operands of an instruction. Each keeps its text as written, because explanations quote it. -/

namespace RiscvGloss

/-- An operand. Nothing is asked of its texts here. In an operand read from a token the text of an
immediate starts with an integer literal, but the base of a memory reference need not be a
register. -/
inductive Operand where
  | register (text : String) (register : Register)
  | immediate (text : String)
  | memory (text offset base : String)
  | label (text : String)
  deriving DecidableEq, Repr

namespace Operand

inductive Kind where
  | register
  | immediate
  | memory
  | label
  deriving DecidableEq, Repr

def Kind.name : Kind → String
  | register => "register"
  | immediate => "immediate"
  | memory => "memory"
  | label => "label"

def kind : Operand → Kind
  | register .. => .register
  | immediate _ => .immediate
  | memory .. => .memory
  | label _ => .label

/-- The operand as written. -/
def text : Operand → String
  | register text _ => text
  | immediate text => text
  | memory text _ _ => text
  | label text => text

def base? : Operand → Option String
  | memory _ _ base => some base
  | _ => none

def offset? : Operand → Option String
  | memory _ offset _ => some offset
  | _ => none

/-- The value of the literal that an immediate starts with. Other kinds have none. -/
def value? : Operand → Option Int
  | immediate text => do
    let literal ← Literal.read? text.toList
    return (← literal.value?).toInt
  | _ => none

end Operand

end RiscvGloss

import RiscvGloss.Operand

/-! Formats of instructions: which operands are written, and in what order. They are named after
the encoding formats but say nothing about encoding. -/

namespace RiscvGloss

/-- What a format expects in one place. A target is an immediate or a label. -/
inductive Expectation where
  | register
  | immediate
  | memory
  | target
  deriving DecidableEq, Repr

def Expectation.name : Expectation → String
  | register => "register"
  | immediate => "immediate"
  | memory => "memory"
  | target => "immediate or label"

/-- A kind of operand meets the expectation. -/
def Expectation.admits : Expectation → Operand.Kind → Bool
  | register, .register => true
  | immediate, .immediate => true
  | memory, .memory => true
  | target, .immediate => true
  | target, .label => true
  | _, _ => false

inductive Format where
  | r
  | i
  | s
  | b
  | j
  | u
  | e
  deriving DecidableEq, Repr

namespace Format

def letter : Format → String
  | r => "R"
  | i => "I"
  | s => "S"
  | b => "B"
  | j => "J"
  | u => "U"
  | e => "E"

/-- The operands of a format, in order. Loads and stores share one format, and `jalr` is written
like a branch. -/
def shape : Format → List Expectation
  | r => [.register, .register, .register]
  | i => [.register, .register, .immediate]
  | s => [.register, .memory]
  | b => [.register, .register, .target]
  | j => [.register, .target]
  | u => [.register, .immediate]
  | e => []

end Format

end RiscvGloss

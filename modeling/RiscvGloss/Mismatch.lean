import RiscvGloss.Format

/-! How operands fail to fit a shape: their number is wrong, or else the first one of a wrong kind
is. -/

namespace RiscvGloss

/-- Why operands do not fit a shape. Places are counted from zero. -/
inductive Mismatch where
  | count (expected found : Nat)
  | kind (index : Nat) (expected : Expectation) (found : Operand.Kind)
  deriving DecidableEq, Repr

namespace Mismatch

def message : Mismatch → String
  | count expected found =>
    s!"Incorrect number of operands, expected {expected}, got {found}"
  | kind index expected found =>
    s!"Expect {expected.name} at operand {index}, got {found.name}"

/-- The first place, counted from `index` on, where a kind does not meet the expectation. -/
def firstUnfit? (index : Nat) : List Expectation → List Operand.Kind → Option Mismatch
  | expected :: shape, found :: kinds =>
    if expected.admits found then firstUnfit? (index + 1) shape kinds
    else some (kind index expected found)
  | _, _ => none

/-- The mismatch of operands of these kinds with a shape, if there is one. -/
def between? (shape : List Expectation) (kinds : List Operand.Kind) : Option Mismatch :=
  if kinds.length = shape.length then firstUnfit? 0 shape kinds
  else some (count shape.length kinds.length)

end Mismatch

end RiscvGloss

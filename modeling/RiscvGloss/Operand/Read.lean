import RiscvGloss.Rejection
import RiscvGloss.Text.Blank

/-! Reading operands. A token with an opening parenthesis has to be a memory reference; any other
is a register if it is an ABI name, else an immediate if it starts with an integer literal, else a
label. -/

namespace RiscvGloss.Operand

/-- The text is an ASCII number in decimal with at most one sign. -/
def isOffset (cs : List Char) : Bool :=
  let digits := (Literal.splitSign cs).2
  !digits.isEmpty && digits.all Char.isDigit

/-- The character can stand in a word: ASCII letters, digits and the underscore. -/
def isWordChar (c : Char) : Bool :=
  c.isAlphanum || c == '_'

/-- The text is a word. -/
def isWord (cs : List Char) : Bool :=
  !cs.isEmpty && cs.all isWordChar

/-- The offset and the base of a memory reference: a number, and a word between parentheses. -/
def memoryParts? (cs : List Char) : Option (List Char × List Char) :=
  let offset := cs.takeWhile (· != '(')
  let inner := cs.drop (offset.length + 1)
  let base := inner.dropLast
  if isOffset offset && isWord base && inner.getLast? == some ')' then some (offset, base) else none

/-- Reads a token as an operand, without the blanks around it. -/
def read (token : String) : Except Rejection Operand :=
  let cs := Text.trim token.toList
  let text := String.ofList cs
  if cs.contains '(' then
    match memoryParts? cs with
    | some (offset, base) => .ok (memory text (String.ofList offset) (String.ofList base))
    | none => .error (.malformedMemory text)
  else
    match Register.ofName? text with
    | some r => .ok (register text r)
    | none => .ok (if (Literal.read? cs).isSome then immediate text else label text)

end RiscvGloss.Operand

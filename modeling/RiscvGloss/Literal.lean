/-! Integer literals: a sign, a radix mark and digits at the start of a text. Whatever follows the
digits is no part of the literal. Values are words of 64 bits with a sign. -/

namespace RiscvGloss

/-- The word of an integer, if 64 bits are enough for it. -/
def word? (n : Int) : Option Int64 :=
  if h : Int64.minValue.toInt ≤ n ∧ n ≤ Int64.maxValue.toInt then some (.ofIntLE n h.1 h.2)
  else none

inductive Radix where
  | binary
  | octal
  | decimal
  | hexadecimal
  deriving DecidableEq, Repr

namespace Radix

/-- The number of digits. -/
def base : Radix → Nat
  | binary => 2
  | octal => 8
  | decimal => 10
  | hexadecimal => 16

/-- The radix whose mark is `0` followed by this letter. Decimal digits have no mark. -/
def ofMark? : Char → Option Radix
  | 'b' | 'B' => some binary
  | 'o' | 'O' => some octal
  | 'x' | 'X' => some hexadecimal
  | _ => none

/-- The value of an ASCII digit or letter as a digit of the largest radix. -/
def digitValue? (c : Char) : Option Nat :=
  if '0' ≤ c ∧ c ≤ '9' then some (c.toNat - '0'.toNat)
  else if 'a' ≤ c ∧ c ≤ 'f' then some (c.toNat - 'a'.toNat + 10)
  else if 'A' ≤ c ∧ c ≤ 'F' then some (c.toNat - 'A'.toNat + 10)
  else none

/-- The value of a character as a digit of this radix. -/
def digit? (radix : Radix) (c : Char) : Option Nat :=
  (digitValue? c).filter (· < radix.base)

def isDigit (radix : Radix) (c : Char) : Bool :=
  (radix.digit? c).isSome

/-- The number with one more digit. There is none if the character is no digit, or if the product or
the sum overflows. -/
def extend? (radix : Radix) (number : Int64) (c : Char) : Option Int64 := do
  let digit ← radix.digit? c
  let product ← word? (number.toInt * radix.base)
  word? (product.toInt + digit)

/-- The number that digits of this radix denote, the first digit weighing most. It is built up digit
by digit, and there is none once a word is too small. -/
def value? (radix : Radix) (digits : List Char) : Option Int64 :=
  digits.foldlM radix.extend? 0

end Radix

structure Literal where
  negative : Bool
  radix : Radix
  digits : List Char
  deriving DecidableEq, Repr

namespace Literal

/-- A text without its sign, and whether the sign is a minus. -/
def splitSign : List Char → Bool × List Char
  | '-' :: cs => (true, cs)
  | '+' :: cs => (false, cs)
  | cs => (false, cs)

/-- The radix and the digits of an unsigned text that starts with a mark. A mark counts only before
a digit of its radix; but the mark of hexadecimal always counts, so that `0x` alone has no
digits. -/
def marked? : List Char → Option (Radix × List Char)
  | '0' :: mark :: cs => do
    let radix ← Radix.ofMark? mark
    let digits := cs.takeWhile radix.isDigit
    if digits.isEmpty && radix != .hexadecimal then none else some (radix, digits)
  | _ => none

/-- The radix and the digits at the start of an unsigned text, decimal ones without a mark. -/
def magnitude (cs : List Char) : Radix × List Char :=
  (marked? cs).getD (.decimal, cs.takeWhile Radix.decimal.isDigit)

/-- The literal at the start of a text. -/
def read? (cs : List Char) : Option Literal :=
  let (negative, unsigned) := splitSign cs
  let (radix, digits) := magnitude unsigned
  if digits.isEmpty then none else some ⟨negative, radix, digits⟩

/-- The value of a literal. Its number is read without the sign, and then negated if the sign is a
minus. -/
def value? (literal : Literal) : Option Int64 := do
  let number ← literal.radix.value? literal.digits
  return if literal.negative then -number else number

end Literal

end RiscvGloss

import RiscvGloss.Text.Pieces

/-! The lines that a run explains. -/

namespace RiscvGloss.Command

/-- Lines, and whether they are all there were. -/
structure Input where
  lines : List String
  complete : Bool
  deriving DecidableEq, Repr

namespace Input

/-- The byte that ends a line. -/
def newline : UInt8 := 10

/-- The byte that may stand right before a line's end and then is no part of the line. -/
def carriageReturn : UInt8 := 13

/-- A line without the carriage return before its end. -/
def dropReturn (line : List UInt8) : List UInt8 :=
  if line.getLast? = some carriageReturn then line.dropLast else line

/-- The lines of a stream. Its last line may lack the end, and then keeps a carriage return. -/
def splitLines (bytes : List UInt8) : List (List UInt8) :=
  let (ended, rest) := Text.cut (· == newline) bytes
  ended.map dropReturn ++ if rest.isEmpty then [] else [rest]

/-- The text of a line in UTF-8. -/
def decode? (line : List UInt8) : Option String :=
  String.fromUTF8? ⟨line.toArray⟩

/-- The lines of a stream up to the first one that is not UTF-8. -/
def ofBytes (bytes : List UInt8) : Input :=
  let texts := (splitLines bytes).map decode?
  ⟨(texts.takeWhile Option.isSome).filterMap id, texts.all Option.isSome⟩

/-- Lines that are all given. -/
def ofLines (lines : List String) : Input :=
  ⟨lines, true⟩

end Input

end RiscvGloss.Command

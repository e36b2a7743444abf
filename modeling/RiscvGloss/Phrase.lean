import RiscvGloss.Operand

/-! Sentences with gaps for operands. A phrase is a list of words that single spaces join, so that
its sentence can be taken apart at the spaces again. -/

namespace RiscvGloss

/-- What goes into a gap. Operands are counted from zero, and `target` is the word that says how a
jump target reads. -/
inductive Slot where
  | text (index : Nat)
  | base (index : Nat)
  | offset (index : Nat)
  | target (index : Nat)
  deriving DecidableEq, Repr

/-- The word for a jump target: a label by name, or else an offset. -/
def Operand.targetWord (operand : Operand) : String :=
  if operand.kind = .label then "label" else "offset"

/-- The text for a gap, if there is such an operand and it has the part. -/
def Slot.read? (operands : List Operand) : Slot → Option String
  | text index => operands[index]?.map Operand.text
  | base index => operands[index]?.bind Operand.base?
  | offset index => operands[index]?.bind Operand.offset?
  | target index => operands[index]?.map Operand.targetWord

/-- A word: fixed, or a gap between two fixed parts. -/
inductive Word where
  | fixed (text : String)
  | gap (before : String) (slot : Slot) (after : String)
  deriving DecidableEq, Repr

namespace Word

instance : Coe String Word := ⟨fixed⟩

def slot? : Word → Option Slot
  | fixed _ => none
  | gap _ slot _ => some slot

/-- The word with its gap filled. A gap without text stays empty. -/
def render (operands : List Operand) : Word → String
  | fixed text => text
  | gap before slot after => before ++ (slot.read? operands).getD "" ++ after

/-- An operand as written. -/
def operand (index : Nat) : Word :=
  gap "" (.text index) ""

end Word

abbrev Phrase := List Word

namespace Phrase

/-- The gaps of a phrase, in the order of the sentence. -/
def slots (phrase : Phrase) : List Slot :=
  phrase.filterMap Word.slot?

/-- The sentence for these operands. -/
def render (phrase : Phrase) (operands : List Operand) : String :=
  " ".intercalate (phrase.map (·.render operands))

end Phrase

end RiscvGloss

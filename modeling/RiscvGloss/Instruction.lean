import RiscvGloss.Format
import RiscvGloss.Phrase
import RiscvGloss.Rejection
import RiscvGloss.Text.Quoted

/-! The instructions: for each mnemonic its format and the phrase that explains it. -/

namespace RiscvGloss

namespace Phrase

/-- An operation on two values that is said as a verb. -/
def combine (verb link : String) : Phrase :=
  [verb, .operand 2, link, .operand 1, "and", "store", "result", "in", .operand 0]

/-- A shift in the direction of the sign. -/
def shift (sign : String) : Phrase :=
  [.operand 1, sign, .operand 2, "and", "store", "result", "in", .operand 0]

def load (size : String) : Phrase :=
  ["Load", size, "from", .gap "memory[" (.base 1) "", "+", .gap "" (.offset 1) "]", "→", .operand 0]

def store (size : String) : Phrase :=
  ["Store", size, .operand 0, "→", .gap "memory[" (.base 1) "", "+", .gap "" (.offset 1) "]"]

def branch (relation : String) : Phrase :=
  ["Branch", "to", .operand 2, "if", .operand 0, relation, .operand 1]

def jump : Phrase :=
  ["Jump", "to", .gap "" (.target 1) "", .operand 1, "and", "store", "return", "address", "in",
   .operand 0]

/-- A jump to a target from a base. -/
def jumpFrom : Phrase :=
  ["Jump", "to", .gap "" (.target 2) "", .operand 1, "+", .operand 2, "and", "store", "return",
   "address", "in", .operand 0]

def saveUpper : Phrase :=
  ["Save", .operand 1, "<<", "12", "to", .operand 0]

/-- An upper immediate, relative to the instruction. -/
def saveRelative : Phrase :=
  ["Save", "PC", "+", .gap "(" (.text 1) "", "<<", "12)", "to", .operand 0]

def environment (action : String) : Phrase :=
  ["Environment", action]

end Phrase

structure Instruction where
  mnemonic : String
  format : Format
  phrase : Phrase
  deriving DecidableEq, Repr

namespace Instruction

def table : List Instruction :=
  [⟨"add", .r, .combine "Add" "to"⟩,
   ⟨"sub", .r, .combine "Subtract" "from"⟩,
   ⟨"xor", .r, .combine "XOR" "to"⟩,
   ⟨"or", .r, .combine "OR" "to"⟩,
   ⟨"and", .r, .combine "AND" "to"⟩,
   ⟨"sll", .r, .shift "<<"⟩,
   ⟨"srl", .r, .shift ">>"⟩,
   ⟨"addi", .i, .combine "Add" "to"⟩,
   ⟨"xori", .i, .combine "XOR" "to"⟩,
   ⟨"ori", .i, .combine "OR" "to"⟩,
   ⟨"andi", .i, .combine "AND" "to"⟩,
   ⟨"lw", .s, .load "word"⟩,
   ⟨"ld", .s, .load "dword"⟩,
   ⟨"sw", .s, .store "word"⟩,
   ⟨"sd", .s, .store "dword"⟩,
   ⟨"beq", .b, .branch "=="⟩,
   ⟨"bne", .b, .branch "!="⟩,
   ⟨"blt", .b, .branch "<"⟩,
   ⟨"bge", .b, .branch ">="⟩,
   ⟨"jalr", .b, .jumpFrom⟩,
   ⟨"jal", .j, .jump⟩,
   ⟨"lui", .u, .saveUpper⟩,
   ⟨"auipc", .u, .saveRelative⟩,
   ⟨"ecall", .e, .environment "call"⟩,
   ⟨"ebreak", .e, .environment "break"⟩]

/-- The instruction with exactly this mnemonic. -/
def find? (mnemonic : String) : Option Instruction :=
  table.find? (·.mnemonic == mnemonic)

/-- The instruction with exactly this mnemonic, or the rejection of an unknown one. -/
def find (mnemonic : String) : Except Rejection Instruction :=
  match find? mnemonic with
  | some instruction => .ok instruction
  | none => .error (.unknownInstruction mnemonic)

/-- The entry as a record for developers. Its phrase is left out. -/
def summary (instruction : Instruction) : String :=
  "InstructionSpec \x7b mnemonic: " ++ Text.Quoted.quote instruction.mnemonic ++ ", format: " ++
    instruction.format.letter ++ ", .. \x7d"

theorem nodup_mnemonics : (table.map mnemonic).Nodup := by
  decide

theorem mem_of_find? {mnemonic : String} {instruction : Instruction}
    (h : find? mnemonic = some instruction) :
    instruction ∈ table ∧ instruction.mnemonic = mnemonic :=
  ⟨List.mem_of_find?_eq_some h, by simpa using List.find?_some h⟩

theorem find?_mnemonic {instruction : Instruction} (h : instruction ∈ table) :
    find? instruction.mnemonic = some instruction := by
  revert instruction
  decide

end Instruction

end RiscvGloss

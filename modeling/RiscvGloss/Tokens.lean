import RiscvGloss.Text.Blank
import RiscvGloss.Text.Pieces

/-! The tokens of a line: its longest parts without commas and blanks. -/

namespace RiscvGloss

def isSeparator (c : Char) : Bool :=
  c == ',' || Text.isBlank c

/-- The tokens of a line, in order. -/
def tokens (line : String) : List String :=
  ((Text.pieces isSeparator line.toList).filter (!·.isEmpty)).map String.ofList

/-- A token is not empty and holds no separator. -/
theorem ne_nil_and_not_separator_of_mem_tokens {line token : String} (h : token ∈ tokens line) :
    token.toList ≠ [] ∧ ∀ c ∈ token.toList, isSeparator c = false := by
  obtain ⟨piece, hp, rfl⟩ := List.mem_map.1 h
  obtain ⟨hp, hne⟩ := List.mem_filter.1 hp
  rw [String.toList_ofList]
  exact ⟨by simpa using hne, fun c hc => Text.not_separator_of_mem_pieces hp hc⟩

end RiscvGloss

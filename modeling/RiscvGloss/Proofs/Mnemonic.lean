import RiscvGloss.Proofs.Explanation
import RiscvGloss.Proofs.Text.Lower

/-! The spellings of mnemonics. The case of ASCII letters plays no part in what a line explains, and
besides the spellings that differ in that alone only one reaches the table: `ebreak` with the Kelvin
sign for its `k`. -/

namespace RiscvGloss

namespace Instruction

open Text

variable {instruction : Instruction}

theorem ascii_mnemonic (h : instruction ∈ table) : Ascii instruction.mnemonic.toList := by
  revert instruction
  decide

/-- Mnemonics are in lower case. -/
theorem map_toLower_mnemonic (h : instruction ∈ table) :
    instruction.mnemonic.toList.map Char.toLower = instruction.mnemonic.toList := by
  revert instruction
  decide

theorem mnemonic_eq_ebreak (h : instruction ∈ table) (hk : 'k' ∈ instruction.mnemonic.toList) :
    instruction.mnemonic = "ebreak" := by
  revert instruction
  decide

theorem sameUpToCase_mnemonic_iff (h : instruction ∈ table) (text : String) :
    SameUpToCase text instruction.mnemonic ↔
      text.toList.map Char.toLower = instruction.mnemonic.toList := by
  rw [SameUpToCase, map_toLower_mnemonic h]

/-- What becomes a mnemonic in lower case. -/
theorem lower_eq_mnemonic_iff (h : instruction ∈ table) (text : String) :
    lower text = instruction.mnemonic ↔ SameUpToCase text instruction.mnemonic ∨
      (instruction.mnemonic = "ebreak" ∧ SameUpToCase text "ebrea\u212A") := by
  have hascii := ascii_mnemonic h
  rw [lower_eq_iff hascii, sameUpToCase_mnemonic_iff h]
  by_cases hk : 'k' ∈ instruction.mnemonic.toList
  · have hebreak := mnemonic_eq_ebreak h hk
    rw [hebreak, and_iff_right rfl]
    exact map_plainLower_eq_concat_iff (by decide : Ascii "ebrea".toList) (by decide) text.toList
  · have hne : instruction.mnemonic ≠ "ebreak" := fun heq => hk (heq ▸ by decide)
    rw [map_plainLower_eq_iff hascii hk]
    simp [hne]

/-- The entry that a text reaches in lower case. -/
theorem find?_lower_eq_some_iff (text : String) :
    find? (lower text) = some instruction ↔ instruction ∈ table ∧
      (SameUpToCase text instruction.mnemonic ∨
        (instruction.mnemonic = "ebreak" ∧ SameUpToCase text "ebrea\u212A")) := by
  constructor
  · intro hfind
    obtain ⟨hmem, hnamed⟩ := mem_of_find? hfind
    exact ⟨hmem, (lower_eq_mnemonic_iff hmem text).1 hnamed.symm⟩
  · rintro ⟨hmem, hspelled⟩
    rw [(lower_eq_mnemonic_iff hmem text).2 hspelled]
    exact find?_mnemonic hmem

theorem isSome_find?_lower_iff (text : String) :
    (find? (lower text)).isSome ↔
      (∃ instruction ∈ table, SameUpToCase text instruction.mnemonic) ∨
        SameUpToCase text "ebrea\u212A" := by
  have hebreak : ∃ instruction ∈ table, instruction.mnemonic = "ebreak" := by decide
  simp only [Option.isSome_iff_exists, find?_lower_eq_some_iff]
  constructor
  · rintro ⟨instruction, hmem, hcase | ⟨-, hkelvin⟩⟩
    · exact .inl ⟨instruction, hmem, hcase⟩
    · exact .inr hkelvin
  · rintro (⟨instruction, hmem, hcase⟩ | hkelvin)
    · exact ⟨instruction, hmem, .inl hcase⟩
    · obtain ⟨instruction, hmem, hnamed⟩ := hebreak
      exact ⟨instruction, hmem, .inr ⟨hnamed, hkelvin⟩⟩

end Instruction

open Text in
/-- Lines that differ only in the case of ASCII letters in the first token have the same result, a
sentence or a rejection. The first token reaches the table exactly when it is a mnemonic up to the
case of ASCII letters, or `ebreak` with the Kelvin sign for the `k`. -/
theorem explain_ignores_case :
    (∀ (settings : Settings) {line line' first first' : String} {rest : List String},
      tokens line = first :: rest → tokens line' = first' :: rest → SameUpToCase first first' →
        (explain settings line).run.value = (explain settings line').run.value) ∧
    ∀ {line first : String} {rest : List String}, tokens line = first :: rest →
      ((Instruction.find? (lower first)).isSome ↔
        (∃ instruction ∈ Instruction.table, SameUpToCase first instruction.mnemonic) ∨
          SameUpToCase first "ebrea\u212A") := by
  refine ⟨?_, fun {_ first _} _ => Instruction.isSome_find?_lower_iff first⟩
  intro settings line line' first first' rest htokens htokens' hcase
  rw [value_run_explain, value_run_explain, htokens, htokens']
  simp only [hcase.lower_eq]

/-- A letter written as a capital, and the Kelvin sign. -/
theorem explain_ignores_case_of_ebreak :
    (explain {} "eBREAK").run.value = (explain {} "ebreak").run.value ∧
    ((Instruction.find? (Text.lower "ebrea\u212A")).isSome ↔
      (∃ instruction ∈ Instruction.table,
          Text.SameUpToCase "ebrea\u212A" instruction.mnemonic) ∨
        Text.SameUpToCase "ebrea\u212A" "ebrea\u212A") :=
  ⟨explain_ignores_case.1 {} (by decide +kernel : tokens "eBREAK" = ["eBREAK"])
      (by decide +kernel : tokens "ebreak" = ["ebreak"]) (by decide),
    explain_ignores_case.2 (by decide +kernel : tokens "ebrea\u212A" = ["ebrea\u212A"])⟩

-- A capital with a dot is no capital of ASCII, and there are letters that only look like those.
example : ∀ text ∈ ["add\u0130", "ａｄｄ", "ſub"], Instruction.find? (Text.lower text) = none := by
  decide +kernel

end RiscvGloss

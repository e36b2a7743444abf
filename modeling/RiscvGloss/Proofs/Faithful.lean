import RiscvGloss.Proofs.Explanation
import RiscvGloss.Proofs.Phrase

/-! Explanations are faithful: two lines have the same explanation only when they have the same
mnemonic in lower case and the same operand tokens. -/

namespace RiscvGloss

theorem texts_eq_of_reads {rest : List String} {operands : List Operand}
    (h : List.Forall₂ Operand.Reads rest operands) : operands.map Operand.text = rest := by
  induction h with
  | nil => rfl
  | cons hread _ ih => rw [List.map_cons, ih, hread.text_eq]

theorem operands_eq_of_reads {line first : String} {rest : List String}
    (htokens : tokens line = first :: rest) {operands operands' : List Operand}
    (h : List.Forall₂ Operand.Reads rest operands)
    (h' : List.Forall₂ Operand.Reads rest operands') : operands = operands' := by
  have hread := (mapM_read_eq_ok_iff htokens).2 h
  have hread' := (mapM_read_eq_ok_iff htokens).2 h'
  exact Except.ok.inj (hread.symm.trans hread')

/-- The operands of an accepted line fit the instruction. -/
theorem Accepts.fitting {settings : Settings} {line first : String} {rest : List String}
    {instruction : Instruction} {operands : List Operand}
    (h : Accepts settings first rest instruction operands) (htokens : tokens line = first :: rest) :
    Fitting instruction.format.shape operands := by
  have hrest := texts_eq_of_reads h.reads
  refine ⟨h.fits, fun operand hmem => ?_, fun operand hmem => ?_⟩
  · obtain ⟨token, -, hread⟩ : ∃ token ∈ rest, Operand.Reads token operand := by
      obtain ⟨index, hlt, rfl⟩ := List.getElem_of_mem hmem
      have hlt' : index < rest.length := h.reads.length_eq ▸ hlt
      exact ⟨rest[index], List.getElem_mem hlt', by simpa using h.reads.get hlt' hlt⟩
    rwa [hread.text_eq]
  · refine @not_isBlank_of_mem_tokens line _ ?_
    rw [htokens, ← hrest]
    exact List.mem_cons_of_mem _ (List.mem_map_of_mem hmem)

/-- Two lines that both have an explanation, under any settings, have the same one exactly when
neither has a token, or both have tokens, the first ones agree in lower case and the others agree
text for text. -/
theorem explanation_eq_iff (settings settings' : Settings) {line line' sentence sentence' : String}
    (h : (explain settings line).run.value = .ok sentence)
    (h' : (explain settings' line').run.value = .ok sentence') :
    sentence = sentence' ↔ (tokens line = [] ∧ tokens line' = []) ∨
      ∃ first first' rest, tokens line = first :: rest ∧ tokens line' = first' :: rest ∧
        Text.lower first = Text.lower first' := by
  rcases explain_eq_ok_iff.1 h with ⟨hempty, rfl⟩ | ⟨first, rest, i, operands, htokens, ha, rfl⟩
  · rcases explain_eq_ok_iff.1 h' with ⟨hempty', rfl⟩ |
      ⟨first', rest', i', operands', htokens', ha', rfl⟩
    · simp [hempty, hempty']
    · have hne := Instruction.render_ne_emptyLine ha'.known (ha'.fitting htokens')
      simp [hempty, htokens', emptyLine, hne.symm]
  · rcases explain_eq_ok_iff.1 h' with ⟨hempty', rfl⟩ |
      ⟨first', rest', i', operands', htokens', ha', rfl⟩
    · have hne := Instruction.render_ne_emptyLine ha.known (ha.fitting htokens)
      simp [hempty', htokens, emptyLine, hne]
    · constructor
      · intro heq
        obtain ⟨rfl, htexts⟩ := Instruction.eq_of_render_eq ha.known ha'.known
          (ha.fitting htokens) (ha'.fitting htokens') heq
        rw [texts_eq_of_reads ha.reads, texts_eq_of_reads ha'.reads] at htexts
        subst htexts
        exact .inr ⟨first, first', rest, htokens, htokens', ha.named.symm.trans ha'.named⟩
      · rintro (⟨hempty, -⟩ | ⟨first₁, first₂, rest₁, h₁, h₂, hlower⟩)
        · simp [htokens] at hempty
        · cases htokens.symm.trans h₁
          cases htokens'.symm.trans h₂
          have hi : i = i' := by
            have := Instruction.find?_mnemonic ha.known
            rw [ha.named, hlower, ← ha'.named, Instruction.find?_mnemonic ha'.known] at this
            exact (Option.some.inj this).symm
          subst hi
          rw [operands_eq_of_reads htokens ha.reads ha'.reads]

/-- A load written in two ways. -/
theorem explanation_eq_iff_of_load :
    (explain {} "LW t0,4(sp)").run.value = .ok "Load word from memory[sp + 4] → t0" ∧
    (explain ⟨true⟩ "  lw ,t0 4(sp)").run.value = .ok "Load word from memory[sp + 4] → t0" ∧
    ("Load word from memory[sp + 4] → t0" = "Load word from memory[sp + 4] → t0" ↔
      (tokens "LW t0,4(sp)" = [] ∧ tokens "  lw ,t0 4(sp)" = []) ∨
      ∃ first first' rest, tokens "LW t0,4(sp)" = first :: rest ∧
        tokens "  lw ,t0 4(sp)" = first' :: rest ∧ Text.lower first = Text.lower first') :=
  ⟨rfl, rfl, explanation_eq_iff {} ⟨true⟩ rfl rfl⟩

end RiscvGloss

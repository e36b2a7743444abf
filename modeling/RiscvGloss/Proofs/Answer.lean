import RiscvGloss.Proofs.Faithful
import RiscvGloss.Proofs.Rejection

/-! The answer to a line shows whether there is an explanation, and an answer without one gives back
the line and the reason, whatever the line holds. -/

namespace RiscvGloss

/-- What answers without an explanation start with. -/
def errorPrefix : String := "Error in "

namespace Instruction

/-- The phrases of the table start with a word that is never the word of errors. -/
theorem exists_first_apart {instruction : Instruction} (h : instruction ∈ table) :
    ∃ word rest, instruction.phrase = word :: rest ∧
      word.apart instruction.format.shape [] (.fixed "Error") = true := by
  have hall : ∀ instruction ∈ table, ∃ word ∈ instruction.phrase.head?,
      word.apart instruction.format.shape [] (.fixed "Error") = true := by decide
  obtain ⟨word, hhead, hapart⟩ := hall instruction h
  obtain ⟨rest, hphrase⟩ := List.head?_eq_some_iff.1 hhead
  exact ⟨word, rest, hphrase, hapart⟩

theorem render_ne_append_errorPrefix {instruction : Instruction} {operands : List Operand}
    (hi : instruction ∈ table) (h : Fitting instruction.format.shape operands) (text : String) :
    instruction.phrase.render operands ≠ errorPrefix ++ text := by
  intro heq
  obtain ⟨word, rest, hphrase, hapart⟩ := exists_first_apart hi
  have hwords : word.render operands :: rest.map (·.render operands) =
      "Error" :: Text.words ("in " ++ text) := by
    rw [← List.map_cons, ← hphrase, ← Phrase.words_render h (blankless_of_mem hi), heq,
      show errorPrefix = "Error" ++ " " ++ "in " from rfl, String.append_assoc, Text.words_append]
    rfl
  exact Word.render_ne_of_apart h Fitting.nil hapart (List.cons.inj hwords).1

end Instruction

section

variable {settings settings' : Settings} {line line' : String} {reason reason' : Rejection}

theorem value_gloss (settings : Settings) (line : String) :
    (gloss settings line).value = match (explain settings line).run.value with
      | .ok sentence => sentence
      | .error reason => reason.answer line := by
  rw [gloss, Logged.value_bind]
  cases (explain settings line).run.value <;> rfl

theorem Rejection.answer_eq (line : String) (reason : Rejection) :
    reason.answer line = errorPrefix ++ (line ++ ": " ++ reason.message) := by
  change "Error in " ++ line ++ ": " ++ reason.message = _
  rw [errorPrefix, String.append_assoc, String.append_assoc, String.append_assoc]

/-- What a rejection quotes comes from a token of the line. -/
theorem blankless_quoted (h : (explain settings line).run.value = .error reason) :
    Text.Blankless reason.quoted := by
  obtain ⟨first, rest, htokens, hrejects⟩ := explain_eq_error_iff.1 h
  have htoken : ∀ token ∈ first :: rest, Text.Blankless token :=
    fun token hmem => not_isBlank_of_mem_tokens (htokens ▸ hmem)
  have hfirst : Text.Blankless (Text.lower first) := (htoken first (by simp)).lower
  cases hrejects with
  | malformed before token after split plain bad => exact htoken token (by simp [split])
  | unknown operands reads unknown => exact hfirst
  | unfit instruction operands calls mismatch found => exact hfirst

theorem explanation_ne_append_errorPrefix {sentence : String}
    (h : (explain settings line).run.value = .ok sentence) (text : String) :
    sentence ≠ errorPrefix ++ text := by
  rcases explain_eq_ok_iff.1 h with ⟨-, rfl⟩ | ⟨first, rest, i, operands, htokens, haccepts, rfl⟩
  · intro heq
    have hlists := congrArg String.toList heq
    rw [String.toList_append] at hlists
    exact absurd (List.cons.inj (List.cons.inj hlists).2).1 (by decide)
  · exact Instruction.render_ne_append_errorPrefix haccepts.known (haccepts.fitting htokens) text

theorem spaced_explanation {sentence : String}
    (h : (explain settings line).run.value = .ok sentence) : Text.Spaced sentence := by
  rcases explain_eq_ok_iff.1 h with ⟨-, rfl⟩ | ⟨first, rest, i, operands, htokens, haccepts, rfl⟩
  · decide
  · exact Phrase.spaced_render (haccepts.fitting htokens)
      (Instruction.blankless_of_mem haccepts.known)

/-- The answer to a line has no newline that the line does not have. -/
theorem newline_not_mem_gloss (settings : Settings) (h : '\n' ∉ line.toList) :
    '\n' ∉ (gloss settings line).value.toList := by
  rw [value_gloss]
  cases hvalue : (explain settings line).run.value with
  | ok sentence => exact (spaced_explanation hvalue).newline_not_mem
  | error reason =>
    have hmessage := (Rejection.spaced_message (blankless_quoted hvalue)).newline_not_mem
    simp [Rejection.answer_eq, errorPrefix, h, hmessage]

theorem startsWith_errorPrefix_iff {settings : Settings} {line : String} :
    (gloss settings line).value.startsWith errorPrefix = true ↔
      ∃ reason, (explain settings line).run.value = .error reason := by
  rw [value_gloss, String.startsWith_string_iff]
  cases h : (explain settings line).run.value with
  | ok sentence =>
    constructor
    · rintro ⟨text, htext⟩
      refine absurd (String.toList_inj.1 ?_)
        (explanation_ne_append_errorPrefix h (String.ofList text))
      simpa using htext.symm
    · rintro ⟨_, h⟩
      cases h
  | error reason =>
    simp only [Rejection.answer_eq, String.toList_append, List.prefix_append, true_iff]
    exact ⟨reason, rfl⟩

theorem answer_inj (h : Text.Blankless reason.quoted) (h' : Text.Blankless reason'.quoted)
    (heq : reason.answer line = reason'.answer line') :
    line = line' ∧ reason.message = reason'.message := by
  rw [Rejection.answer_eq, Rejection.answer_eq, String.append_right_inj] at heq
  exact Rejection.append_message_inj h h' heq

end

/-- The answer to a line starts like an error exactly when the line has no explanation. Two lines
without explanations, under any settings, have equal answers only when they are the same line and
the messages are the same. -/
theorem gloss_unambiguous :
    (∀ settings line, (gloss settings line).value.startsWith "Error in " = true ↔
      ∃ reason, (explain settings line).run.value = .error reason) ∧
    ∀ settings settings' line line' reason reason',
      (explain settings line).run.value = .error reason →
      (explain settings' line').run.value = .error reason' →
      (gloss settings line).value = (gloss settings' line').value →
      line = line' ∧ reason.message = reason'.message := by
  refine ⟨fun settings line => startsWith_errorPrefix_iff, ?_⟩
  intro settings settings' line line' reason reason' h h' heq
  simp only [value_gloss, h, h'] at heq
  exact answer_inj (blankless_quoted h) (blankless_quoted h') heq

/-- A line that copies an answer and its message. -/
theorem gloss_unambiguous_of_copied_message :
    (explain {} "x: Unknown instruction x:\nError in x").run.value =
      .error (.unknownInstruction "x:") ∧
    (explain ⟨true⟩ "x: Unknown instruction x:\nError in x").run.value =
      .error (.unknownInstruction "x:") ∧
    (gloss {} "x: Unknown instruction x:\nError in x").value =
      (gloss ⟨true⟩ "x: Unknown instruction x:\nError in x").value ∧
    "x: Unknown instruction x:\nError in x" = "x: Unknown instruction x:\nError in x" ∧
    (Rejection.unknownInstruction "x:").message = (Rejection.unknownInstruction "x:").message :=
  ⟨rfl, rfl, rfl, gloss_unambiguous.2 {} ⟨true⟩ _ _ _ _ rfl rfl rfl⟩

end RiscvGloss

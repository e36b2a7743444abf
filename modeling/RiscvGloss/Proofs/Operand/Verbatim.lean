import RiscvGloss.Proofs.Events
import RiscvGloss.Proofs.Faithful
import RiscvGloss.Proofs.Text.Trim

/-! Operands as written. Reading a token gives back its text without the blanks around it, in the
operand or in the rejection, and depends on nothing else of the token. Tokens of a line have no
blanks around them, so the operands of a line carry its tokens unchanged and in order. -/

namespace RiscvGloss

namespace Operand

variable {token token' text : String}

/-- What reading gives carries the text: an operand is written so, and a rejection is about it. -/
def Carries (text : String) : Except Rejection Operand → Prop
  | .ok operand => operand.text = text
  | .error reason => reason = .malformedMemory text

/-- Tokens with the same text between their blanks read the same. -/
theorem read_congr (h : Text.IsTrimOf text.toList token.toList)
    (h' : Text.IsTrimOf text.toList token'.toList) : read token = read token' := by
  rw [read, read, Text.trim_eq_iff.2 h, Text.trim_eq_iff.2 h']

theorem carries_read (h : Text.IsTrimOf text.toList token.toList) : Carries text (read token) := by
  have htext := Text.ofList_trim_eq_iff.2 h
  cases hread : read token with
  | ok operand => exact ((read_eq_ok_iff htext).1 hread).text_eq
  | error reason => exact ((read_eq_error_iff htext).1 hread).2

end Operand

theorem trimmed_of_mem_tokens {line token : String} (h : token ∈ tokens line) :
    Text.trimmed token = token :=
  Operand.trim_token (not_isBlank_of_mem_tokens h)

/-- The operand that an event notes. -/
def Event.operand? : Event → Option Operand
  | operand o => some o
  | _ => none

/-- The operands that are noted on the way to a result. -/
def Logged.operands {α : Type} (x : Logged α) : List Operand :=
  x.events.filterMap Event.operand?

section

variable {settings : Settings} {line first : String} {rest : List String}
  {operands : List Operand}

theorem operands_run_explain (h : (tokens line).tail.mapM Operand.read = .ok operands) :
    (explain settings line).run.operands = operands := by
  have hbase (token base : String) : (Event.unknownBase token base).operand? = none := rfl
  have hwarnings := List.filterMap_eq_nil_iff.2
    (Logged.forall_mem_events_mapM (forall_mem_events_readOperand hbase) (tokens line).tail)
  rw [Logged.operands, events_run_explain]
  cases htokens : tokens line with
  | nil =>
    rw [htokens] at h
    exact Except.ok.inj h
  | cons first rest =>
    rw [htokens, List.tail_cons] at h hwarnings
    have hformat := List.filterMap_eq_nil_iff.2
      (forall_mem_formatEvents (p := (·.operand? = none)) (fun _ _ => rfl) (Text.lower first))
    have hnoted : (operands.map Event.operand).filterMap Event.operand? = operands := by
      rw [List.filterMap_map]
      exact List.filterMap_some
    simp only [h]
    rw [List.filterMap_append, List.filterMap_append, hwarnings, hformat, hnoted, List.nil_append,
      List.append_nil]

theorem texts_of_mapM_read (h : (tokens line).tail.mapM Operand.read = .ok operands) :
    operands.map Operand.text = (tokens line).tail := by
  cases htokens : tokens line with
  | nil =>
    rw [htokens] at h
    cases Except.ok.inj h
    rfl
  | cons first rest =>
    rw [htokens] at h
    exact texts_eq_of_reads ((mapM_read_eq_ok_iff htokens).1 h)

theorem value_run_explain_of_mapM_read (htokens : tokens line = first :: rest)
    (h : rest.mapM Operand.read = .ok operands) : (explain settings line).run.value =
      (explainOperands settings (Text.lower first) operands).run.value := by
  rw [value_run_explain, value_run_explainOperands, htokens]
  simp only [h]
  rfl

theorem mem_tail_of_malformed {token : String}
    (h : (explain settings line).run.value = .error (.malformedMemory token)) :
    token ∈ (tokens line).tail := by
  obtain ⟨first, rest, htokens, hrejects⟩ := explain_eq_error_iff.1 h
  cases hrejects with
  | malformed before _ after split plain bad => simp [htokens, split]

/-- Operands that do not all read are the reason for rejecting their line. -/
theorem exists_malformed_of_mapM_read {reason : Rejection}
    (h : (tokens line).tail.mapM Operand.read = .error reason) :
    ∃ token, (explain settings line).run.value = .error (.malformedMemory token) := by
  cases htokens : tokens line with
  | nil =>
    rw [htokens] at h
    cases h
  | cons first rest =>
    rw [htokens, List.tail_cons] at h
    obtain ⟨before, token, after, -, -, -, rfl⟩ := (mapM_read_eq_error_iff htokens).1 h
    refine ⟨token, ?_⟩
    rw [value_run_explain, htokens]
    simp only [h]
    rfl

end

/-- The operands of a line are its tokens after the first one. Once they are all read, they have
these texts in this order, are noted so, and are explained. Else the line is rejected over one of
these tokens. -/
structure KeepsTokens (settings : Settings) (line : String) : Prop where
  texts : ∀ operands, ((tokens line).tail.mapM readOperand).run.value = .ok operands →
    operands.map Operand.text = (tokens line).tail
  noted : ∀ operands, ((tokens line).tail.mapM readOperand).run.value = .ok operands →
    (explain settings line).run.operands = operands
  explained : ∀ operands, ((tokens line).tail.mapM readOperand).run.value = .ok operands →
    ∀ first ∈ (tokens line).head?, (explain settings line).run.value =
      (explainOperands settings (Text.lower first) operands).run.value
  rejected : ∀ token, (explain settings line).run.value = .error (.malformedMemory token) →
    token ∈ (tokens line).tail
  total : (∃ operands, ((tokens line).tail.mapM readOperand).run.value = .ok operands) ∨
    ∃ token, (explain settings line).run.value = .error (.malformedMemory token)

theorem keepsTokens (settings : Settings) (line : String) : KeepsTokens settings line := by
  have hvalue := value_run_mapM_readOperand (tokens line).tail
  refine ⟨fun operands h => ?_, fun operands h => ?_, fun operands h first hfirst => ?_,
    fun _ => mem_tail_of_malformed, ?_⟩
  · exact texts_of_mapM_read (hvalue ▸ h)
  · exact operands_run_explain (hvalue ▸ h)
  · obtain ⟨rest, htokens⟩ := List.head?_eq_some_iff.1 hfirst
    rw [hvalue, htokens, List.tail_cons] at h
    exact value_run_explain_of_mapM_read htokens h
  · rw [hvalue]
    cases h : (tokens line).tail.mapM Operand.read with
    | ok operands => exact .inl ⟨operands, rfl⟩
    | error reason => exact .inr (exists_malformed_of_mapM_read h)

/-- What a token reads as carries the text between the blanks at its ends, is what this text alone
reads as, and stays the same with more blanks around the token. The tokens of a line are such texts
themselves, and its operands keep them. -/
theorem reading_keeps_text :
    (∀ token, Text.IsTrimOf (Text.trimmed token).toList token.toList ∧
      Operand.Carries (Text.trimmed token) (Operand.read token) ∧
      Operand.read (Text.trimmed token) = Operand.read token ∧
      ∀ before after : String, (∀ c ∈ before.toList ++ after.toList, Text.isBlank c = true) →
        Operand.read (before ++ token ++ after) = Operand.read token) ∧
    (∀ line, ∀ token ∈ tokens line, Text.trimmed token = token) ∧
    ∀ settings line, KeepsTokens settings line := by
  refine ⟨fun token => ?_, fun _ _ => trimmed_of_mem_tokens, keepsTokens⟩
  have htrim := Text.isTrimOf_trimmed token
  refine ⟨htrim, Operand.carries_read htrim, Operand.read_congr htrim.self htrim, ?_⟩
  intro before after hblank
  refine Operand.read_congr ?_ htrim
  simpa only [String.toList_append] using htrim.append_blanks hblank

/-- A malformed operand with blanks at its ends and more around these, and as a token of a line. -/
theorem reading_keeps_text_of_malformed :
    (∀ c ∈ "\u3000".toList ++ "\t".toList, Text.isBlank c = true) ∧
    Operand.read ("\u3000" ++ "\u00a08(sp " ++ "\t") = Operand.read "\u00a08(sp " ∧
    "8(sp" ∈ tokens "lw a0,\u20038(sp" ∧ Text.trimmed "8(sp" = "8(sp" ∧
    (explain {} "lw a0,\u20038(sp").run.value = .error (.malformedMemory "8(sp") ∧
    "8(sp" ∈ (tokens "lw a0,\u20038(sp").tail := by
  have hblank : ∀ c ∈ "\u3000".toList ++ "\t".toList, Text.isBlank c = true :=
    List.all_eq_true.1 (by decide)
  have hmem : "8(sp" ∈ tokens "lw a0,\u20038(sp" := by decide +kernel
  have hvalue : (explain {} "lw a0,\u20038(sp").run.value = .error (.malformedMemory "8(sp") := by
    decide +kernel
  exact ⟨hblank, (reading_keeps_text.1 _).2.2.2 _ _ hblank, hmem, reading_keeps_text.2.1 _ _ hmem,
    hvalue, (reading_keeps_text.2.2 {} _).rejected _ hvalue⟩

end RiscvGloss

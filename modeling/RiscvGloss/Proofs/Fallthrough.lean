import RiscvGloss.Proofs.Events

/-! What the fallthrough changes: upper immediates that would be accepted are rejected, for their
second operand is no memory reference. Every other result, every other rejection and the log up to
the rejection stay as they are. -/

namespace RiscvGloss

/-- How the fallthrough finds fault with an upper immediate that fits its own shape. -/
def Mismatch.fallthrough : Mismatch :=
  .kind 1 .memory .immediate

/-- The fallthrough adds a mismatch only where there was none. -/
theorem Format.mismatch?_fallthrough (format : Format) (operands : List Operand) :
    format.mismatch? ⟨true⟩ operands = (format.mismatch? ⟨false⟩ operands).or
      (if format = .u then some .fallthrough else none) := by
  cases hdefault : format.mismatch? ⟨false⟩ operands with
  | some mismatch =>
    rw [Option.some_or, mismatch?_eq_some_iff]
    rcases mismatch?_eq_some_iff.1 hdefault with hfirst | ⟨-, ⟨hfalse, -⟩, -⟩
    · exact .inl hfirst
    · cases hfalse
  | none =>
    -- what fits its own shape is checked a second time only as an upper immediate
    obtain ⟨hfits, -⟩ := mismatch?_eq_none_iff.1 hdefault
    rw [Option.none_or]
    split
    · rename_i hupper
      exact mismatch?_eq_some_iff.2 (.inr ⟨hfits, ⟨rfl, hupper⟩, rfl⟩)
    · rename_i hupper
      exact mismatch?_eq_none_iff.2 ⟨hfits, fun h => hupper h.2⟩

namespace Instruction

variable {instruction : Instruction} {settings : Settings} {mnemonic : String}
  {operands : List Operand}

theorem format_eq_u_iff (h : instruction ∈ table) :
    instruction.format = .u ↔ instruction.mnemonic = "lui" ∨ instruction.mnemonic = "auipc" := by
  revert instruction
  decide

theorem validate_of_find (h : find mnemonic = .ok instruction) :
    validate settings mnemonic operands =
      match instruction.format.mismatch? settings operands with
      | none => .ok instruction
      | some mismatch => .error (.unfit mnemonic mismatch) := by
  obtain ⟨-, rfl⟩ := find_eq_ok_iff.1 h
  rw [validate, h]
  change (checkOperands instruction settings operands >>= fun _ => pure instruction) = _
  rw [checkOperands]
  cases instruction.format.mismatch? settings operands <;> rfl

theorem find_of_validate (h : validate settings mnemonic operands = .ok instruction) :
    find mnemonic = .ok instruction := by
  obtain ⟨found, hfind, h⟩ := bind_eq_ok_iff.1 h
  obtain ⟨-, -, h⟩ := bind_eq_ok_iff.1 h
  cases h
  exact hfind

theorem validate_fallthrough (mnemonic : String) (operands : List Operand) :
    validate ⟨true⟩ mnemonic operands = match validate ⟨false⟩ mnemonic operands with
      | .ok instruction =>
        if instruction.format = .u then .error (.unfit mnemonic .fallthrough) else .ok instruction
      | .error reason => .error reason := by
  cases hfind : find mnemonic with
  | error reason =>
    rw [validate, validate, hfind]
    rfl
  | ok instruction =>
    rw [validate_of_find hfind, validate_of_find hfind, Format.mismatch?_fallthrough]
    cases instruction.format.mismatch? ⟨false⟩ operands with
    | some mismatch => rfl
    | none => by_cases hupper : instruction.format = .u <;> simp [hupper]

end Instruction

/-- The result for a mnemonic and its operands, with the check of the operands as a whole. -/
theorem value_run_explainOperands_eq_validate (settings : Settings) (mnemonic : String)
    (operands : List Operand) :
    (explainOperands settings mnemonic operands).run.value =
      (Instruction.validate settings mnemonic operands).map fun instruction =>
        instruction.phrase.render operands := by
  rw [value_run_explainOperands, Instruction.validate]
  cases Instruction.find mnemonic with
  | error reason => rfl
  | ok instruction =>
    simp only [bind, Except.bind]
    cases instruction.checkOperands settings operands <;> rfl

/-- The result of explaining a line, with the check of the operands as a whole. -/
theorem value_run_explain_eq_validate (settings : Settings) (line : String) :
    (explain settings line).run.value = match tokens line with
      | [] => .ok emptyLine
      | first :: rest => rest.mapM Operand.read >>= fun operands =>
        (Instruction.validate settings (Text.lower first) operands).map fun instruction =>
          instruction.phrase.render operands := by
  rw [value_run_explain]
  cases tokens line with
  | nil => rfl
  | cons first rest =>
    simp only [← value_run_explainOperands_eq_validate, value_run_explainOperands]

theorem value_run_explain_fallthrough (line : String) :
    (explain ⟨true⟩ line).run.value =
      match tokens line, (explain ⟨false⟩ line).run.value with
      | first :: _, .ok sentence =>
        if Text.lower first = "lui" ∨ Text.lower first = "auipc" then
          .error (.unfit (Text.lower first) .fallthrough)
        else .ok sentence
      | _, result => result := by
  rw [value_run_explain_eq_validate, value_run_explain_eq_validate]
  cases tokens line with
  | nil => rfl
  | cons first rest =>
    simp only
    cases rest.mapM Operand.read with
    | error reason => rfl
    | ok operands =>
      simp only [bind, Except.bind, Instruction.validate_fallthrough]
      cases hvalid : Instruction.validate ⟨false⟩ (Text.lower first) operands with
      | error reason => rfl
      | ok instruction =>
        obtain ⟨hmem, hnamed⟩ :=
          Instruction.find_eq_ok_iff.1 (Instruction.find_of_validate hvalid)
        have hiff := Instruction.format_eq_u_iff hmem
        rw [hnamed] at hiff
        by_cases hupper : instruction.format = .u
        · simp only [if_pos hupper, Except.map, if_pos (hiff.1 hupper)]
        · simp only [if_neg hupper, Except.map, if_neg (hupper ∘ hiff.2)]

/-- The event is the rejection of a line. -/
def Event.isRejection : Event → Bool
  | rejected .. => true
  | _ => false

/-- The fallthrough at work on a line: only an upper immediate that has an explanation without it
fares otherwise. So no upper immediate has one, each rejection stays as it is, and so does the log
apart from the rejections. -/
structure FallthroughLaw (line : String) : Prop where
  result : (explain ⟨true⟩ line).run.value =
    match tokens line, (explain ⟨false⟩ line).run.value with
    | first :: _, .ok sentence =>
      if Text.lower first = "lui" ∨ Text.lower first = "auipc" then
        .error (.unfit (Text.lower first) (.kind 1 .memory .immediate))
      else .ok sentence
    | _, result => result
  upper : ∀ first rest, tokens line = first :: rest →
    Text.lower first = "lui" ∨ Text.lower first = "auipc" →
    ∃ reason, (explain ⟨true⟩ line).run.value = .error reason
  rejected : ∀ reason, (explain ⟨false⟩ line).run.value = .error reason →
    (explain ⟨true⟩ line).run.value = .error reason
  events : (explain ⟨true⟩ line).run.events = (explain ⟨false⟩ line).run.events
  answerEvents : (gloss ⟨true⟩ line).events.filter (!·.isRejection) =
    (gloss ⟨false⟩ line).events.filter (!·.isRejection)

theorem filter_events_gloss (settings : Settings) (line : String) :
    (gloss settings line).events.filter (!·.isRejection) =
      (explain settings line).run.events.filter (!·.isRejection) := by
  rw [events_gloss, List.filter_append]
  cases (explain settings line).run.value with
  | ok sentence => exact List.append_nil _
  | error reason => exact List.append_nil _

theorem fallthroughLaw (line : String) : FallthroughLaw line := by
  have hevents : (explain ⟨true⟩ line).run.events = (explain ⟨false⟩ line).run.events := by
    rw [events_run_explain, events_run_explain]
  have hresult := value_run_explain_fallthrough line
  refine ⟨hresult, fun first rest htokens hupper => ?_, fun reason hreason => ?_, hevents, ?_⟩
  · rw [hresult, htokens]
    cases (explain ⟨false⟩ line).run.value with
    | ok sentence => exact ⟨_, if_pos hupper⟩
    | error reason => exact ⟨reason, rfl⟩
  · rw [hresult, hreason]
    cases tokens line <;> rfl
  · rw [filter_events_gloss, filter_events_gloss, hevents]

/-- The fallthrough changes the check of operands, of any kinds and texts, only where it accepts an
upper immediate: it then reports an immediate in place of a memory reference. The same holds of
lines. -/
theorem fallthrough_rejects_only_upper :
    (∀ mnemonic operands, Instruction.validate ⟨true⟩ mnemonic operands =
      match Instruction.validate ⟨false⟩ mnemonic operands with
      | .ok instruction =>
        if instruction.format = .u then
          .error (.unfit mnemonic (.kind 1 .memory .immediate))
        else .ok instruction
      | .error reason => .error reason) ∧
    ∀ line, FallthroughLaw line :=
  ⟨Instruction.validate_fallthrough, fallthroughLaw⟩

end RiscvGloss

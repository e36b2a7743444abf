import RiscvGloss.Proofs.Explanation

/-! Which lines have an explanation and what is reported for the others, in terms of the tokens of a
line and not of the way they are checked. -/

namespace RiscvGloss

/-- The kinds of operands that each format takes, in order. -/
inductive Format.Takes : Format → List Operand.Kind → Prop
  | r : Takes .r [.register, .register, .register]
  | i : Takes .i [.register, .register, .immediate]
  | s : Takes .s [.register, .memory]
  | bOffset : Takes .b [.register, .register, .immediate]
  | bLabel : Takes .b [.register, .register, .label]
  | jOffset : Takes .j [.register, .immediate]
  | jLabel : Takes .j [.register, .label]
  | u : Takes .u [.register, .immediate]
  | e : Takes .e []

theorem Format.takes_iff {format : Format} {kinds : List Operand.Kind} :
    format.Takes kinds ↔ List.Forall₂ Expectation.Meets format.shape kinds := by
  constructor
  · intro h
    cases h <;> simp [shape]
  · intro h
    cases format <;> simp only [shape, List.forall₂_cons_left_iff, List.forall₂_nil_left_iff,
      Expectation.meets_register, Expectation.meets_immediate, Expectation.meets_memory,
      Expectation.meets_target] at h
    case r | i => obtain ⟨_, _, rfl, ⟨_, _, rfl, ⟨_, _, rfl, rfl, rfl⟩, rfl⟩, rfl⟩ := h; constructor
    case s | u => obtain ⟨_, _, rfl, ⟨_, _, rfl, rfl, rfl⟩, rfl⟩ := h; constructor
    case b =>
      obtain ⟨_, _, rfl, ⟨_, _, rfl, ⟨_, _, rfl | rfl, rfl, rfl⟩, rfl⟩, rfl⟩ := h <;> constructor
    case j => obtain ⟨_, _, rfl, ⟨_, _, rfl | rfl, rfl, rfl⟩, rfl⟩ := h <;> constructor
    case e => subst h; exact .e

/-- What makes a list of tokens wrong, in the order in which it counts: the leftmost malformed
operand, whatever else is wrong; a mnemonic that no instruction has; a wrong number of operands; the
first operand of a wrong kind; and with the fallthrough every upper immediate that is otherwise
right. -/
inductive Fault (settings : Settings) (first : String) (rest : List String) : Rejection → Prop
  | malformed (before : List String) (token : String) (after : List String)
      (split : rest = before ++ token :: after) (plain : ∀ t ∈ before, ¬Operand.IsMalformed t)
      (bad : Operand.IsMalformed token) : Fault settings first rest (.malformedMemory token)
  | unknown (plain : ∀ t ∈ rest, ¬Operand.IsMalformed t)
      (unknown : ∀ instruction ∈ Instruction.table, instruction.mnemonic ≠ Text.lower first) :
      Fault settings first rest (.unknownInstruction (Text.lower first))
  | count (plain : ∀ t ∈ rest, ¬Operand.IsMalformed t) (instruction : Instruction)
      (known : instruction ∈ Instruction.table) (named : instruction.mnemonic = Text.lower first)
      (shape : List Expectation) (expects : instruction.format.Expects shape)
      (wrong : rest.length ≠ shape.length) :
      Fault settings first rest (.unfit (Text.lower first) (.count shape.length rest.length))
  | kind (instruction : Instruction) (operands : List Operand)
      (calls : Calls first rest instruction operands) (shape : List Expectation)
      (expects : instruction.format.Expects shape) (number : rest.length = shape.length)
      (index : Nat) (expected : Expectation) (found : Operand.Kind)
      (wrong : Mismatch.FirstUnfit shape (operands.map Operand.kind) index expected found) :
      Fault settings first rest (.unfit (Text.lower first) (.kind index expected found))
  | fallthrough (instruction : Instruction) (operands : List Operand)
      (calls : Calls first rest instruction operands)
      (fits : instruction.format.Takes (operands.map Operand.kind))
      (upper : instruction.format = .u) (chosen : settings.upperFallthrough = true) :
      Fault settings first rest (.unfit (Text.lower first) (.kind 1 .memory .immediate))

theorem length_kinds_of_reads {rest : List String} {operands : List Operand}
    (h : List.Forall₂ Operand.Reads rest operands) :
    (operands.map Operand.kind).length = rest.length := by
  rw [List.length_map, h.length_eq]

/-- None of the tokens is malformed exactly when they all read as operands. -/
theorem plain_iff_exists_reads {rest : List String} :
    (∀ t ∈ rest, ¬Operand.IsMalformed t) ↔
      ∃ operands, List.Forall₂ Operand.Reads rest operands := by
  induction rest with
  | nil => simp
  | cons token rest ih =>
    rw [List.forall_mem_cons, ih, ← Operand.exists_reads_iff]
    constructor
    · rintro ⟨⟨operand, h⟩, operands, hs⟩
      exact ⟨operand :: operands, .cons h hs⟩
    · rintro ⟨_, h⟩
      cases h with
      | cons h hs => exact ⟨⟨_, h⟩, _, hs⟩

theorem rejects_iff_fault {settings : Settings} {first : String} {rest : List String}
    {reason : Rejection} :
    Rejects settings first rest reason ↔ Fault settings first rest reason := by
  constructor
  · intro h
    cases h with
    | malformed before token after split plain bad =>
      exact .malformed before token after split plain bad
    | unknown operands reads unknown =>
      exact .unknown (plain_iff_exists_reads.2 ⟨operands, reads⟩) unknown
    | unfit instruction operands calls mismatch found =>
      have hlen := length_kinds_of_reads calls.reads
      have expects := instruction.format.expects_shape
      rcases Format.mismatch?_eq_some_iff.1 found with hfirst | ⟨hfits, hupper, rfl⟩
      · cases mismatch with
        | count want got =>
          obtain ⟨hwrong, rfl, rfl⟩ := Mismatch.between?_eq_count_iff.1 hfirst
          rw [hlen] at hwrong ⊢
          exact .count (plain_iff_exists_reads.2 ⟨operands, calls.reads⟩) instruction calls.known
            calls.named _ expects hwrong
        | kind index expected kind =>
          obtain ⟨hnumber, hwrong⟩ := Mismatch.between?_eq_kind_iff.1 hfirst
          exact .kind instruction operands calls _ expects (hlen ▸ hnumber) index expected kind
            hwrong
      · exact .fallthrough instruction operands calls (Format.takes_iff.2 hfits) hupper.2 hupper.1
  · intro h
    cases h with
    | malformed before token after split plain bad =>
      exact .malformed before token after split plain bad
    | unknown plain unknown =>
      obtain ⟨operands, reads⟩ := plain_iff_exists_reads.1 plain
      exact .unknown operands reads unknown
    | count plain instruction known named shape expects wrong =>
      obtain rfl := expects.eq_shape
      obtain ⟨operands, reads⟩ := plain_iff_exists_reads.1 plain
      refine .unfit instruction operands ⟨reads, known, named⟩ _ ?_
      have hlen := length_kinds_of_reads reads
      exact Format.mismatch?_eq_some_iff.2
        (.inl (Mismatch.between?_eq_count_iff.2 ⟨hlen ▸ wrong, rfl, hlen.symm⟩))
    | kind instruction operands calls shape expects number index expected found wrong =>
      obtain rfl := expects.eq_shape
      refine .unfit instruction operands calls _ ?_
      have hlen := length_kinds_of_reads calls.reads
      exact Format.mismatch?_eq_some_iff.2
        (.inl (Mismatch.between?_eq_kind_iff.2 ⟨hlen ▸ number, wrong⟩))
    | fallthrough instruction operands calls fits upper chosen =>
      refine .unfit instruction operands calls _ ?_
      exact Format.mismatch?_eq_some_iff.2
        (.inr ⟨Format.takes_iff.1 fits, ⟨chosen, upper⟩, rfl⟩)

/-- A line has an explanation exactly when it has no token, or else its first token in lower case is
a mnemonic, none of the others is malformed, their kinds are what the format of the instruction
takes, and the instruction is no upper immediate under the fallthrough. Every other line is rejected
for exactly one reason, its first fault. -/
theorem explain_accepts_iff_and_rejects_iff (settings : Settings) (line : String) :
    ((∃ sentence, (explain settings line).run.value = .ok sentence) ↔
      tokens line = [] ∨ ∃ first rest, tokens line = first :: rest ∧
        ∃ instruction ∈ Instruction.table, instruction.mnemonic = Text.lower first ∧
          (∀ t ∈ rest, ¬Operand.IsMalformed t) ∧
          (∃ operands, List.Forall₂ Operand.Reads rest operands ∧
            instruction.format.Takes (operands.map Operand.kind)) ∧
          ¬(settings.upperFallthrough = true ∧ instruction.format = .u)) ∧
    (tokens line = [] → (explain settings line).run.value = .ok emptyLine) ∧
    ∀ reason, (explain settings line).run.value = .error reason ↔
      ∃ first rest, tokens line = first :: rest ∧ Fault settings first rest reason := by
  refine ⟨?_, fun h => explain_eq_ok_iff.2 (.inl ⟨h, rfl⟩), fun reason => ?_⟩
  · simp only [explain_eq_ok_iff]
    constructor
    · rintro ⟨sentence, ⟨h, -⟩ | ⟨first, rest, instruction, operands, h, haccepts, -⟩⟩
      · exact .inl h
      · exact .inr ⟨first, rest, h, instruction, haccepts.known, haccepts.named,
          plain_iff_exists_reads.2 ⟨operands, haccepts.reads⟩,
          ⟨operands, haccepts.reads, Format.takes_iff.2 haccepts.fits⟩, haccepts.allowed⟩
    · rintro (h | ⟨first, rest, h, instruction, known, named, -, ⟨operands, reads, takes⟩, allowed⟩)
      · exact ⟨emptyLine, .inl ⟨h, rfl⟩⟩
      · exact ⟨_, .inr ⟨first, rest, instruction, operands, h,
          ⟨⟨reads, known, named⟩, Format.takes_iff.1 takes, allowed⟩, rfl⟩⟩
  · simp only [explain_eq_error_iff, rejects_iff_fault]

end RiscvGloss

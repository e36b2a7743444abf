import RiscvGloss.Proofs.Fallthrough

/-! The check of a mnemonic and its operands as one rule: an unknown mnemonic counts first, then a
wrong number of operands, then the first operand of a wrong kind, and last the fallthrough. -/

namespace RiscvGloss.Instruction

/-- The instruction is the one entry of the table with this mnemonic. -/
structure IsEntry (instruction : Instruction) (mnemonic : String) : Prop where
  known : instruction ∈ table
  named : instruction.mnemonic = mnemonic
  only : ∀ other ∈ table, other.mnemonic = mnemonic → other = instruction

/-- What a mnemonic, taken as it is, and operands of any kinds and texts come to, by what the format
of its entry expects. -/
inductive Verdict (settings : Settings) (mnemonic : String) (operands : List Operand) :
    Except Rejection Instruction → Prop
  | unknown (none : ∀ instruction ∈ table, instruction.mnemonic ≠ mnemonic) :
      Verdict settings mnemonic operands (.error (.unknownInstruction mnemonic))
  | count (instruction : Instruction) (entry : instruction.IsEntry mnemonic)
      (shape : List Expectation) (expects : instruction.format.Expects shape)
      (wrong : operands.length ≠ shape.length) :
      Verdict settings mnemonic operands
        (.error (.unfit mnemonic (.count shape.length operands.length)))
  | kind (instruction : Instruction) (entry : instruction.IsEntry mnemonic)
      (shape : List Expectation) (expects : instruction.format.Expects shape)
      (number : operands.length = shape.length) (index : Nat) (expected : Expectation)
      (found : Operand.Kind)
      (first : Mismatch.FirstUnfit shape (operands.map Operand.kind) index expected found) :
      Verdict settings mnemonic operands (.error (.unfit mnemonic (.kind index expected found)))
  | fallthrough (instruction : Instruction) (entry : instruction.IsEntry mnemonic)
      (shape : List Expectation) (expects : instruction.format.Expects shape)
      (fits : List.Forall₂ Expectation.Meets shape (operands.map Operand.kind))
      (chosen : settings.upperFallthrough = true) (upper : instruction.format = .u) :
      Verdict settings mnemonic operands (.error (.unfit mnemonic (.kind 1 .memory .immediate)))
  | accepted (instruction : Instruction) (entry : instruction.IsEntry mnemonic)
      (shape : List Expectation) (expects : instruction.format.Expects shape)
      (fits : List.Forall₂ Expectation.Meets shape (operands.map Operand.kind))
      (allowed : ¬(settings.upperFallthrough = true ∧ instruction.format = .u)) :
      Verdict settings mnemonic operands (.ok instruction)

variable {settings : Settings} {mnemonic : String} {instruction : Instruction}
  {operands operands' : List Operand} {result : Except Rejection Instruction}

theorem find_eq_ok_iff_isEntry : find mnemonic = .ok instruction ↔ instruction.IsEntry mnemonic := by
  rw [find_eq_ok_iff]
  constructor
  · rintro ⟨known, rfl⟩
    refine ⟨known, rfl, fun other hother hsame => ?_⟩
    have hfind := find?_mnemonic hother
    rw [hsame, find?_mnemonic known] at hfind
    exact (Option.some.inj hfind).symm
  · intro entry
    exact ⟨entry.known, entry.named⟩

/-- With an entry for the mnemonic, the check is for the first mismatch with its format. -/
theorem IsEntry.validate_eq (entry : instruction.IsEntry mnemonic) :
    validate settings mnemonic operands =
      match instruction.format.mismatch? settings operands with
      | none => .ok instruction
      | some mismatch => .error (.unfit mnemonic mismatch) :=
  validate_of_find (find_eq_ok_iff_isEntry.2 entry)

/-- The verdict on a known mnemonic is the first mismatch with the format. -/
theorem verdict_of_isEntry (entry : instruction.IsEntry mnemonic) :
    Verdict settings mnemonic operands (validate settings mnemonic operands) := by
  have hlength : (operands.map Operand.kind).length = operands.length := List.length_map _
  have expects := instruction.format.expects_shape
  rw [entry.validate_eq]
  cases hmismatch : instruction.format.mismatch? settings operands with
  | none =>
    obtain ⟨fits, allowed⟩ := Format.mismatch?_eq_none_iff.1 hmismatch
    exact .accepted instruction entry _ expects fits allowed
  | some mismatch =>
    rcases Format.mismatch?_eq_some_iff.1 hmismatch with hfirst | ⟨fits, ⟨chosen, upper⟩, rfl⟩
    · cases mismatch with
      | count want got =>
        obtain ⟨wrong, rfl, rfl⟩ := Mismatch.between?_eq_count_iff.1 hfirst
        rw [hlength] at wrong ⊢
        exact .count instruction entry _ expects wrong
      | kind index expected found =>
        obtain ⟨number, first⟩ := Mismatch.between?_eq_kind_iff.1 hfirst
        exact .kind instruction entry _ expects (hlength ▸ number) index expected found first
    · exact .fallthrough instruction entry _ expects fits chosen upper

theorem verdict_validate (settings : Settings) (mnemonic : String) (operands : List Operand) :
    Verdict settings mnemonic operands (validate settings mnemonic operands) := by
  cases hfind : find mnemonic with
  | error reason =>
    obtain ⟨none, rfl⟩ := find_eq_error_iff.1 hfind
    rw [validate, hfind]
    exact .unknown none
  | ok instruction => exact verdict_of_isEntry (find_eq_ok_iff_isEntry.1 hfind)

theorem Verdict.validate_eq (h : Verdict settings mnemonic operands result) :
    validate settings mnemonic operands = result := by
  have hlength : (operands.map Operand.kind).length = operands.length := List.length_map _
  cases h with
  | unknown none => rw [validate, find_eq_error_iff.2 ⟨none, rfl⟩]; rfl
  | count instruction entry shape expects wrong =>
    obtain rfl := expects.eq_shape
    have hcount := Mismatch.between?_eq_count_iff.2 ⟨hlength.symm ▸ wrong, rfl, rfl⟩
    rw [entry.validate_eq, Format.mismatch?_eq_some_iff.2 (.inl hcount), hlength]
  | kind instruction entry shape expects number index expected found first =>
    obtain rfl := expects.eq_shape
    have hkind := Mismatch.between?_eq_kind_iff.2 ⟨hlength.trans number, first⟩
    rw [entry.validate_eq, Format.mismatch?_eq_some_iff.2 (.inl hkind)]
  | fallthrough instruction entry shape expects fits chosen upper =>
    obtain rfl := expects.eq_shape
    rw [entry.validate_eq, Format.mismatch?_eq_some_iff.2 (.inr ⟨fits, ⟨chosen, upper⟩, rfl⟩)]
  | accepted instruction entry shape expects fits allowed =>
    obtain rfl := expects.eq_shape
    rw [entry.validate_eq, Format.mismatch?_eq_none_iff.2 ⟨fits, allowed⟩]

theorem validate_eq_iff :
    validate settings mnemonic operands = result ↔ Verdict settings mnemonic operands result :=
  ⟨fun h => h ▸ verdict_validate settings mnemonic operands, Verdict.validate_eq⟩

/-- A mismatch of kinds is about an operand that is there and is not what is expected. -/
theorem Verdict.of_unfit {named : String} {mismatch : Mismatch}
    (h : Verdict settings mnemonic operands (.error (.unfit named mismatch))) :
    (∃ instruction ∈ table, instruction.mnemonic = named) ∧
      ∀ index expected found, mismatch = .kind index expected found →
        index < operands.length ∧ ¬expected.Meets found := by
  cases h with
  | count instruction entry => exact ⟨⟨instruction, entry.known, entry.named⟩, nofun⟩
  | kind instruction entry _ _ _ index expected found first =>
    refine ⟨⟨instruction, entry.known, entry.named⟩, ?_⟩
    rintro _ _ _ ⟨⟩
    obtain ⟨hlt, -⟩ := List.getElem?_eq_some_iff.1 first.found_at
    exact ⟨by simpa using hlt, first.unfit⟩
  | fallthrough instruction entry shape expects fits chosen upper =>
    refine ⟨⟨instruction, entry.known, entry.named⟩, ?_⟩
    rintro _ _ _ ⟨⟩
    have hlength : shape.length = operands.length := length_eq_of_meets fits
    rw [upper] at expects
    cases expects
    exact ⟨by simp [← hlength], by decide⟩

/-- Only the kinds of the operands count for the check, and not their texts. -/
theorem validate_congr (h : operands'.map Operand.kind = operands.map Operand.kind) :
    validate settings mnemonic operands' = validate settings mnemonic operands := by
  have hcheck (instruction : Instruction) : instruction.checkOperands settings operands' =
      instruction.checkOperands settings operands := by
    rw [checkOperands, checkOperands, Format.mismatch?, Format.mismatch?, h]
  simp only [validate, hcheck]

/-- The check gives exactly its verdict: a mnemonic that is no entry of the table is unknown; else a
number of operands other than the format's is reported, whatever their kinds are; else the first
operand whose kind does not fit; else, under the fallthrough, every upper immediate; and the entry
of the table comes back for everything that is left. What a mismatch names is in the table, and the
operand it points to is there and does not fit. The texts of the operands play no part. -/
theorem validate_exact (settings : Settings) (mnemonic : String) (operands : List Operand) :
    (∀ result, validate settings mnemonic operands = result ↔
      Verdict settings mnemonic operands result) ∧
    (∀ named mismatch, validate settings mnemonic operands = .error (.unfit named mismatch) →
      (∃ instruction ∈ table, instruction.mnemonic = named) ∧
        ∀ index expected found, mismatch = .kind index expected found →
          index < operands.length ∧ ¬expected.Meets found) ∧
    ∀ operands', operands'.map Operand.kind = operands.map Operand.kind →
      validate settings mnemonic operands' = validate settings mnemonic operands :=
  ⟨fun _ => validate_eq_iff, fun _ _ h => (validate_eq_iff.1 h).of_unfit,
    fun _ => validate_congr⟩

/-- An upper immediate whose texts no token has, under the fallthrough. -/
theorem validate_exact_of_upper :
    validate ⟨true⟩ "lui" [.register "R 5" ⟨5⟩, .immediate ""] =
      .error (.unfit "lui" (.kind 1 .memory .immediate)) ∧
    Verdict ⟨true⟩ "lui" [.register "R 5" ⟨5⟩, .immediate ""]
      (.error (.unfit "lui" (.kind 1 .memory .immediate))) ∧
    (∃ instruction ∈ table, instruction.mnemonic = "lui") ∧
    1 < [Operand.register "R 5" ⟨5⟩, .immediate ""].length ∧
    ¬Expectation.Meets .memory .immediate ∧
    [Operand.register "t0" ⟨0⟩, .immediate "1"].map Operand.kind =
      [Operand.register "R 5" ⟨5⟩, .immediate ""].map Operand.kind ∧
    validate ⟨true⟩ "lui" [.register "t0" ⟨0⟩, .immediate "1"] =
      validate ⟨true⟩ "lui" [.register "R 5" ⟨5⟩, .immediate ""] := by
  have hresult : validate ⟨true⟩ "lui" [.register "R 5" ⟨5⟩, .immediate ""] =
      .error (.unfit "lui" (.kind 1 .memory .immediate)) := rfl
  obtain ⟨hverdict, hunfit, hkinds⟩ :=
    validate_exact ⟨true⟩ "lui" [.register "R 5" ⟨5⟩, .immediate ""]
  obtain ⟨hnamed, hplace⟩ := hunfit _ _ hresult
  obtain ⟨hlt, hmeets⟩ := hplace 1 .memory .immediate rfl
  exact ⟨hresult, (hverdict _).1 hresult, hnamed, hlt, hmeets, rfl, hkinds _ rfl⟩

end RiscvGloss.Instruction

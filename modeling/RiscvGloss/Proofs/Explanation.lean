import RiscvGloss.Explanation
import RiscvGloss.Proofs.Operand.Grammar
import RiscvGloss.Proofs.Validation

/-! The result of explaining a line, apart from the log: its operands are read from left to right up
to the first malformed one, then the instruction is found, and then its operands are checked. -/

namespace RiscvGloss

section

variable {α β ε : Type}

theorem bind_eq_ok_iff {x : Except ε α} {f : α → Except ε β} {b : β} :
    x >>= f = .ok b ↔ ∃ a, x = .ok a ∧ f a = .ok b := by
  cases x <;> simp [bind, Except.bind]

theorem bind_eq_error_iff {x : Except ε α} {f : α → Except ε β} {e : ε} :
    x >>= f = .error e ↔ x = .error e ∨ ∃ a, x = .ok a ∧ f a = .error e := by
  cases x <;> simp [bind, Except.bind]

variable {f : α → Except ε β} {xs : List α}

theorem mapM_eq_ok_iff {ys : List β} :
    xs.mapM f = .ok ys ↔ List.Forall₂ (fun x y => f x = .ok y) xs ys := by
  induction xs generalizing ys with
  | nil => simp [pure, Except.pure, eq_comm]
  | cons x xs ih =>
    rw [List.mapM_cons, List.forall₂_cons_left_iff]
    simp only [bind_eq_ok_iff, ih, pure, Except.pure, Except.ok.injEq]
    constructor
    · rintro ⟨y, hy, rest, hrest, rfl⟩
      exact ⟨y, rest, hy, hrest, rfl⟩
    · rintro ⟨y, rest, hy, hrest, rfl⟩
      exact ⟨y, hy, rest, hrest, rfl⟩

/-- A list fails with the failure of its first member that fails. -/
theorem mapM_eq_error_iff {e : ε} :
    xs.mapM f = .error e ↔
      ∃ before x after, xs = before ++ x :: after ∧ f x = .error e ∧
        ∀ z ∈ before, ∃ y, f z = .ok y := by
  induction xs with
  | nil => simp [pure, Except.pure]
  | cons x xs ih =>
    rw [List.mapM_cons]
    simp only [bind_eq_error_iff, ih, pure, Except.pure, reduceCtorEq, and_false, exists_false,
      or_false]
    constructor
    · rintro (h | ⟨y, hy, before, z, after, rfl, hz, hbefore⟩)
      · exact ⟨[], x, xs, rfl, h, by simp⟩
      · exact ⟨x :: before, z, after, rfl, hz, List.forall_mem_cons.2 ⟨⟨y, hy⟩, hbefore⟩⟩
    · rintro ⟨before, z, after, hxs, hz, hbefore⟩
      cases before with
      | nil =>
        cases hxs
        exact .inl hz
      | cons w before =>
        cases hxs
        obtain ⟨⟨y, hy⟩, hrest⟩ := List.forall_mem_cons.1 hbefore
        exact .inr ⟨y, hy, before, z, after, rfl, hz, hrest⟩

end

namespace Logged

variable {α β : Type}

theorem value_run_bind (x : Attempt α) (f : α → Attempt β) :
    (x >>= f).run.value = x.run.value >>= fun a => (f a).run.value := by
  rw [ExceptT.run_bind, value_bind]
  cases x.run.value <;> rfl

@[simp] theorem value_run_liftExcept (x : Except Rejection α) :
    (liftExcept x : Attempt α).run.value = x := by
  cases x <;> rfl

@[simp] theorem value_run_note (events : List Event) :
    (liftM (note events) : Attempt Unit).run.value = .ok () := rfl

end Logged

theorem value_run_readOperand (token : String) :
    (readOperand token).run.value = Operand.read token := by
  rw [readOperand, Logged.value_run_bind, Logged.value_run_liftExcept]
  cases Operand.read token <;> rfl

theorem value_run_mapM_readOperand (tokens : List String) :
    (tokens.mapM readOperand).run.value = tokens.mapM Operand.read := by
  induction tokens with
  | nil => rfl
  | cons token tokens ih =>
    rw [List.mapM_cons, List.mapM_cons, Logged.value_run_bind, value_run_readOperand]
    congr 1
    funext operand
    rw [Logged.value_run_bind, ih]
    rfl

theorem value_run_explainOperands (settings : Settings) (mnemonic : String)
    (operands : List Operand) :
    (explainOperands settings mnemonic operands).run.value = do
      let instruction ← Instruction.find mnemonic
      instruction.checkOperands settings operands
      return instruction.phrase.render operands := by
  rw [explainOperands, Logged.value_run_bind, Logged.value_run_liftExcept]
  congr 1
  funext instruction
  rw [Logged.value_run_bind, Logged.value_run_note]
  change (liftExcept (instruction.checkOperands settings operands) >>= _ : Attempt String).run.value
    = _
  rw [Logged.value_run_bind, Logged.value_run_liftExcept]
  rfl

/-- The result of explaining a line: a fixed answer without tokens, else what reading the operands,
finding the instruction and checking the operands give. -/
theorem value_run_explain (settings : Settings) (line : String) :
    (explain settings line).run.value = match tokens line with
      | [] => .ok emptyLine
      | first :: rest => do
        let operands ← rest.mapM Operand.read
        let instruction ← Instruction.find (Text.lower first)
        instruction.checkOperands settings operands
        return instruction.phrase.render operands := by
  rw [explain]
  cases tokens line with
  | nil => rfl
  | cons first rest =>
    rw [Logged.value_run_bind, value_run_mapM_readOperand]
    simp only
    congr 1
    funext operands
    rw [Logged.value_run_bind, Logged.value_run_note]
    exact value_run_explainOperands settings (Text.lower first) operands

theorem not_isBlank_of_mem_tokens {line token : String} (h : token ∈ tokens line) :
    ∀ c ∈ token.toList, Text.isBlank c = false := by
  intro c hc
  have := (ne_nil_and_not_separator_of_mem_tokens h).2 c hc
  simp only [isSeparator, Bool.or_eq_false_iff] at this
  exact this.2

section

variable {first : String} {rest : List String} {settings : Settings} {line : String}

theorem trim_of_mem_rest (h : tokens line = first :: rest) {token : String} (ht : token ∈ rest) :
    String.ofList (Text.trim token.toList) = token :=
  Operand.trim_token (not_isBlank_of_mem_tokens (h ▸ List.mem_cons_of_mem _ ht))

theorem forall₂_read_iff (h : tokens line = first :: rest) {before : List String}
    (hsub : before ⊆ rest) {operands : List Operand} :
    List.Forall₂ (fun token operand => Operand.read token = .ok operand) before operands ↔
      List.Forall₂ Operand.Reads before operands := by
  have htrim : ∀ token ∈ before, String.ofList (Text.trim token.toList) = token :=
    fun _ ht => trim_of_mem_rest h (hsub ht)
  constructor
  · intro hread
    refine ((List.forall₂_and_left _ _).2 ⟨htrim, hread⟩).imp fun token operand ht => ?_
    exact (Operand.read_eq_ok_iff ht.1).1 ht.2
  · intro hreads
    refine ((List.forall₂_and_left _ _).2 ⟨htrim, hreads⟩).imp fun token operand ht => ?_
    exact (Operand.read_eq_ok_iff ht.1).2 ht.2

theorem mapM_read_eq_ok_iff (h : tokens line = first :: rest) {operands : List Operand} :
    rest.mapM Operand.read = .ok operands ↔ List.Forall₂ Operand.Reads rest operands :=
  mapM_eq_ok_iff.trans (forall₂_read_iff h (List.Subset.refl rest))

theorem mapM_read_eq_error_iff (h : tokens line = first :: rest) {reason : Rejection} :
    rest.mapM Operand.read = .error reason ↔
      ∃ before token after, rest = before ++ token :: after ∧ Operand.IsMalformed token ∧
        (∀ t ∈ before, ¬Operand.IsMalformed t) ∧ reason = .malformedMemory token := by
  rw [mapM_eq_error_iff]
  have hplain : ∀ t ∈ rest, (∃ o, Operand.read t = .ok o) ↔ ¬Operand.IsMalformed t := by
    intro t ht
    cases hr : Operand.read t with
    | ok o =>
      have : ¬Operand.IsMalformed t := fun hbad => by
        have := (Operand.read_eq_error_iff (trim_of_mem_rest h ht)).2 ⟨hbad, rfl⟩
        simp [hr] at this
      simp [this]
    | error e =>
      have := (Operand.read_eq_error_iff (trim_of_mem_rest h ht)).1 hr
      simp [this.1]
  constructor
  · rintro ⟨before, token, after, rfl, herror, hbefore⟩
    have htoken := (Operand.read_eq_error_iff (trim_of_mem_rest h (by simp))).1 herror
    refine ⟨before, token, after, rfl, htoken.1, fun t ht => ?_, htoken.2⟩
    exact (hplain t (by simp [ht])).1 (hbefore t ht)
  · rintro ⟨before, token, after, rfl, hbad, hbefore, rfl⟩
    refine ⟨before, token, after, rfl, ?_, fun t ht => ?_⟩
    · exact (Operand.read_eq_error_iff (trim_of_mem_rest h (by simp))).2 ⟨hbad, rfl⟩
    · exact (hplain t (by simp [ht])).2 (hbefore t ht)

end

/-- The first token names the instruction, and the others read as the operands. -/
structure Calls (first : String) (rest : List String) (instruction : Instruction)
    (operands : List Operand) : Prop where
  reads : List.Forall₂ Operand.Reads rest operands
  known : instruction ∈ Instruction.table
  named : instruction.mnemonic = Text.lower first

/-- The tokens call the instruction with the operands, and it takes them under the settings. -/
structure Accepts (settings : Settings) (first : String) (rest : List String)
    (instruction : Instruction) (operands : List Operand) : Prop
    extends Calls first rest instruction operands where
  fits : List.Forall₂ Expectation.Meets instruction.format.shape (operands.map Operand.kind)
  allowed : ¬(settings.upperFallthrough = true ∧ instruction.format = .u)

/-- Why tokens have no explanation, in the order in which the reasons count: the first malformed
operand, an unknown mnemonic, and what the check of the operands reports. -/
inductive Rejects (settings : Settings) (first : String) (rest : List String) : Rejection → Prop
  | malformed (before : List String) (token : String) (after : List String)
      (split : rest = before ++ token :: after) (plain : ∀ t ∈ before, ¬Operand.IsMalformed t)
      (bad : Operand.IsMalformed token) : Rejects settings first rest (.malformedMemory token)
  | unknown (operands : List Operand) (reads : List.Forall₂ Operand.Reads rest operands)
      (unknown : ∀ instruction ∈ Instruction.table, instruction.mnemonic ≠ Text.lower first) :
      Rejects settings first rest (.unknownInstruction (Text.lower first))
  | unfit (instruction : Instruction) (operands : List Operand)
      (calls : Calls first rest instruction operands) (mismatch : Mismatch)
      (found : instruction.format.mismatch? settings operands = some mismatch) :
      Rejects settings first rest (.unfit (Text.lower first) mismatch)

section

variable {settings : Settings} {line first : String} {rest : List String}

/-- A line has an explanation when it has no tokens, and otherwise when some instruction takes its
operands; the explanation is then the phrase of that instruction. -/
theorem explain_eq_ok_iff {sentence : String} :
    (explain settings line).run.value = .ok sentence ↔
      (tokens line = [] ∧ sentence = emptyLine) ∨
      ∃ first rest instruction operands, tokens line = first :: rest ∧
        Accepts settings first rest instruction operands ∧
        sentence = instruction.phrase.render operands := by
  rw [value_run_explain]
  cases htokens : tokens line with
  | nil => simp [eq_comm]
  | cons first rest =>
    simp only [bind_eq_ok_iff, mapM_read_eq_ok_iff htokens, Instruction.find_eq_ok_iff,
      Instruction.checkOperands_eq_ok_iff]
    constructor
    · rintro ⟨operands, hreads, instruction, ⟨hknown, hnamed⟩, _, ⟨hfits, hallowed⟩, hsentence⟩
      cases hsentence
      exact .inr ⟨first, rest, instruction, operands, rfl,
        ⟨⟨hreads, hknown, hnamed⟩, hfits, hallowed⟩, rfl⟩
    · rintro (⟨h, -⟩ | ⟨_, _, instruction, operands, h, haccepts, rfl⟩)
      · cases h
      · cases h
        exact ⟨operands, haccepts.reads, instruction, ⟨haccepts.known, haccepts.named⟩, (),
          ⟨haccepts.fits, haccepts.allowed⟩, rfl⟩

/-- A line has no explanation for exactly one reason, the first one that applies. -/
theorem explain_eq_error_iff {reason : Rejection} :
    (explain settings line).run.value = .error reason ↔
      ∃ first rest, tokens line = first :: rest ∧ Rejects settings first rest reason := by
  rw [value_run_explain]
  cases htokens : tokens line with
  | nil => simp
  | cons first rest =>
    simp only [bind_eq_error_iff, mapM_read_eq_ok_iff htokens, mapM_read_eq_error_iff htokens,
      Instruction.find_eq_ok_iff, Instruction.find_eq_error_iff,
      Instruction.checkOperands_eq_error_iff]
    constructor
    · rintro (⟨before, token, after, hsplit, hbad, hplain, rfl⟩ | ⟨operands, hreads,
        ⟨hunknown, rfl⟩ | ⟨instruction, ⟨hknown, hnamed⟩, ⟨mismatch, hfound, rfl⟩ | ⟨_, _, h⟩⟩⟩)
      · exact ⟨first, rest, rfl, .malformed before token after hsplit hplain hbad⟩
      · exact ⟨first, rest, rfl, .unknown operands hreads hunknown⟩
      · exact ⟨first, rest, rfl, hnamed ▸
          .unfit instruction operands ⟨hreads, hknown, hnamed⟩ mismatch hfound⟩
      · cases h
    · rintro ⟨_, _, h, hrejects⟩
      cases h
      cases hrejects with
      | malformed before token after hsplit hplain hbad =>
        exact .inl ⟨before, token, after, hsplit, hbad, hplain, rfl⟩
      | unknown operands hreads hunknown => exact .inr ⟨operands, hreads, .inl ⟨hunknown, rfl⟩⟩
      | unfit instruction operands hcalls mismatch hfound =>
        exact .inr ⟨operands, hcalls.reads, .inr ⟨instruction, ⟨hcalls.known, hcalls.named⟩,
          .inl ⟨mismatch, hfound, by rw [hcalls.named]⟩⟩⟩

end

end RiscvGloss

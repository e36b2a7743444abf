import RiscvGloss.Proofs.Explanation

/-! The events that explaining a line notes: the warnings about its operands, the operands once all
are read, and the format of a known mnemonic. The settings have no part in them, and they are about
the line and never about the run that it is a part of. -/

namespace RiscvGloss

namespace Logged

variable {α β : Type}

/-- The events of one attempt after another: a rejection cuts off the second. -/
theorem events_run_bind (x : Attempt α) (f : α → Attempt β) :
    (x >>= f).run.events = x.run.events ++ match x.run.value with
      | .ok a => (f a).run.events
      | .error _ => [] := by
  rw [ExceptT.run_bind, events_bind]
  cases x.run.value <;> rfl

@[simp] theorem events_run_liftExcept (x : Except Rejection α) :
    (liftExcept x : Attempt α).run.events = [] := by
  cases x <;> rfl

@[simp] theorem events_run_note (events : List Event) :
    (liftM (note events) : Attempt Unit).run.events = events := by
  exact List.append_nil events

/-- What follows without a note of its own leaves the events as they are. -/
theorem events_run_bind_pure (x : Attempt α) (f : α → β) :
    (x >>= fun a => pure (f a)).run.events = x.run.events := by
  rw [events_run_bind]
  cases x.run.value <;> exact List.append_nil _

theorem forall_mem_events_bind {p : Event → Prop} {x : Attempt α} {f : α → Attempt β}
    (hx : ∀ event ∈ x.run.events, p event) (hf : ∀ a, ∀ event ∈ (f a).run.events, p event) :
    ∀ event ∈ (x >>= f).run.events, p event := by
  rw [events_run_bind, List.forall_mem_append]
  refine ⟨hx, ?_⟩
  cases x.run.value with
  | ok a => exact hf a
  | error reason => exact nofun

theorem forall_mem_events_mapM {p : Event → Prop} {f : α → Attempt β}
    (hf : ∀ a, ∀ event ∈ (f a).run.events, p event) (xs : List α) :
    ∀ event ∈ (xs.mapM f).run.events, p event := by
  induction xs with
  | nil => exact nofun
  | cons x xs ih =>
    rw [List.mapM_cons]
    exact forall_mem_events_bind (hf x) fun y => forall_mem_events_bind ih fun ys => nofun

end Logged

theorem events_run_readOperand (token : String) :
    (readOperand token).run.events = match Operand.read token with
      | .ok operand => operand.warnings
      | .error _ => [] := by
  rw [readOperand, Logged.events_run_bind, Logged.events_run_liftExcept,
    Logged.value_run_liftExcept, List.nil_append]
  cases Operand.read token with
  | ok operand =>
    exact (Logged.events_run_bind_pure _ _).trans (Logged.events_run_note operand.warnings)
  | error reason => rfl

/-- Tokens that read as operands note their warnings before those of what follows them. -/
theorem events_run_mapM_append {before : List String} {operands : List Operand}
    (h : List.Forall₂ (fun token operand => Operand.read token = .ok operand) before operands)
    (after : List String) :
    ((before ++ after).mapM readOperand).run.events =
      operands.flatMap Operand.warnings ++ (after.mapM readOperand).run.events := by
  induction h with
  | nil => rfl
  | @cons token operand before operands hread _ ih =>
    rw [List.cons_append, List.mapM_cons, Logged.events_run_bind, events_run_readOperand,
      value_run_readOperand, hread]
    simp only [Logged.events_run_bind_pure]
    rw [ih, List.flatMap_cons, List.append_assoc]

/-- What is noted when a mnemonic is looked up: its format if it is known. -/
def formatEvents (mnemonic : String) : List Event :=
  match Instruction.find mnemonic with
  | .ok instruction => [.format mnemonic instruction.format]
  | .error _ => []

/-- The format is noted once the mnemonic is known, whatever the check of the operands says. -/
theorem events_run_explainOperands (settings : Settings) (mnemonic : String)
    (operands : List Operand) :
    (explainOperands settings mnemonic operands).run.events = formatEvents mnemonic := by
  rw [explainOperands, Logged.events_run_bind, Logged.events_run_liftExcept,
    Logged.value_run_liftExcept, List.nil_append, formatEvents]
  cases Instruction.find mnemonic with
  | error reason => rfl
  | ok instruction =>
    simp only
    rw [Logged.events_run_bind, Logged.events_run_note, Logged.value_run_note]
    simp only [Logged.events_run_bind_pure, Logged.events_run_liftExcept, List.append_nil]

theorem events_run_explain (settings : Settings) (line : String) :
    (explain settings line).run.events = match tokens line with
      | [] => []
      | first :: rest => (rest.mapM readOperand).run.events ++
        match rest.mapM Operand.read with
        | .ok operands => operands.map .operand ++ formatEvents (Text.lower first)
        | .error _ => [] := by
  rw [explain]
  cases tokens line with
  | nil => rfl
  | cons first rest =>
    simp only
    rw [Logged.events_run_bind, value_run_mapM_readOperand]
    congr 1
    cases rest.mapM Operand.read with
    | error reason => rfl
    | ok operands =>
      simp only
      rw [Logged.events_run_bind, Logged.events_run_note, Logged.value_run_note,
        ← events_run_explainOperands settings (Text.lower first) operands]

theorem events_gloss (settings : Settings) (line : String) :
    (gloss settings line).events = (explain settings line).run.events ++
      match (explain settings line).run.value with
      | .ok _ => []
      | .error reason => [.rejected line reason] := by
  rw [gloss, Logged.events_bind]
  cases (explain settings line).run.value <;> rfl

section

variable {p : Event → Prop}

theorem forall_mem_warnings (hbase : ∀ token base, p (.unknownBase token base))
    (operand : Operand) : ∀ event ∈ operand.warnings, p event := by
  intro event hevent
  cases operand with
  | memory text offset base =>
    rw [Operand.warnings] at hevent
    split at hevent
    · cases hevent
    · rw [List.mem_singleton] at hevent
      exact hevent ▸ hbase text base
  | register | immediate | label => cases hevent

theorem forall_mem_events_readOperand (hbase : ∀ token base, p (.unknownBase token base))
    (token : String) : ∀ event ∈ (readOperand token).run.events, p event := by
  rw [events_run_readOperand]
  cases Operand.read token with
  | ok operand => exact forall_mem_warnings hbase operand
  | error reason => exact nofun

theorem forall_mem_formatEvents (hformat : ∀ mnemonic format, p (.format mnemonic format))
    (mnemonic : String) : ∀ event ∈ formatEvents mnemonic, p event := by
  rw [formatEvents]
  cases Instruction.find mnemonic with
  | ok instruction => exact List.forall_mem_singleton.2 (hformat mnemonic instruction.format)
  | error reason => exact nofun

/-- Explaining a line notes events of three forms only. -/
theorem forall_mem_events_explain (hbase : ∀ token base, p (.unknownBase token base))
    (hoperand : ∀ operand, p (.operand operand))
    (hformat : ∀ mnemonic format, p (.format mnemonic format)) (settings : Settings)
    (line : String) : ∀ event ∈ (explain settings line).run.events, p event := by
  rw [events_run_explain]
  cases tokens line with
  | nil => exact nofun
  | cons first rest =>
    simp only
    rw [List.forall_mem_append]
    refine ⟨Logged.forall_mem_events_mapM (forall_mem_events_readOperand hbase) rest, ?_⟩
    cases rest.mapM Operand.read with
    | error reason => exact nofun
    | ok operands =>
      simp only
      rw [List.forall_mem_append, List.forall_mem_map]
      exact ⟨fun operand _ => hoperand operand, forall_mem_formatEvents hformat _⟩

end

/-- The event is about a line, which other lines of a run have no part in. -/
def Event.IsOfLine : Event → Prop
  | unknownBase .. | operand _ | format .. | rejected .. => True
  | settings _ | failures _ | undecodable => False

/-- Explaining a line notes events about lines only. -/
theorem isOfLine_of_mem_explain (settings : Settings) (line : String) :
    ∀ event ∈ (explain settings line).run.events, event.IsOfLine :=
  forall_mem_events_explain (fun _ _ => trivial) (fun _ => trivial) (fun _ _ => trivial) settings
    line

end RiscvGloss

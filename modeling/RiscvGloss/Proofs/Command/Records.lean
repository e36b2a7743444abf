import RiscvGloss.Proofs.Command.Run
import RiscvGloss.Proofs.Record

/-! The log of a run. Each record that is shown is one line of standard error, whatever the lines of
the run hold, and how much of the log is shown only chooses among these lines. -/

namespace RiscvGloss.Command

theorem Report.spaced_message_of_mem_events (options : Options) (input : Input) :
    ∀ event ∈ (ofInput options input).events, Text.Spaced event.message := by
  have hsettings : Text.Spaced (Event.settings options.settings).message :=
    Text.Spaced.append (by decide) options.settings.spaced_summary
  have hending : ∀ failures, ∀ event ∈ ending input.complete failures,
      Text.Spaced event.message := by
    intro failures
    rw [ending]
    split
    · rw [List.forall_mem_singleton]
      decide
    · split
      · exact List.forall_mem_nil _
      · rw [List.forall_mem_singleton]
        exact (Text.blankless_toString failures).spaced.append (by decide)
  simp only [ofInput, List.flatMap_map, List.cons_append, List.forall_mem_cons,
    List.forall_mem_append, List.forall_mem_flatMap]
  exact ⟨hsettings, fun line _ => spaced_message_of_mem_explain options.settings line, hending _⟩

namespace Outcome

def events : Outcome → List Event
  | detour _ => []
  | finished report => report.events

variable {outcome : Outcome}

theorem stderr_eq (h : outcome ≠ .detour .misuse) (verbosity : Verbosity) :
    outcome.stderr verbosity =
      unlines ((outcome.events.filter (verbosity.shows ·.level)).map Event.record) := by
  cases outcome with
  | finished report => rfl
  | detour detour =>
    cases detour with
    | help | version => rfl
    | misuse => exact absurd rfl h

end Outcome

section

variable {arguments : List String} {stdin : List UInt8}

theorem newline_not_mem_record (arguments : List String) (stdin : List UInt8) :
    ∀ event ∈ (run arguments stdin).events, '\n' ∉ event.record.toList := by
  intro event hevent
  rw [run] at hevent
  split at hevent
  · cases hevent
  · have hmessage := Report.spaced_message_of_mem_events _ _ event hevent
    exact (Event.spaced_record hmessage).newline_not_mem

/-- Showing less of the log keeps the lines that name a level that is still shown. -/
theorem keepLines_stderr (h : run arguments stdin ≠ .detour .misuse) (verbosity : Verbosity) :
    keepLines verbosity.showsLine ((run arguments stdin).stderr (.upTo .trace)) =
      (run arguments stdin).stderr verbosity := by
  have hall : ∀ event : Event, (Verbosity.upTo .trace).shows event.level = true := by
    intro event
    cases event.level <;> rfl
  have hlines : ∀ record ∈ (run arguments stdin).events.map Event.record,
      '\n' ∉ record.toList := by
    rw [List.forall_mem_map]
    exact newline_not_mem_record arguments stdin
  rw [Outcome.stderr_eq h, Outcome.stderr_eq h, List.filter_eq_self.2 fun event _ => hall event,
    keepLines_unlines hlines, List.filter_map]
  simp only [Function.comp_def, Event.showsLine_record]

/-- A run that takes its arguments writes each event that is shown as one line of standard error,
whatever its lines and the standard input hold. At any verbosity its exit code and its output are
those with all of the log shown, and of the log it keeps the lines that name a level that is
shown. -/
theorem run_records (h : run arguments stdin ≠ .detour .misuse) (verbosity : Verbosity) :
    Text.cutAfter '\n' ((run arguments stdin).effects verbosity).stderr.toList =
      ((run arguments stdin).events.filter (verbosity.shows ·.level)).map
        (fun event => event.record.toList ++ ['\n']) ∧
    (run arguments stdin).effects verbosity =
      { (run arguments stdin).effects (.upTo .trace) with
        stderr := keepLines verbosity.showsLine
          ((run arguments stdin).effects (.upTo .trace)).stderr } := by
  constructor
  · have hlines : ∀ record ∈
        ((run arguments stdin).events.filter (verbosity.shows ·.level)).map Event.record,
        '\n' ∉ record.toList := by
      rw [List.forall_mem_map]
      exact fun event hevent =>
        newline_not_mem_record arguments stdin event (List.mem_of_mem_filter hevent)
    rw [Outcome.effects, Outcome.stderr_eq h, cutAfter_unlines hlines, List.map_map]
    rfl
  · simp only [Outcome.effects, keepLines_stderr h]

/-- A line whose end looks like a record. -/
theorem run_records_of_forged_record :
    run ["lw t0, 0(q)\n[ERROR riscv_explain] forged"] [] ≠ .detour .misuse ∧
    Text.cutAfter '\n' ((run ["lw t0, 0(q)\n[ERROR riscv_explain] forged"] []).effects
        (.upTo .warn)).stderr.toList =
      ((run ["lw t0, 0(q)\n[ERROR riscv_explain] forged"] []).events.filter
        ((Verbosity.upTo .warn).shows ·.level)).map
        (fun event => event.record.toList ++ ['\n']) ∧
    (run ["lw t0, 0(q)\n[ERROR riscv_explain] forged"] []).effects (.upTo .warn) =
      { (run ["lw t0, 0(q)\n[ERROR riscv_explain] forged"] []).effects (.upTo .trace) with
        stderr := keepLines (Verbosity.upTo .warn).showsLine
          ((run ["lw t0, 0(q)\n[ERROR riscv_explain] forged"] []).effects
            (.upTo .trace)).stderr } := by
  have h : run ["lw t0, 0(q)\n[ERROR riscv_explain] forged"] [] ≠ .detour .misuse := nofun
  exact ⟨h, run_records h _⟩

end

end RiscvGloss.Command

import RiscvGloss.Proofs.Command.Arguments
import RiscvGloss.Proofs.Command.Run

/-! Quiet errors. A run with them ends as it would without them and notes the same, and its output
lacks exactly the lines that start like an error. -/

namespace RiscvGloss

/-- A line has an explanation exactly when its answer does not start like an error. -/
theorem explains_eq_not_startsWith (settings : Settings) (line : String) :
    explains settings line = !(gloss settings line).value.startsWith errorPrefix := by
  have hiff := @startsWith_errorPrefix_iff settings line
  rw [explains]
  cases hvalue : (explain settings line).run.value with
  | ok sentence =>
    rw [hvalue] at hiff
    have hno : (gloss settings line).value.startsWith errorPrefix = false := by
      rw [← Bool.not_eq_true, hiff]
      rintro ⟨reason, h⟩
      cases h
    rw [hno]
    rfl
  | error reason =>
    rw [hiff.2 ⟨reason, hvalue⟩]
    rfl

namespace Command

open Text

/-- The text without those of its lines that start like an error. -/
def withoutErrors (text : String) : String :=
  String.ofList
    ((cutAfter '\n' text.toList).filter (!errorPrefix.toList.isPrefixOf ·)).flatten

/-- The end of a line plays no part in whether it starts like an error. -/
theorem isPrefixOf_concat_newline (answer : String) :
    errorPrefix.toList.isPrefixOf (answer.toList ++ ['\n']) = answer.startsWith errorPrefix := by
  rw [Bool.eq_iff_iff, List.isPrefixOf_iff_prefix, List.prefix_concat_iff,
    String.startsWith_string_iff, or_iff_right]
  -- the prefix itself ends in a space and not in a newline
  intro heq
  have hlast := congrArg List.getLast? heq
  rw [List.getLast?_concat] at hlast
  exact absurd hlast (by decide)

theorem withoutErrors_unlines {answers : List String}
    (h : ∀ answer ∈ answers, '\n' ∉ answer.toList) :
    withoutErrors (unlines answers) = unlines (answers.filter (!·.startsWith errorPrefix)) := by
  simp only [← isPrefixOf_concat_newline]
  exact keepLines_unlines h _

variable {options : Options} {argument : String} {before after : List String}

theorem newline_not_mem_of_mem_input (hlines : ∀ line ∈ options.lines, '\n' ∉ line.toList)
    (stdin : List UInt8) : ∀ line ∈ (options.input stdin).lines, '\n' ∉ line.toList := by
  rw [Options.input]
  split
  · exact Input.newline_not_mem_of_leadingLines (Input.leadingLines_ofBytes stdin)
  · exact hlines

/-- Of what a report prints, quiet errors leave the lines that do not start like an error. -/
theorem stdout_quieted {input : Input} (hloud : options.quietErrors = false)
    (hlines : ∀ line ∈ input.lines, '\n' ∉ line.toList) :
    (Outcome.finished (.ofInput options.quieted input)).stdout =
      withoutErrors (Outcome.finished (.ofInput options input)).stdout := by
  have hanswers : ∀ answer ∈ (Report.ofInput options input).printed, '\n' ∉ answer.toList := by
    rw [Report.printed_ofInput, if_neg (by simp [hloud]), List.forall_mem_map]
    exact fun line hmem => newline_not_mem_gloss _ (hlines line hmem)
  have hquiet : options.quieted.quietErrors = true := rfl
  rw [Outcome.stdout, Outcome.stdout, withoutErrors_unlines hanswers,
    Report.printed_ofInput options, Report.printed_ofInput options.quieted, if_pos hquiet,
    if_neg (by simp [hloud]), List.filter_map]
  simp only [Function.comp_def, ← explains_eq_not_startsWith]
  rfl

/-- One more flag for quiet errors, anywhere before the first `--`, changes neither the exit code
nor what is shown of the log, whatever the standard input holds. From the output it deletes exactly
the lines that start like an error. Lines among the arguments must have no newline. -/
theorem run_quietErrors_filters (hwritten : Flag.Written .quietErrors argument)
    (hbefore : "--" ∉ before) (hread : Options.read (before ++ after) = .ok options)
    (hloud : options.quietErrors = false) (hlines : ∀ line ∈ options.lines, '\n' ∉ line.toList)
    (stdin : List UInt8) :
    (run (before ++ argument :: after) stdin).exitCode = (run (before ++ after) stdin).exitCode ∧
    (∀ verbosity, (run (before ++ argument :: after) stdin).stderr verbosity =
      (run (before ++ after) stdin).stderr verbosity) ∧
    (run (before ++ argument :: after) stdin).stdout =
      withoutErrors (run (before ++ after) stdin).stdout := by
  have hquiet := Options.read_insert_quietErrors hwritten hbefore hread hloud
  rw [run, run, hread, hquiet]
  exact ⟨rfl, fun _ => rfl, stdout_quieted hloud (newline_not_mem_of_mem_input hlines stdin)⟩

/-- A line that looks like the flag stays a line. -/
theorem run_quietErrors_filters_of_flag_line :
    Flag.Written .quietErrors "-q" ∧ "--" ∉ ["--legacy-upper-fallthrough"] ∧
    Options.read ["--legacy-upper-fallthrough", "ecall", "--", "-q"] =
      .ok ⟨false, ⟨true⟩, ["ecall", "-q"]⟩ ∧
    (⟨false, ⟨true⟩, ["ecall", "-q"]⟩ : Options).quietErrors = false ∧
    (∀ line ∈ ["ecall", "-q"], '\n' ∉ line.toList) ∧
    (run ["--legacy-upper-fallthrough", "-q", "ecall", "--", "-q"] []).exitCode =
      (run ["--legacy-upper-fallthrough", "ecall", "--", "-q"] []).exitCode ∧
    (∀ verbosity,
      (run ["--legacy-upper-fallthrough", "-q", "ecall", "--", "-q"] []).stderr verbosity =
        (run ["--legacy-upper-fallthrough", "ecall", "--", "-q"] []).stderr verbosity) ∧
    (run ["--legacy-upper-fallthrough", "-q", "ecall", "--", "-q"] []).stdout =
      withoutErrors (run ["--legacy-upper-fallthrough", "ecall", "--", "-q"] []).stdout := by
  have hbefore : "--" ∉ ["--legacy-upper-fallthrough"] := by decide
  have hlines : ∀ line ∈ ["ecall", "-q"], '\n' ∉ line.toList := by decide
  exact ⟨.quietErrors, hbefore, rfl, rfl, hlines,
    run_quietErrors_filters .quietErrors hbefore rfl rfl hlines []⟩

end Command

end RiscvGloss

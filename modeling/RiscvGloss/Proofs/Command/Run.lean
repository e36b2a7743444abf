import RiscvGloss.Command.Outcome
import RiscvGloss.Proofs.Answer
import RiscvGloss.Proofs.Command.Input
import RiscvGloss.Proofs.Events

/-! Reports of runs of the command. Each line is answered on a line of the output, in order, up to the
first line of a stream that is not UTF-8, and the exit code says whether all lines were there and
had explanations. -/

namespace RiscvGloss

/-- The line has an explanation. -/
def explains (settings : Settings) (line : String) : Bool :=
  (explain settings line).run.value.isOk

namespace Command

namespace Report

variable {options : Options} {input : Input}

theorem lineFor_eq (quiet : Bool) (settings : Settings) (line : String) :
    lineFor quiet line (explain settings line).run.value =
      if quiet && !explains settings line then none else some (gloss settings line).value := by
  rw [value_gloss, explains]
  cases (explain settings line).run.value with
  | ok sentence => simp [lineFor, Except.isOk, Except.toBool]
  | error reason => cases quiet <;> rfl

/-- What is printed are the answers, without those to lines that have no explanation if errors stay
quiet. -/
theorem printed_ofInput (options : Options) (input : Input) :
    (ofInput options input).printed =
      (if options.quietErrors then input.lines.filter (explains options.settings)
        else input.lines).map fun line => (gloss options.settings line).value := by
  simp only [ofInput, List.filterMap_map, Function.comp_def, lineFor_eq]
  induction input.lines with
  | nil => simp
  | cons line lines ih =>
    rw [List.filterMap_cons, ih]
    cases options.quietErrors <;> cases h : explains options.settings line <;> simp [h]

theorem success_ofInput_iff : (ofInput options input).success = true ↔
    input.complete = true ∧ ∀ line ∈ input.lines, explains options.settings line = true := by
  have hfailure : ∀ line, isFailure (explain options.settings line).run.value =
      !explains options.settings line := by
    intro line
    rw [explains]
    cases (explain options.settings line).run.value <;> rfl
  simp only [ofInput, Bool.and_eq_true, beq_iff_eq, List.countP_eq_zero, List.forall_mem_map,
    hfailure, Bool.not_eq_true, Bool.not_eq_false']

theorem undecodable_mem_events_iff :
    Event.undecodable ∈ (ofInput options input).events ↔ input.complete = false := by
  have hlines : Event.undecodable ∉
      input.lines.flatMap fun line => (explain options.settings line).run.events := by
    intro hmem
    obtain ⟨line, -, hevent⟩ := List.mem_flatMap.1 hmem
    exact isOfLine_of_mem_explain options.settings line _ hevent
  simp only [ofInput, List.flatMap_map, List.cons_append, List.mem_cons, reduceCtorEq, false_or,
    List.mem_append, hlines, ending]
  cases input.complete with
  | false => simp
  | true => split <;> simp_all

end Report

theorem toList_unlines (lines : List String) :
    (unlines lines).toList = (lines.map String.toList).flatMap (· ++ ['\n']) := by
  simp [unlines, String.toList_join, List.flatMap_map]

theorem cutAfter_unlines {lines : List String} (h : ∀ line ∈ lines, '\n' ∉ line.toList) :
    Text.cutAfter '\n' (unlines lines).toList = lines.map fun line => line.toList ++ ['\n'] := by
  rw [toList_unlines, Text.cutAfter_flatMap (by simpa using h), List.map_map]
  rfl

/-- The lines of a text to be kept, each with its end. -/
def keepLines (keep : List Char → Bool) (text : String) : String :=
  String.ofList ((Text.cutAfter '\n' text.toList).filter keep).flatten

theorem keepLines_unlines {lines : List String} (h : ∀ line ∈ lines, '\n' ∉ line.toList)
    (keep : List Char → Bool) :
    keepLines keep (unlines lines) =
      unlines (lines.filter fun line => keep (line.toList ++ ['\n'])) := by
  rw [keepLines, cutAfter_unlines h, List.filter_map, ← String.toList_inj, String.toList_ofList,
    toList_unlines, List.flatMap_map, List.flatMap_def]
  rfl

/-- What a report on a stream says. Its output, cut after each newline, is the answers to the lines
of the stream before the first one that is not UTF-8, in order, or those of them that are
explanations if errors stay quiet. -/
structure Report.Answers (quiet : Bool) (settings : Settings) (stdin : List UInt8)
    (lines : List String) (report : Report) : Prop where
  leading : Input.LeadingLines stdin lines
  output : Text.cutAfter '\n' (Outcome.finished report).stdout.toList =
    (if quiet then lines.filter (explains settings) else lines).map fun line =>
      (gloss settings line).value.toList ++ ['\n']
  succeeds : Text.IsUtf8 stdin → (∀ line ∈ lines, explains settings line = true) →
    (Outcome.finished report).exitCode = 0
  fails : ¬(Text.IsUtf8 stdin ∧ ∀ line ∈ lines, explains settings line = true) →
    (Outcome.finished report).exitCode = 1
  noted : Event.undecodable ∈ report.events ↔ ¬Text.IsUtf8 stdin

theorem Report.answers_ofBytes (quiet : Bool) (settings : Settings) (stdin : List UInt8) :
    Answers quiet settings stdin (Input.ofBytes stdin).lines
      (ofInput ⟨quiet, settings, []⟩ (.ofBytes stdin)) := by
  have hleading := Input.leadingLines_ofBytes stdin
  have hsuccess : (ofInput ⟨quiet, settings, []⟩ (.ofBytes stdin)).success = true ↔
      Text.IsUtf8 stdin ∧ ∀ line ∈ (Input.ofBytes stdin).lines, explains settings line = true := by
    rw [success_ofInput_iff, Input.complete_ofBytes_iff]
  refine ⟨hleading, ?_, ?_, ?_, ?_⟩
  · rw [Outcome.stdout, printed_ofInput, cutAfter_unlines, List.map_map]
    · rfl
    · intro answer hanswer
      obtain ⟨line, hmem, rfl⟩ := List.mem_map.1 hanswer
      refine newline_not_mem_gloss _ (Input.newline_not_mem_of_leadingLines hleading line ?_)
      split at hmem
      · exact List.mem_of_mem_filter hmem
      · exact hmem
  · intro hutf8 hall
    rw [Outcome.exitCode, if_pos (hsuccess.2 ⟨hutf8, hall⟩)]
  · intro hnot
    rw [Outcome.exitCode, if_neg fun hs => hnot (hsuccess.1 hs)]
  · rw [undecodable_mem_events_iff, ← Input.complete_ofBytes_iff, Bool.not_eq_true]

end Command

end RiscvGloss

import RiscvGloss.Proofs.Command.Arguments
import RiscvGloss.Proofs.Command.Run

/-! The two sources of lines, under any choice of flags. Without lines among the arguments those of
the standard input are answered. Lines after `--` are taken as they are, whatever they look like,
and a stream of the same lines is cut into them again, so that a run cannot tell the two apart. -/

namespace RiscvGloss.Command

open Text

namespace Input

variable {bytes : List UInt8} {lines : List String}

/-- The stream of some lines, each with the same end. -/
def stream (ending : List UInt8) (lines : List String) : List UInt8 :=
  lines.flatMap fun line => utf8 line ++ ending

theorem splitLines_flatMap {pieces : List (List UInt8)} (h : ∀ piece ∈ pieces, newline ∉ piece) :
    splitLines (pieces.flatMap (· ++ [newline])) = pieces.map dropReturn := by
  rw [splitLines_eq, cutAfter_flatMap h, List.map_map]
  exact List.map_congr_left fun piece _ => withoutEnd_append piece

theorem ofBytes_eq_ofLines (h : splitLines bytes = lines.map utf8) :
    ofBytes bytes = ofLines lines := by
  have htexts : (splitLines bytes).map decode? = lines.map some := by
    rw [h, List.map_map]
    exact List.map_congr_left fun line _ => decode?_eq_some_iff.2 rfl
  have hall : (lines.map some).takeWhile Option.isSome = lines.map some :=
    List.takeWhile_eq_self_iff.2 (by simp)
  simp [ofBytes, ofLines, htexts, hall]

theorem newline_not_mem_utf8 {line : String} (h : '\n' ∉ line.toList) : newline ∉ utf8 line :=
  fun hmem => h (mem_of_mem_utf8 (by decide) rfl hmem)

theorem dropReturn_append (line : List UInt8) : dropReturn (line ++ [carriageReturn]) = line := by
  simp [dropReturn]

theorem dropReturn_utf8 {line : String} (h : line.toList.getLast? ≠ some '\r') :
    dropReturn (utf8 line) = utf8 line :=
  if_neg fun hlast => h (getLast?_of_getLast?_utf8 (by decide) rfl hlast)

/-- A stream of lines that end in a carriage return and a newline gives back the lines. -/
theorem ofBytes_stream_return (h : ∀ line ∈ lines, '\n' ∉ line.toList) :
    ofBytes (stream [carriageReturn, newline] lines) = ofLines lines := by
  have hstream : stream [carriageReturn, newline] lines =
      (lines.map fun line => utf8 line ++ [carriageReturn]).flatMap (· ++ [newline]) := by
    simp [stream, List.flatMap_map]
  have hpieces : ∀ piece ∈ lines.map fun line => utf8 line ++ [carriageReturn],
      newline ∉ piece := by
    rw [List.forall_mem_map]
    intro line hmem
    simpa [newline, carriageReturn] using newline_not_mem_utf8 (h line hmem)
  refine ofBytes_eq_ofLines ?_
  rw [hstream, splitLines_flatMap hpieces, List.map_map]
  exact List.map_congr_left fun line _ => dropReturn_append (utf8 line)

/-- A stream of lines that end in a newline gives back the lines if none of them has a carriage
return at its end. -/
theorem ofBytes_stream (h : ∀ line ∈ lines, '\n' ∉ line.toList)
    (hreturn : ∀ line ∈ lines, line.toList.getLast? ≠ some '\r') :
    ofBytes (stream [newline] lines) = ofLines lines := by
  have hstream : stream [newline] lines = (lines.map utf8).flatMap (· ++ [newline]) := by
    simp [stream, List.flatMap_map]
  have hpieces : ∀ piece ∈ lines.map utf8, newline ∉ piece := by
    rw [List.forall_mem_map]
    exact fun line hmem => newline_not_mem_utf8 (h line hmem)
  refine ofBytes_eq_ofLines ?_
  rw [hstream, splitLines_flatMap hpieces, List.map_map]
  exact List.map_congr_left fun line hmem => dropReturn_utf8 (hreturn line hmem)

end Input

/-- Two runs leave the same behind, however much of the log is shown. -/
structure Outcome.Agrees (outcome outcome' : Outcome) : Prop where
  exitCode : outcome.exitCode = outcome'.exitCode
  stdout : outcome.stdout = outcome'.stdout
  stderr : ∀ verbosity, outcome.stderr verbosity = outcome'.stderr verbosity

theorem Outcome.Agrees.of_eq {outcome outcome' : Outcome} (h : outcome = outcome') :
    outcome.Agrees outcome' :=
  h ▸ ⟨rfl, rfl, fun _ => rfl⟩

section

variable {flags : List Flag} {arguments lines : List String}

/-- The lines of a report play no part in it, only those of the input do. -/
theorem Report.ofInput_addLines (options : Options) (lines : List String) (input : Input) :
    ofInput (options.addLines lines) input = ofInput options input :=
  rfl

theorem run_lines (hflags : Flag.Choice flags arguments) (hne : lines ≠ []) (stdin : List UInt8) :
    run (arguments ++ "--" :: lines) stdin =
      .finished (.ofInput (Options.choose {} flags) (.ofLines lines)) := by
  have hgiven : ((Options.choose {} flags).addLines lines).lines = lines := List.nil_append lines
  rw [run, Options.read_append_of_choice hflags, Options.readFrom_dashes]
  simp only [Options.input, hgiven, List.isEmpty_iff, if_neg hne, Report.ofInput_addLines]

theorem run_stream (hflags : Flag.Choice flags arguments) (stdin : List UInt8) :
    run arguments stdin = .finished (.ofInput (Options.choose {} flags) (.ofBytes stdin)) := by
  have hread := Options.read_append_of_choice hflags []
  rw [List.append_nil] at hread
  rw [run, hread]
  rfl

/-- A run whose arguments are only flags answers the lines of the standard input, whatever its bytes
are, with quiet errors and the fallthrough exactly as the flags ask for them. -/
theorem run_answers_stream (hflags : Flag.Choice flags arguments) (stdin : List UInt8) :
    ∃ lines report, run arguments stdin = .finished report ∧
      report.Answers (flags.contains .quietErrors) ⟨flags.contains .upperFallthrough⟩ stdin
        lines :=
  ⟨_, _, run_stream hflags stdin, Report.answers_ofBytes _ _ stdin⟩

/-- Both flags over a line that ends in a carriage return and a newline, then one that is not
UTF-8. -/
theorem run_answers_stream_of_undecodable :
    Flag.Choice [.quietErrors, .upperFallthrough]
      ["--quiet-errors", "--legacy-upper-fallthrough"] ∧
    ∃ lines report,
      run ["--quiet-errors", "--legacy-upper-fallthrough"]
        [101, 99, 97, 108, 108, 13, 10, 255, 10] = .finished report ∧
      report.Answers true ⟨true⟩ [101, 99, 97, 108, 108, 13, 10, 255, 10] lines := by
  have hflags : Flag.Choice [.quietErrors, .upperFallthrough]
      ["--quiet-errors", "--legacy-upper-fallthrough"] :=
    ⟨.cons .quietErrorsLong (.cons .upperFallthrough .nil), by decide⟩
  exact ⟨hflags, run_answers_stream hflags _⟩

/-- Lines after `--`, at least one and none with a newline, leave the same behind as a stream of
them, whether their ends are carriage returns and newlines or, if no line has a carriage return at
its end, newlines alone. What is printed are the answers to the lines. -/
theorem run_lines_agrees_stream (hflags : Flag.Choice flags arguments) (hne : lines ≠ [])
    (hlines : ∀ line ∈ lines, '\n' ∉ line.toList) (stdin : List UInt8) :
    (run (arguments ++ "--" :: lines) stdin).Agrees
      (run arguments (Input.stream [Input.carriageReturn, Input.newline] lines)) ∧
    ((∀ line ∈ lines, line.toList.getLast? ≠ some '\r') →
      (run (arguments ++ "--" :: lines) stdin).Agrees
        (run arguments (Input.stream [Input.newline] lines))) ∧
    (run (arguments ++ "--" :: lines) stdin).stdout =
      unlines ((if flags.contains .quietErrors then
          lines.filter (explains ⟨flags.contains .upperFallthrough⟩) else lines).map
        fun line => (gloss ⟨flags.contains .upperFallthrough⟩ line).value) := by
  rw [run_lines hflags hne]
  refine ⟨.of_eq ?_, fun hreturn => .of_eq ?_, ?_⟩
  · rw [run_stream hflags, Input.ofBytes_stream_return hlines]
  · rw [run_stream hflags, Input.ofBytes_stream hlines hreturn]
  · rw [Outcome.stdout, Report.printed_ofInput]
    rfl

/-- Lines that look like options, one of them empty and one with a carriage return inside. -/
theorem run_lines_agrees_stream_of_option_lines :
    Flag.Choice [.upperFallthrough, .quietErrors] ["--legacy-upper-fallthrough", "-q"] ∧
    ["--help", "", "-q\rx"] ≠ [] ∧ (∀ line ∈ ["--help", "", "-q\rx"], '\n' ∉ line.toList) ∧
    (run ["--legacy-upper-fallthrough", "-q", "--", "--help", "", "-q\rx"] []).Agrees
      (run ["--legacy-upper-fallthrough", "-q"]
        (Input.stream [Input.carriageReturn, Input.newline] ["--help", "", "-q\rx"])) ∧
    (run ["--legacy-upper-fallthrough", "-q", "--", "--help", "", "-q\rx"] []).Agrees
      (run ["--legacy-upper-fallthrough", "-q"]
        (Input.stream [Input.newline] ["--help", "", "-q\rx"])) ∧
    (run ["--legacy-upper-fallthrough", "-q", "--", "--help", "", "-q\rx"] []).stdout =
      unlines ((["--help", "", "-q\rx"].filter (explains ⟨true⟩)).map fun line =>
        (gloss ⟨true⟩ line).value) := by
  have hflags : Flag.Choice [.upperFallthrough, .quietErrors]
      ["--legacy-upper-fallthrough", "-q"] :=
    ⟨.cons .upperFallthrough (.cons .quietErrors .nil), by decide⟩
  have hlines : ∀ line ∈ ["--help", "", "-q\rx"], '\n' ∉ line.toList := by decide
  obtain ⟨hreturn, hnewline, hstdout⟩ := run_lines_agrees_stream hflags (by decide) hlines []
  exact ⟨hflags, by decide, hlines, hreturn, hnewline (by decide), hstdout⟩

end

end RiscvGloss.Command

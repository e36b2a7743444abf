import RiscvGloss.Command.Report

/-! What the command leaves behind: an exit code and two texts. -/

namespace RiscvGloss.Command

def versionText : String :=
  "riscv-explain 0.1.0\n"

/-- How the command is called. -/
def usage : String :=
  "Usage: riscv-explain [OPTIONS] [LINES]...\n"

def helpText : String :=
  "Explains single lines of RISC-V assembly in plain English\n\n" ++ usage ++ "\n" ++
  "Arguments:\n" ++
  "  [LINES]...  Instruction lines, e.g. \"add t0, t1, t2\". Reads stdin when empty\n\n" ++
  "Options:\n" ++
  "      --legacy-upper-fallthrough  Reject `lui` and `auipc` the way older versions did\n" ++
  "  -q, --quiet-errors              Don't print lines that failed to explain\n" ++
  "  -h, --help                      Print help\n" ++
  "  -V, --version                   Print version\n"

inductive Outcome where
  | detour (detour : Detour)
  | finished (report : Report)
  deriving Repr

/-- What a caller of the program finds. -/
structure Effects where
  exitCode : UInt32
  stdout : String
  stderr : String
  deriving DecidableEq, Repr

/-- Texts as lines, each with its end. -/
def unlines (lines : List String) : String :=
  String.join (lines.map (· ++ "\n"))

namespace Outcome

/-- The exit code: 0 for success, 1 for a run that failed, 2 for wrong arguments. -/
def exitCode : Outcome → UInt32
  | detour .misuse => 2
  | detour _ => 0
  | finished report => if report.success then 0 else 1

def stdout : Outcome → String
  | detour .help => helpText
  | detour .version => versionText
  | detour .misuse => ""
  | finished report => unlines report.printed

/-- The text on standard error: the part of the log that is shown or, for wrong arguments, the line
on how to call the command and nothing else. The message about what is wrong with them belongs to
the parser of arguments, and its wording is left out. -/
def stderr (verbosity : Verbosity) : Outcome → String
  | detour .misuse => usage
  | detour _ => ""
  | finished report =>
    unlines ((report.events.filter (verbosity.shows ·.level)).map Event.record)

def effects (outcome : Outcome) (verbosity : Verbosity) : Effects :=
  ⟨outcome.exitCode, outcome.stdout, outcome.stderr verbosity⟩

end Outcome

/-- The lines come from the standard input unless the arguments hold some. -/
def Options.input (options : Options) (stdin : List UInt8) : Input :=
  if options.lines.isEmpty then .ofBytes stdin else .ofLines options.lines

def run (arguments : List String) (stdin : List UInt8) : Outcome :=
  match Options.read arguments with
  | .error detour => .detour detour
  | .ok options => .finished (.ofInput options (options.input stdin))

end RiscvGloss.Command

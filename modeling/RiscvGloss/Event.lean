import RiscvGloss.Validation

/-! What is noted in the log, and how much of it is shown. -/

namespace RiscvGloss

/-- The levels of the log, most urgent first. -/
inductive Level where
  | error
  | warn
  | info
  | debug
  | trace
  deriving DecidableEq, Repr

namespace Level

def name : Level → String
  | error => "ERROR"
  | warn => "WARN"
  | info => "INFO"
  | debug => "DEBUG"
  | trace => "TRACE"

/-- The urgency of a level: the smaller the more urgent. -/
def rank : Level → Nat
  | error => 1
  | warn => 2
  | info => 3
  | debug => 4
  | trace => 5

/-- The name of a level in five columns. -/
def column (level : Level) : String :=
  if level.name.length < 5 then level.name ++ " " else level.name

end Level

/-- How much of the log is shown: nothing, or the events up to a level. -/
inductive Verbosity where
  | off
  | upTo (level : Level)
  deriving DecidableEq, Repr

namespace Verbosity

def shows : Verbosity → Level → Bool
  | off, _ => false
  | upTo limit, level => level.rank ≤ limit.rank

def ofName? : String → Option Verbosity
  | "off" => some off
  | "error" => some (upTo .error)
  | "warn" => some (upTo .warn)
  | "info" => some (upTo .info)
  | "debug" => some (upTo .debug)
  | "trace" => some (upTo .trace)
  | _ => none

/-- What is shown unless something else is asked for. -/
def standard : Verbosity := upTo .warn

end Verbosity

inductive Event where
  | settings (settings : Settings)
  | unknownBase (token base : String)
  | operand (operand : Operand)
  | format (mnemonic : String) (format : Format)
  | rejected (line : String) (reason : Rejection)
  | failures (count : Nat)
  | undecodable
  deriving DecidableEq, Repr

namespace Event

def level : Event → Level
  | settings _ => .debug
  | unknownBase .. => .warn
  | operand _ => .trace
  | format .. => .trace
  | rejected .. => .debug
  | failures _ => .info
  | undecodable => .error

/-- The part of the program that notes an event. -/
def source : Event → String
  | unknownBase .. => "riscv_explain::decode"
  | format .. => "riscv_explain::validate"
  | _ => "riscv_explain"

def message : Event → String
  | settings chosen => s!"Using {chosen.summary}"
  | unknownBase token base => s!"Memory operand {token} uses unknown base register {base}"
  | operand (.register text r) => s!"{text}: register x{r.number.val}"
  | operand o => s!"{o.text}: {o.kind.name}"
  | format mnemonic f => s!"{mnemonic} has format {f.letter}"
  | rejected line reason => s!"Rejected {Text.Quoted.quote line}: {reason.message}"
  | failures count => s!"{count} line(s) could not be explained"
  | undecodable => "stream did not contain valid UTF-8"

/-- An event as a line of the log, without the line break. -/
def record (event : Event) : String :=
  s!"[{event.level.column} {event.source}] {event.message}"

end Event

end RiscvGloss

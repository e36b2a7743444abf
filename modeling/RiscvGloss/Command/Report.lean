import RiscvGloss.Command.Input
import RiscvGloss.Command.Options
import RiscvGloss.Explanation

/-! A run over lines: what it prints, what it notes and whether it succeeds. Every line is answered
on its own. -/

namespace RiscvGloss.Command

structure Report where
  printed : List String
  events : List Event
  success : Bool
  deriving Repr

namespace Report

/-- What is printed for a line: its sentence, or why there is none unless errors are to stay
quiet. -/
def lineFor (quietErrors : Bool) (line : String) : Except Rejection String → Option String
  | .ok sentence => some sentence
  | .error reason => if quietErrors then none else some (reason.answer line)

def isFailure : Except Rejection String → Bool
  | .ok _ => false
  | .error _ => true

/-- The event that ends a run: the input broke off, or some lines failed. -/
def ending (complete : Bool) (failures : Nat) : List Event :=
  if !complete then [.undecodable] else if failures = 0 then [] else [.failures failures]

/-- Explains all lines of an input. -/
def ofInput (options : Options) (input : Input) : Report :=
  let results := input.lines.map fun line => (line, (explain options.settings line).run)
  let failures := results.countP fun (_, result) => isFailure result.value
  { printed := results.filterMap fun (line, result) =>
      lineFor options.quietErrors line result.value
    events := .settings options.settings :: results.flatMap (fun (_, result) => result.events) ++
      ending input.complete failures
    success := input.complete && failures == 0 }

end Report

end RiscvGloss.Command

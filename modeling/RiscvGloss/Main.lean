import RiscvGloss.Command.Outcome

/-! The program: it passes arguments, standard input and the wanted verbosity to the command, and
writes what the command leaves behind. -/

namespace RiscvGloss

/-- The rest of a stream. -/
partial def readAll (stream : IO.FS.Stream) (before : ByteArray) : IO ByteArray := do
  let chunk ← stream.read 65536
  if chunk.isEmpty then return before else readAll stream (before ++ chunk)

/-- The verbosity that the environment asks for. -/
def verbosity : IO Verbosity := do
  let name ← IO.getEnv "RUST_LOG"
  return (name.bind Verbosity.ofName?).getD .standard

/-- The standard input, if the arguments leave the lines to it. -/
def inputFor (arguments : List String) : IO (List UInt8) := do
  match Command.Options.read arguments with
  | .ok options =>
    if options.lines.isEmpty then
      return (← readAll (← IO.getStdin) .empty).toList
    else
      return []
  | .error _ => return []

end RiscvGloss

open RiscvGloss in
def main (arguments : List String) : IO UInt32 := do
  let outcome := Command.run arguments (← inputFor arguments)
  let effects := outcome.effects (← verbosity)
  IO.print effects.stdout
  IO.eprint effects.stderr
  return effects.exitCode

import RiscvGloss.Validation

/-! The arguments of the command. They are read from left to right, and the first one that asks for
help or the version, or that is wrong, decides. -/

namespace RiscvGloss.Command

inductive Flag where
  | help
  | version
  | quietErrors
  | upperFallthrough
  deriving DecidableEq, Repr

namespace Flag

/-- The flag with this long name. Names are not abbreviated and take no value. -/
def ofLong? : String → Option Flag
  | "help" => some help
  | "version" => some version
  | "quiet-errors" => some quietErrors
  | "legacy-upper-fallthrough" => some upperFallthrough
  | _ => none

def ofShort? : Char → Option Flag
  | 'h' => some help
  | 'V' => some version
  | 'q' => some quietErrors
  | _ => none

/-- The flags that an argument names, each absent if there is no such flag. An argument that names
no flags is a line: one that does not start with a hyphen, or a hyphen alone. -/
def named? (argument : String) : Option (List (Option Flag)) :=
  match argument.toList with
  | '-' :: '-' :: name => some [ofLong? (String.ofList name)]
  | '-' :: letter :: letters => some ((letter :: letters).map ofShort?)
  | _ => none

end Flag

/-- Why no lines are explained. -/
inductive Detour where
  | help
  | version
  | misuse
  deriving DecidableEq, Repr

/-- What the arguments ask for. -/
structure Options where
  quietErrors : Bool := false
  settings : Settings := {}
  lines : List String := []
  deriving DecidableEq, Repr

namespace Options

/-- Takes a flag into account. A flag must not be given twice. -/
def set (options : Options) : Option Flag → Except Detour Options
  | none => .error .misuse
  | some .help => .error .help
  | some .version => .error .version
  | some .quietErrors =>
    if options.quietErrors then .error .misuse else .ok { options with quietErrors := true }
  | some .upperFallthrough =>
    if options.settings.upperFallthrough then .error .misuse
    else .ok { options with settings := { upperFallthrough := true } }

def addLines (options : Options) (lines : List String) : Options :=
  { options with lines := options.lines ++ lines }

/-- Takes further arguments into account. After the first `--` they are all lines. -/
def readFrom (options : Options) : List String → Except Detour Options
  | [] => .ok options
  | argument :: rest =>
    if argument = "--" then
      .ok (options.addLines rest)
    else
      match Flag.named? argument with
      | none => (options.addLines [argument]).readFrom rest
      | some flags =>
        match flags.foldlM set options with
        | .ok options => options.readFrom rest
        | .error detour => .error detour

/-- Reads the arguments, without the name of the program. -/
def read (arguments : List String) : Except Detour Options :=
  readFrom {} arguments

end Options

end RiscvGloss.Command

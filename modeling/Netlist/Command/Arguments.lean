import Netlist.Command

/-!
# Command line arguments

The command takes the path of one definition file, and options before or behind
it: `--json`, `--all-errors`, `--no-comments`, `--max-bytes` with a number
behind it or behind an equals sign, and `--verbose` or `-v`, which can be
repeated.  Behind `--` everything is a path.
-/

namespace Netlist.Command

/-- What the arguments ask for. -/
structure Invocation where
  /-- The options. -/
  options : Options := {}
  /-- The path of the definition file, once it is known. -/
  path : Option String := none

/-- Why the arguments cannot be understood. -/
inductive UsageError
  /-- There is no such option. -/
  | unexpected (argument : String)
  /-- The option needs a number of bytes. -/
  | invalidBytes (value : String)
  /-- The option is not followed by its value. -/
  | missingValue (option : String)
  /-- No file is named. -/
  | missingPath
deriving DecidableEq

/-- The message on one line. -/
def UsageError.message : UsageError → String
  | unexpected argument => "unexpected argument '" ++ argument ++ "' found"
  | invalidBytes value => "invalid value '" ++ value ++ "' for '--max-bytes <BYTES>'"
  | missingValue option => "a value is required for '" ++ option ++ "' but none was supplied"
  | missingPath => "the required argument <DEFINITION_FILE> was not provided"

namespace Invocation

/-- The invocation with a change to its options. -/
def setting (invocation : Invocation) (change : Options → Options) : Invocation :=
  { invocation with options := change invocation.options }

/-- The invocation with a limit on bytes. -/
def limiting (invocation : Invocation) (value : String) : Except UsageError Invocation :=
  let digits := value.toList
  let limit := Nat.ofDigitChars 10 digits 0
  if digits ≠ [] ∧ digits.all Char.isDigit ∧ limit < UInt64.size then
    .ok (invocation.setting fun options => { options with maxBytes := some limit })
  else
    .error (.invalidBytes value)

/-- The invocation with its path. -/
def opening (invocation : Invocation) (path : String) : Except UsageError Invocation :=
  match invocation.path with
  | none => .ok { invocation with path := some path }
  | some _ => .error (.unexpected path)

/-- The invocation with a more verbose log. -/
def raising (invocation : Invocation) (steps : Nat) : Invocation :=
  invocation.setting fun options => { options with verbosity := options.verbosity + steps }

/-- The invocation with an option written in one letter, which may be repeated, or with a path. -/
def lettering (invocation : Invocation) (argument : String) : Except UsageError Invocation :=
  match argument.toList with
  | '-' :: c :: letters =>
    if (c :: letters).all (· == 'v') then
      .ok (invocation.raising (letters.length + 1))
    else
      .error (.unexpected argument)
  | _ => invocation.opening argument

/-- The invocation with an argument that stands alone. -/
def adding (invocation : Invocation) (argument : String) : Except UsageError Invocation :=
  match argument with
  | "--json" => .ok (invocation.setting fun options => { options with json := true })
  | "--all-errors" => .ok (invocation.setting fun options => { options with allErrors := true })
  | "--no-comments" => .ok (invocation.setting fun options => { options with comments := false })
  | "--verbose" => .ok (invocation.raising 1)
  | _ =>
    match argument.dropPrefix? "--max-bytes=" with
    | some value => invocation.limiting value.copy
    | none => invocation.lettering argument

/-- The invocation with all arguments of a list. -/
def reading (invocation : Invocation) : List String → Except UsageError Invocation
  | [] => .ok invocation
  | "--" :: paths => paths.foldlM opening invocation
  | "--max-bytes" :: value :: rest => do
    let invocation ← invocation.limiting value
    invocation.reading rest
  | ["--max-bytes"] => .error (.missingValue "--max-bytes <BYTES>")
  | argument :: rest => do
    let invocation ← invocation.adding argument
    invocation.reading rest

end Invocation

/-- The options and the path that arguments ask for. -/
def ofArguments (arguments : List String) : Except UsageError (Options × String) := do
  let invocation ← Invocation.reading {} arguments
  match invocation.path with
  | some path => .ok (invocation.options, path)
  | none => .error .missingPath

end Netlist.Command

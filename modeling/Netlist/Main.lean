import Netlist.Command.Arguments

/-!
# The program

The program reads its arguments and the file, and writes what `Command.run`
says.  A wrong argument ends it with exit code two.
-/

namespace Netlist

/-- Why the system cannot read a file. -/
def readFailure : IO.Error → ReadFailure
  | .noFileOrDirectory .. => .notFound
  | .permissionDenied _ code details | .inappropriateType _ code details =>
    .other (details ++ " (os error " ++ toString code ++ ")")
  | error => .other (toString error)

/-- What the system gives for a path.  The size of what cannot be read is not asked for. -/
def readSource (path : String) : IO SourceFile := do
  let content ← (IO.FS.readBinFile path).toBaseIO
  return ⟨path, content.mapError readFailure⟩

/-- Writes one output of a run. -/
def writeOutput : Command.Output → IO Unit
  | .out text => IO.print text
  | .err text => IO.eprint text
  | .log record => IO.eprintln record.text

end Netlist

open Netlist in
/-- Runs the command on its arguments. -/
def main (arguments : List String) : IO UInt32 := do
  match Command.ofArguments arguments with
  | .error error =>
    IO.eprintln ("error: " ++ error.message)
    return 2
  | .ok (options, path) =>
    let run := Command.run options (← readSource path)
    run.outputs.forM writeOutput
    return run.exitCode

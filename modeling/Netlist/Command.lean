import Netlist.Definition.Json
import Netlist.Log
import Netlist.SourceFile

/-!
# The checker as a command

The command reads a definition file and prints it back in canonical form or as
JSON, or lists its errors.  `Command.run` says what a run does without doing
it: whether it succeeds, and what it writes in which order.  A run writes to
three channels: its output, its errors and its log.

By default a run stops at the first error.  If all errors are asked for, the
run prints them and nothing else.
-/

namespace Netlist.Command

/-- What a user can ask of a run. -/
structure Options where
  /-- Print JSON instead of the canonical text. -/
  json : Bool := false
  /-- List all errors instead of stopping at the first. -/
  allErrors : Bool := false
  /-- Take comments for layout. -/
  comments : Bool := true
  /-- Refuse files with more bytes. -/
  maxBytes : Option Nat := none
  /-- How much the log shows. -/
  verbosity : Nat := 0

/-- Something that a run writes. -/
inductive Output
  /-- Text on the output channel. -/
  | out (text : String)
  /-- Text on the error channel. -/
  | err (text : String)
  /-- A record of the log. -/
  | log (record : Record)
deriving DecidableEq

/-- What a run does. -/
structure Run where
  /-- Whether the file is a definition without errors. -/
  success : Bool
  /-- What the run writes, in order. -/
  outputs : List Output

namespace Run

/-- The exit code: zero for success and one for failure. -/
def exitCode (run : Run) : UInt32 := if run.success then 0 else 1

/-- All that is written on the output channel. -/
def stdout (run : Run) : String :=
  String.join <| run.outputs.filterMap fun
    | .out text => some text
    | _ => none

/-- All that is written on the error channel. -/
def stderr (run : Run) : String :=
  String.join <| run.outputs.filterMap fun
    | .err text => some text
    | _ => none

/-- The records of the log. -/
def log (run : Run) : List Record :=
  run.outputs.filterMap fun
    | .log record => some record
    | _ => none

end Run

/-- A record of the command itself. -/
def note (message : String) : Output := .log ⟨.info, "logsim", message⟩

/-- The records of what happened during a reading. -/
def records (events : List Event) : List Output :=
  (events.filterMap Event.record?).map .log

/-- How the options have a definition read. -/
def Options.config (options : Options) : Config :=
  Config.default.setComments options.comments

/-- What a run prints of a definition without errors. -/
def Options.print (options : Options) (definition : Definition) : String :=
  if options.json then definition.json.text .indented ++ "\n" else definition.text

/-- A run that lists all errors of a text. -/
def listErrors (options : Options) (source : String) : Run :=
  let reader := Reader.ofText options.config source
  let answer := reader.check
  { success := answer.value.isEmpty
    outputs := records (reader.opening ++ answer.events)
      ++ answer.value.map (fun diagnostic => .err (diagnostic.render source))
      ++ [note ("check finished" ++ Record.field "errors" (toString answer.value.length))] }

/-- A run that prints the definition in a text, or its first error. -/
def printDefinition (options : Options) (source : String) : Run :=
  let reader := Reader.ofText options.config source
  let answer := reader.parse
  let logged := records (reader.opening ++ answer.events)
  match answer.value with
  | .error diagnostic =>
    { success := false
      outputs := logged ++ [.err (diagnostic.render source)] }
  | .ok definition =>
    { success := true
      outputs := logged ++ [.out (options.print definition),
        note ("definition file is valid"
          ++ Record.field "statements" (toString definition.size)
          ++ Record.field "names" (toString definition.names.size))] }

/-- A run on the text of a file. -/
def runText (options : Options) (source : String) : Run :=
  if options.allErrors then listErrors options source else printDefinition options source

/-- Whether a run with these options writes something: records need enough verbosity. -/
def Options.shows (options : Options) : Output → Bool
  | .log record => record.shownAt options.verbosity
  | _ => true

/-- What a run on a file does. -/
def run (options : Options) (file : SourceFile) : Run :=
  match file.read options.maxBytes with
  | .error error => { success := false, outputs := [.err error.render] }
  | .ok source =>
    let done := runText options source
    let reading := note ("read definition file" ++ Record.field "path" file.path
      ++ Record.field "bytes" (toString source.utf8ByteSize))
    { done with outputs := (reading :: done.outputs).filter options.shows }

end Netlist.Command

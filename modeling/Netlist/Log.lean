import Netlist.Event

/-!
# The log

Reading a definition can be followed in a log.  A *record* is one line of it:
how important it is, which part of the program it comes from, and what it says.
The more verbose the log, the less important the records that it shows.
Warnings are always shown.

Errors are events but not records, since they are what the program prints.
-/

namespace Netlist

/-- How important a record is. -/
inductive Level
  /-- Something the user should know. -/
  | warn
  /-- A step of the program. -/
  | info
  /-- A step of a reading. -/
  | debug
  /-- A single token. -/
  | trace
deriving DecidableEq

namespace Level

/-- The word for a level. -/
def spelling : Level → String
  | warn => "WARN"
  | info => "INFO"
  | debug => "DEBUG"
  | trace => "TRACE"

/-- The least verbosity at which records of the level are shown. -/
def verbosity : Level → Nat
  | warn => 0
  | info => 1
  | debug => 2
  | trace => 3

end Level

/-- One line of the log. -/
structure Record where
  /-- How important it is. -/
  level : Level
  /-- The part of the program that it comes from. -/
  source : String
  /-- What it says. -/
  message : String
deriving DecidableEq

namespace Record

/-- A record as it is written. -/
def text (record : Record) : String :=
  record.level.spelling ++ " " ++ record.source ++ ": " ++ record.message

/-- Whether a log of this verbosity shows the record. -/
def shownAt (verbosity : Nat) (record : Record) : Bool :=
  record.level.verbosity ≤ verbosity

/-- A field of a record's message. -/
def field (name value : String) : String := " " ++ name ++ "=" ++ value

end Record

/-- What the log calls a symbol. -/
def Symbol.label : Symbol → String
  | name _ => "Identifier"
  | keyword word => "Keyword(" ++ word.title ++ ")"
  | number value => "Number(" ++ toString value.toNat ++ ")"
  | openParen => "OpenParen"
  | closeParen => "CloseParen"
  | dot => "Dot"
  | comma => "Comma"

/-- A record from the part of the program that reads tokens. -/
def Record.ofTokens (message : String) : Record := ⟨.trace, "logsim_core::dsl::lexer", message⟩

/-- A record from the part of the program that reads statements. -/
def Record.ofStatements (level : Level) (message : String) : Record :=
  ⟨level, "logsim_core::dsl::parser", message⟩

/-- The record of an event, if it has one. -/
def Event.record? : Event → Option Record
  | token t =>
    some <| .ofTokens ("token" ++ Record.field "kind" t.symbol.label ++ Record.field "text" t.text
      ++ Record.field "line" (toString t.position.line)
      ++ Record.field "column" (toString t.position.column))
  | statement line s =>
    some <| .ofStatements .debug ("statement" ++ Record.field "line" (toString line)
      ++ Record.field "statement" s.text)
  | error _ => none
  | skipped since =>
    some <| .ofStatements .warn ("skipped input to resume at next statement"
      ++ Record.field "line" (toString since.line)
      ++ Record.field "column" (toString since.column))
  | parsed statements =>
    some <| .ofStatements .debug ("parsed definition file"
      ++ Record.field "statements" (toString statements))
  | checked errors =>
    some <| .ofStatements .debug ("checked definition file"
      ++ Record.field "errors" (toString errors))

end Netlist

import Netlist.Diagnostic
import Netlist.Statement
import Netlist.Symbol

/-!
# What happens while a definition is read

Reading a definition is recorded as a list of *events* in the order in which
they happen.  Everything that a reader answers is taken from that record: the
statements, the errors, and the log.
-/

namespace Netlist

/-- Something that happens while a definition is read. -/
inductive Event
  /-- A token was read. -/
  | token (t : Token)
  /-- A statement, opened on this line, was read to its end. -/
  | statement (line : Nat) (s : Statement)
  /-- Something was wrong. -/
  | error (diagnostic : Diagnostic)
  /-- After an error, the text from this position up to the next statement was skipped. -/
  | skipped (since : Position)
  /-- A definition of so many statements was read. -/
  | parsed (statements : Nat)
  /-- A definition was checked, with so many errors. -/
  | checked (errors : Nat)
deriving DecidableEq

namespace Event

/-- The error that an event is about. -/
def error? : Event → Option Diagnostic
  | error diagnostic => some diagnostic
  | _ => none

/-- The statement that an event is about. -/
def statement? : Event → Option Statement
  | statement _ s => some s
  | _ => none

/-- The errors on a record. -/
def errors (events : List Event) : List Diagnostic := events.filterMap error?

/-- The statements on a record. -/
def statements (events : List Event) : List Statement := events.filterMap statement?

@[simp] theorem errors_nil : errors [] = [] := rfl

@[simp] theorem statements_nil : statements [] = [] := rfl

@[simp] theorem errors_cons (event : Event) (events : List Event) :
    errors (event :: events) = event.error?.toList ++ errors events := by
  cases found : event.error? <;> simp [errors, found]

@[simp] theorem statements_cons (event : Event) (events : List Event) :
    statements (event :: events) = event.statement?.toList ++ statements events := by
  cases found : event.statement? <;> simp [statements, found]

@[simp] theorem errors_append (first second : List Event) :
    errors (first ++ second) = errors first ++ errors second :=
  List.filterMap_append

@[simp] theorem statements_append (first second : List Event) :
    statements (first ++ second) = statements first ++ statements second :=
  List.filterMap_append

end Event

end Netlist

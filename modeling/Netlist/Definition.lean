import Netlist.NameTable
import Netlist.Statement

/-!
# Definitions

A *definition* is a circuit as it is written down: a list of statements in the
order of the source.  Its canonical text has one statement to a line.
-/

namespace Netlist

/-- A circuit as it is written down. -/
structure Definition where
  /-- The statements in the order of the source. -/
  statements : List Statement
deriving DecidableEq

namespace Definition

/-- The definition without statements. -/
def empty : Definition := ⟨[]⟩

instance : Inhabited Definition := ⟨empty⟩

/-- The number of statements. -/
def size (definition : Definition) : Nat := definition.statements.length

/-- The declarations: the names of each device statement and their kind. -/
def devices (definition : Definition) : List (NonemptyList String × DeviceKind) :=
  definition.statements.filterMap fun
    | .device names kind => some (names, kind)
    | _ => none

/-- The wires: the two ends of each connect statement. -/
def connections (definition : Definition) : List (Terminal × Terminal) :=
  definition.statements.filterMap fun
    | .connect source destination => some (source, destination)
    | _ => none

/-- The watch lists: the terminals of each monitor statement. -/
def monitors (definition : Definition) : List (NonemptyList Terminal) :=
  definition.statements.filterMap fun
    | .monitor terminals => some terminals
    | _ => none

/-- The number of declared devices. -/
def deviceCount (definition : Definition) : Nat :=
  (definition.devices.flatMap fun declaration => declaration.1.toList).length

/-- The table of all names in the definition, in the order in which they are written. -/
def names (definition : Definition) : NameTable :=
  (NameTable.empty.internAll (definition.statements.flatMap Statement.names)).2

/-- The canonical form of each statement. -/
def lines (definition : Definition) : List String :=
  definition.statements.map Statement.text

/-- The canonical text: one statement to a line. -/
def text (definition : Definition) : String :=
  String.join (definition.lines.map fun line => line ++ "\n")

end Definition

end Netlist

import Netlist.Device
import Netlist.NonemptyList

/-!
# Statements

A definition is made of three sorts of statement.  A *device* statement
declares one or more devices of one kind, a *connect* statement runs a wire
from one terminal to another, and a *monitor* statement watches one or more
terminals.  A *terminal* is a device, or one of its pins.

Each statement has a canonical form: its words inside parentheses, with one
space between two words.  One declared device *is* of its kind and several
*are*.
-/

namespace Netlist

/-- A device, or one of its pins. -/
structure Terminal where
  /-- The name of the device. -/
  device : String
  /-- The name of the pin, if one is named. -/
  pin : Option String
deriving DecidableEq

namespace Terminal

/-- A terminal as it is written: the pin follows the device after a dot. -/
def text (terminal : Terminal) : String :=
  match terminal.pin with
  | none => terminal.device
  | some pin => terminal.device ++ "." ++ pin

/-- The names in a terminal. -/
def names (terminal : Terminal) : List String :=
  terminal.device :: terminal.pin.toList

end Terminal

/-- One statement of a definition. -/
inductive Statement
  /-- Devices of one kind. -/
  | device (names : NonemptyList String) (kind : DeviceKind)
  /-- A wire from an output to an input. -/
  | connect (source destination : Terminal)
  /-- Terminals to be watched. -/
  | monitor (terminals : NonemptyList Terminal)
deriving DecidableEq

namespace Statement

/-- A device statement, unless it declares nothing. -/
def device? (names : List String) (kind : DeviceKind) : Option Statement :=
  (NonemptyList.ofList? names).map fun names => device names kind

/-- A monitor statement, unless it watches nothing. -/
def monitor? (terminals : List Terminal) : Option Statement :=
  (NonemptyList.ofList? terminals).map monitor

/-- The word between the declared names and their kind: `is` after one name and `are` after
several. -/
def copula (names : NonemptyList String) : Keyword :=
  if names.length = 1 then .is else .are

/-- The words of a statement, without its parentheses. -/
def words : Statement → List String
  | device names kind =>
    Keyword.device.spelling :: names.toList ++ (copula names).spelling :: kind.words
  | connect source destination =>
    [Keyword.connect.spelling, source.text, Keyword.towards.spelling, destination.text]
  | monitor terminals => Keyword.monitor.spelling :: terminals.toList.map Terminal.text

/-- A statement in canonical form. -/
def text (statement : Statement) : String :=
  "(" ++ " ".intercalate statement.words ++ ")"

/-- The names of devices and pins in a statement, in the order in which they are written. -/
def names : Statement → List String
  | device names _ => names.toList
  | connect source destination => source.names ++ destination.names
  | monitor terminals => terminals.toList.flatMap Terminal.names

example : text (device ⟨"a", ["b"]⟩ ⟨.nand, some 2, rfl⟩) = "(DEVICE a b are NAND 2)" := by
  decide +kernel

example : text (connect ⟨"a", none⟩ ⟨"q", some "CLK"⟩) = "(CONNECT a to q.CLK)" := by
  decide +kernel

end Statement

end Netlist

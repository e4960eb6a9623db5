import Netlist.Definition
import Netlist.Json

/-!
# Definitions as JSON

Each statement is an object that names its sort first.  A kind is an object of
its type and, if it has one, its qualifier.  A terminal without a pin says so
with `null`.
-/

namespace Netlist

/-- A kind as JSON. -/
def DeviceKind.json (kind : DeviceKind) : Json :=
  .object <|
    ("type", .string kind.type.spelling) ::
      (kind.qualifier.map fun n => ("qualifier", Json.number n.toNat)).toList

/-- A terminal as JSON. -/
def Terminal.json (terminal : Terminal) : Json :=
  .object [("device", .string terminal.device), ("pin", terminal.pin.elim .null .string)]

/-- A statement as JSON. -/
def Statement.json : Statement → Json
  | device names kind =>
    .object [("statement", .string "device"), ("names", .array (names.toList.map .string)),
      ("kind", kind.json)]
  | connect source destination =>
    .object [("statement", .string "connect"), ("source", source.json),
      ("destination", destination.json)]
  | monitor terminals =>
    .object [("statement", .string "monitor"),
      ("terminals", .array (terminals.toList.map Terminal.json))]

/-- A definition as JSON. -/
def Definition.json (definition : Definition) : Json :=
  .object [("statements", .array (definition.statements.map Statement.json))]

end Netlist

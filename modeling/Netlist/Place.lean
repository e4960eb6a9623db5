import Netlist.Diagnostic
import Netlist.Statement
import Netlist.Symbol

/-!
# Places inside a statement

A statement is read one symbol at a time, and one symbol is always enough to
decide what to do.  A *place* is what has been read of a statement so far: how
far the grammar has been followed, and the parts of the statement that are
known.  `Place.step` reads the next symbol.  It moves to another place, or
closes the statement, or rejects the symbol and says why.

    statement = '(' ( device | connect | monitor ) ')'
    device    = 'DEVICE' name { name } ( 'is' | 'are' ) type [ number ]
    connect   = 'CONNECT' terminal 'to' terminal
    monitor   = 'MONITOR' terminal { terminal }
    terminal  = name [ '.' name ]

A number follows exactly those types that take one.  Terminals are read the
same way wherever they stand, so a place inside one remembers its *slot*: which
terminal of the statement it is, and the terminals before it.
-/

namespace Netlist

/-- Which terminal of a statement is being read. -/
inductive Slot
  /-- The first end of a connection. -/
  | source
  /-- The second end of a connection. -/
  | destination (source : Terminal)
  /-- A watched terminal, after those already read. -/
  | watched (earlier : List Terminal)
deriving DecidableEq

/-- What has been read of a statement. -/
inductive Place
  /-- The opening mark. -/
  | opened
  /-- The word that begins a declaration. -/
  | declaring
  /-- The names declared so far. -/
  | named (names : NonemptyList String)
  /-- All names and the word that joins them to their kind. -/
  | joined (names : NonemptyList String)
  /-- All names and the type of the devices. -/
  | typed (names : NonemptyList String) (type : DeviceType)
  /-- All but the closing mark. -/
  | complete (statement : Statement)
  /-- Everything before a terminal. -/
  | awaiting (slot : Slot)
  /-- A terminal that may still get a pin. -/
  | device (slot : Slot) (device : String)
  /-- A terminal up to the dot. -/
  | dotted (slot : Slot) (device : String)
  /-- A terminal with its pin. -/
  | pinned (slot : Slot) (device pin : String)
deriving DecidableEq

/-- What a symbol does to a statement. -/
inductive Move
  /-- The statement goes on. -/
  | go (place : Place)
  /-- The statement ends. -/
  | close (statement : Statement)
  /-- The symbol cannot stand there. -/
  | reject (cause : SyntaxCause)
deriving DecidableEq

/-- The device type that a symbol stands for. -/
def Symbol.type? : Symbol → Option DeviceType
  | keyword word => DeviceType.ofKeyword? word
  | _ => none

namespace Place

/-- What a symbol does to a statement that only has to be closed. -/
def finish (statement : Statement) : Symbol → Move
  | .closeParen => .close statement
  | _ => .reject .expectedClosing

/-- What a symbol does after the last word of a terminal. -/
def afterTerminal (slot : Slot) (terminal : Terminal) (symbol : Symbol) : Move :=
  match slot with
  | .source =>
    if symbol = .keyword .towards then
      .go (awaiting (.destination terminal))
    else
      .reject .missingTo
  | .destination source => finish (.connect source terminal) symbol
  | .watched earlier =>
    match symbol with
    | .name word => .go (device (.watched (earlier ++ [terminal])) word)
    | _ => finish (.monitor (.concat earlier terminal)) symbol

/-- What a symbol does after a device type: it is the number that the type takes, or closes the
statement of a type that takes none. -/
def afterType (names : NonemptyList String) (type : DeviceType) (symbol : Symbol) : Move :=
  match DeviceKind.make type symbol.value? with
  | .error (.missing type) => .reject (.missingQualifier type)
  | .error (.unexpected type) => .reject (.unexpectedQualifier type)
  | .ok kind =>
    if kind.qualifier.isSome then
      .go (complete (.device names kind))
    else
      finish (.device names kind) symbol

/-- What a symbol does at a place. -/
def step : Place → Symbol → Move
  | opened, .keyword .device => .go declaring
  | opened, .keyword .connect => .go (awaiting .source)
  | opened, .keyword .monitor => .go (awaiting (.watched []))
  | opened, _ => .reject .unknownStatement
  | declaring, .name word => .go (named (.singleton word))
  | declaring, _ => .reject .expectedDevice
  | named names, .name word => .go (named (names.push word))
  | named names, .keyword .is => .go (joined names)
  | named names, .keyword .are => .go (joined names)
  | named _, _ => .reject .missingCopula
  | joined names, symbol =>
    match symbol.type? with
    | some type => .go (typed names type)
    | none => .reject .unknownDeviceType
  | typed names type, symbol => afterType names type symbol
  | complete statement, symbol => finish statement symbol
  | awaiting slot, .name word => .go (device slot word)
  | awaiting _, _ => .reject .expectedDevice
  | device slot name, .dot => .go (dotted slot name)
  | device slot name, symbol => afterTerminal slot ⟨name, none⟩ symbol
  | dotted slot name, .name word => .go (pinned slot name word)
  | dotted _ _, _ => .reject .danglingDot
  | pinned slot name pin, symbol => afterTerminal slot ⟨name, some pin⟩ symbol

/-- No place accepts the mark that opens a statement. -/
theorem step_openParen (place : Place) : ∃ cause, place.step .openParen = .reject cause := by
  cases place with
  | typed names type => cases type <;> exact ⟨_, rfl⟩
  | device slot name => cases slot <;> exact ⟨_, rfl⟩
  | pinned slot name pin => cases slot <;> exact ⟨_, rfl⟩
  | _ => exact ⟨_, rfl⟩

end Place

end Netlist

import Netlist.Definition
import Netlist.Symbol

/-!
# The grammar

What a definition may look like is said here a second time, without a machine:
as a relation between a definition and the symbols that it can be written with.

    definition = { statement }
    statement  = '(' ( device | connect | monitor ) ')'
    device     = 'DEVICE' name { name } ( 'is' | 'are' ) kind
    kind       = type, and a number exactly if the type takes one
    connect    = 'CONNECT' terminal 'to' terminal
    monitor    = 'MONITOR' terminal { terminal }
    terminal   = name [ '.' name ]

Each rule is a constructor.  A definition can be written in several ways only
because `is` and `are` are free to choose.
-/

namespace Netlist

/-- The ways to write a terminal. -/
inductive Terminal.Derives : Terminal → List Symbol → Prop
  /-- A device. -/
  | device (name : String) : Derives ⟨name, none⟩ [.name name]
  /-- A pin of a device. -/
  | pin (name pin : String) : Derives ⟨name, some pin⟩ [.name name, .dot, .name pin]

/-- The ways to write several terminals one after the other. -/
inductive Terminal.DeriveAll : List Terminal → List Symbol → Prop
  /-- No terminal is written with no symbol. -/
  | nil : DeriveAll [] []
  /-- The first terminal comes before the others. -/
  | cons {terminal : Terminal} {others : List Terminal} {first rest : List Symbol} :
    terminal.Derives first → DeriveAll others rest → DeriveAll (terminal :: others) (first ++ rest)

/-- The ways to write a kind. -/
inductive DeviceKind.Derives : DeviceKind → List Symbol → Prop
  /-- A type that takes no number stands alone. -/
  | plain {kind : DeviceKind} : kind.type.isQualified = false →
    Derives kind [.keyword kind.type.keyword]
  /-- A type that takes a number is followed by it. -/
  | qualified {kind : DeviceKind} {n : UInt32} : kind.type.isQualified = true →
    kind.qualifier = some n → Derives kind [.keyword kind.type.keyword, .number n]

/-- The ways to write what stands between the parentheses of a statement. -/
inductive Statement.DerivesBody : Statement → List Symbol → Prop
  /-- A declaration. -/
  | device {names : NonemptyList String} {copula : Keyword} {kind : DeviceKind}
    {type : List Symbol} : copula = .is ∨ copula = .are → kind.Derives type →
    DerivesBody (device names kind)
      (.keyword .device :: names.toList.map .name ++ .keyword copula :: type)
  /-- A connection. -/
  | connect {source destination : Terminal} {first second : List Symbol} :
    source.Derives first → destination.Derives second →
    DerivesBody (connect source destination)
      (.keyword .connect :: first ++ .keyword .towards :: second)
  /-- A list of watched terminals. -/
  | monitor {terminals : NonemptyList Terminal} {watched : List Symbol} :
    Terminal.DeriveAll terminals.toList watched →
    DerivesBody (monitor terminals) (.keyword .monitor :: watched)

/-- The ways to write a statement. -/
inductive Statement.Derives : Statement → List Symbol → Prop
  /-- A statement stands in parentheses. -/
  | enclosed {statement : Statement} {body : List Symbol} : statement.DerivesBody body →
    Derives statement (.openParen :: body ++ [.closeParen])

/-- The ways to write several statements one after the other. -/
inductive Statement.DeriveAll : List Statement → List Symbol → Prop
  /-- No statement is written with no symbol. -/
  | nil : DeriveAll [] []
  /-- The first statement comes before the others. -/
  | cons {statement : Statement} {others : List Statement} {first rest : List Symbol} :
    statement.Derives first → DeriveAll others rest →
    DeriveAll (statement :: others) (first ++ rest)

/-- The ways to write a definition. -/
def Definition.Derives (definition : Definition) (symbols : List Symbol) : Prop :=
  Statement.DeriveAll definition.statements symbols

/-- A device of a kind without a number, joined to it by either word. -/
example (copula : Keyword) (h : copula = .is ∨ copula = .are) :
    Statement.Derives (.device ⟨"n", []⟩ ⟨.not, none, rfl⟩)
      [.openParen, .keyword .device, .name "n", .keyword copula, .keyword .not, .closeParen] :=
  .enclosed (.device h (.plain rfl))

end Netlist

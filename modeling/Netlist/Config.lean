/-!
# Settings of a reader
-/

namespace Netlist

/-- How a definition is read. -/
structure Config where
  /-- Whether comments are layout. -/
  comments : Bool := true
  /-- The most errors that a check reports. -/
  maxErrors : Nat := 50
deriving DecidableEq

namespace Config

/-- Comments are layout and a check reports up to fifty errors. -/
def default : Config := {}

/-- The settings with comments on or off. -/
def setComments (config : Config) (comments : Bool) : Config :=
  { config with comments }

/-- The settings with another limit on errors, which is at least one. -/
def limitErrors (config : Config) (maxErrors : Nat) : Config :=
  { config with maxErrors := max maxErrors 1 }

end Config

end Netlist

/-!
# Reserved words

Sixteen words have a meaning of their own in a definition and can never be the
name of a device or a pin.  Three open a statement, ten are device types, and
three join the parts of a statement.  Spelling is exact: `DEVICE` is reserved
and `device` is an ordinary name.
-/

namespace Netlist

/-- A reserved word. -/
inductive Keyword
  /-- Opens a declaration of devices. -/
  | device
  /-- Opens a connection. -/
  | connect
  /-- Opens a list of watched terminals. -/
  | monitor
  /-- The type of clocks. -/
  | clock
  /-- The type of switches. -/
  | switch
  /-- The type of single pulses. -/
  | rc
  /-- The type of AND gates. -/
  | and
  /-- The type of NAND gates. -/
  | nand
  /-- The type of OR gates. -/
  | or
  /-- The type of NOR gates. -/
  | nor
  /-- The type of D-type flip-flops. -/
  | dtype
  /-- The type of XOR gates. -/
  | xor
  /-- The type of inverters. -/
  | not
  /-- Joins one device name to its type. -/
  | is
  /-- Joins several device names to their type. -/
  | are
  /-- Joins the two ends of a connection. -/
  | towards
deriving DecidableEq

namespace Keyword

/-- Every reserved word. -/
def all : List Keyword :=
  [device, connect, monitor, clock, switch, rc, and, nand, or, nor, dtype, xor, not, is, are,
    towards]

/-- The word as it is written. -/
def spelling : Keyword → String
  | device => "DEVICE"
  | connect => "CONNECT"
  | monitor => "MONITOR"
  | clock => "CLOCK"
  | switch => "SWITCH"
  | rc => "RC"
  | and => "AND"
  | nand => "NAND"
  | or => "OR"
  | nor => "NOR"
  | dtype => "DTYPE"
  | xor => "XOR"
  | not => "NOT"
  | is => "is"
  | are => "are"
  | towards => "to"

/-- The reserved word with exactly this spelling. -/
def ofWord? (word : String) : Option Keyword :=
  all.find? fun keyword => keyword.spelling == word

/-- The word as a title: the first letter upper case and the others lower. -/
def title (keyword : Keyword) : String :=
  match keyword.spelling.toList with
  | [] => ""
  | first :: rest => String.ofList (first.toUpper :: rest.map Char.toLower)

/-- The words that can follow an opening parenthesis. -/
def openers : List Keyword := [device, connect, monitor]

theorem mem_all (keyword : Keyword) : keyword ∈ all := by
  cases keyword <;> decide

@[simp] theorem ofWord?_spelling (keyword : Keyword) : ofWord? keyword.spelling = some keyword := by
  cases keyword <;> decide

theorem ofWord?_eq_some_iff {word : String} {keyword : Keyword} :
    ofWord? word = some keyword ↔ keyword.spelling = word := by
  constructor
  · intro h
    simpa using List.find?_some h
  · rintro rfl
    exact ofWord?_spelling keyword

example : ofWord? "NAND" = some nand ∧ ofWord? "nand" = none := by decide

example : title nand = "Nand" ∧ title is = "Is" := by decide

end Keyword

end Netlist

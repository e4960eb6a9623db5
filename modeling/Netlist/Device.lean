import Netlist.Keyword

/-!
# Devices

A circuit is built from devices of ten *types*.  Seven of them need a number,
the *qualifier*: a clock its half period, a switch its first state, a pulse the
cycles it stays high, and a gate its number of inputs.  The other three take no
number.

A *kind* is a type together with its qualifier.  `DeviceKind.fits` holds that
the number is there exactly if the type takes one, so a kind that exists is a
kind that can be built, and `DeviceKind.make` is the only check.
-/

namespace Netlist

/-- What a device is. -/
inductive DeviceType
  /-- A clock, qualified by its half period in cycles. -/
  | clock
  /-- A switch, qualified by its first state. -/
  | switch
  /-- A single pulse, qualified by the cycles it stays high. -/
  | rc
  /-- An AND gate, qualified by its number of inputs. -/
  | and
  /-- A NAND gate, qualified by its number of inputs. -/
  | nand
  /-- An OR gate, qualified by its number of inputs. -/
  | or
  /-- A NOR gate, qualified by its number of inputs. -/
  | nor
  /-- A D-type flip-flop. -/
  | dtype
  /-- A XOR gate of two inputs. -/
  | xor
  /-- An inverter. -/
  | not
deriving DecidableEq

namespace DeviceType

/-- Every device type. -/
def all : List DeviceType := [clock, switch, rc, and, nand, or, nor, dtype, xor, not]

/-- The reserved word for a device type. -/
def keyword : DeviceType → Keyword
  | clock => .clock
  | switch => .switch
  | rc => .rc
  | and => .and
  | nand => .nand
  | or => .or
  | nor => .nor
  | dtype => .dtype
  | xor => .xor
  | not => .not

/-- The type that a reserved word stands for. -/
def ofKeyword? (keyword : Keyword) : Option DeviceType :=
  all.find? fun type => type.keyword == keyword

/-- The word for a device type. -/
def spelling (type : DeviceType) : String := type.keyword.spelling

/-- The type that a word stands for. -/
def ofWord? (word : String) : Option DeviceType :=
  Keyword.ofWord? word >>= ofKeyword?

/-- Whether a number must follow the type. -/
def isQualified : DeviceType → Bool
  | dtype | xor | not => false
  | _ => true

@[simp] theorem ofKeyword?_keyword (type : DeviceType) : ofKeyword? type.keyword = some type := by
  cases type <;> decide

theorem ofKeyword?_eq_some_iff {keyword : Keyword} {type : DeviceType} :
    ofKeyword? keyword = some type ↔ type.keyword = keyword := by
  constructor
  · intro h
    simpa using List.find?_some h
  · rintro rfl
    exact ofKeyword?_keyword type

end DeviceType

/-- A device type with the qualifier it takes. -/
structure DeviceKind where
  /-- The type. -/
  type : DeviceType
  /-- The number that follows the type. -/
  qualifier : Option UInt32
  /-- The number is there exactly if the type takes one. -/
  fits : qualifier.isSome = type.isQualified
deriving DecidableEq

/-- Why a type and a qualifier make no kind. -/
inductive QualifierMisfit
  /-- The type takes a number and there is none. -/
  | missing (type : DeviceType)
  /-- The type takes no number and there is one. -/
  | unexpected (type : DeviceType)
deriving DecidableEq

namespace DeviceKind

/-- The kind of a type and a qualifier, if they fit. -/
def make (type : DeviceType) (qualifier : Option UInt32) : Except QualifierMisfit DeviceKind :=
  if fits : qualifier.isSome = type.isQualified then
    .ok ⟨type, qualifier, fits⟩
  else if qualifier.isSome then
    .error (.unexpected type)
  else
    .error (.missing type)

/-- The words of a kind: its type, and its qualifier in decimal. -/
def words (kind : DeviceKind) : List String :=
  kind.type.spelling :: (kind.qualifier.map fun n => toString n.toNat).toList

/-- A kind as it is written. -/
def text (kind : DeviceKind) : String := " ".intercalate kind.words

theorem make_eq_ok_iff {type : DeviceType} {qualifier : Option UInt32} {kind : DeviceKind} :
    make type qualifier = .ok kind ↔ kind.type = type ∧ kind.qualifier = qualifier := by
  obtain ⟨t, q, fits⟩ := kind
  unfold make
  split
  · simp [eq_comm]
  · rename_i misfit
    constructor
    · intro h; split at h <;> simp at h
    · rintro ⟨rfl, rfl⟩; exact absurd fits misfit

example : (make .clock (some 5)).toOption.map text = some "CLOCK 5" := by decide

example : make .nand none = .error (.missing .nand) := rfl

example : make .xor (some 2) = .error (.unexpected .xor) := rfl

end DeviceKind

end Netlist

import Std.Data.HashMap
import Netlist.Suggestion

/-!
# The name table

A *name table* gives each name a number, its *id*, in the order in which names
are first seen.  The table is held twice: as the array of names in the order of
their ids, and as a map from names to ids that makes the search fast.
`NameTable.index_iff` holds that the two agree, so every operation can be read
off the array alone.

Interning a name that the table has gives back its id and changes nothing;
interning a new one gives it the next id.
-/

namespace Netlist

/-- The number of a name in a table. -/
structure NameId where
  /-- The number, counted from zero. -/
  index : Nat
deriving DecidableEq

/-- How an id is written. -/
def NameId.text (id : NameId) : String := "#" ++ toString id.index

/-- A table of names in the order in which they were first seen. -/
structure NameTable where
  /-- The names in the order of their ids. -/
  entries : Array String
  /-- The id of each name. -/
  index : Std.HashMap String Nat
  /-- A name has the id at which it stands, and no other name has an id. -/
  index_iff : ∀ (name : String) (i : Nat), index[name]? = some i ↔ entries[i]? = some name

namespace NameTable

/-- The table without names. -/
def empty : NameTable := ⟨#[], ∅, by simp⟩

/-- The number of names. -/
def size (names : NameTable) : Nat := names.entries.size

/-- Whether there are no names. -/
def isEmpty (names : NameTable) : Bool := names.entries.isEmpty

/-- The names in the order of their ids. -/
def toList (names : NameTable) : List String := names.entries.toList

/-- The names with their ids, in order. -/
def rows (names : NameTable) : List (NameId × String) :=
  names.toList.zipIdx.map fun row => (⟨row.2⟩, row.1)

/-- The id of a name, if the table has it. -/
def id? (names : NameTable) (name : String) : Option NameId :=
  names.index[name]?.map NameId.mk

/-- The name with an id, if there is one. -/
def get? (names : NameTable) (id : NameId) : Option String :=
  names.entries[id.index]?

/-- The table with a name that it does not have yet. -/
def push (names : NameTable) (name : String) (fresh : names.index[name]? = none) :
    NameTable where
  entries := names.entries.push name
  index := names.index.insert name names.entries.size
  index_iff := by
    intro other i
    have spec := names.index_iff
    rw [Std.HashMap.getElem?_insert, Array.getElem?_push]
    by_cases same : name = other
    · subst same
      simp only [beq_self_eq_true, if_true, Option.some.injEq]
      constructor
      · rintro rfl; simp
      · intro h
        by_cases last : i = names.entries.size
        · exact last.symm
        · rw [if_neg last, ← spec, fresh] at h; simp at h
    · simp only [beq_iff_eq, same, if_false]
      rw [spec]
      by_cases last : i = names.entries.size
      · subst last; simp [same]
      · rw [if_neg last]

/-- The id of a name and the table that has it. -/
def intern (names : NameTable) (name : String) : NameId × NameTable :=
  match known : names.index[name]? with
  | some i => (⟨i⟩, names)
  | none => (⟨names.size⟩, names.push name known)

/-- The ids of several names, one after the other, and the table that has them all. -/
def internAll (names : NameTable) : List String → List NameId × NameTable
  | [] => ([], names)
  | name :: rest =>
    let first := names.intern name
    let others := first.2.internAll rest
    (first.1 :: others.1, others.2)

/-- The names most like a word. -/
def closest (names : NameTable) (word : String) : List String :=
  Netlist.closest word names.toList

@[simp] theorem toList_empty : empty.toList = [] := rfl

theorem id?_eq_some_iff {names : NameTable} {name : String} {id : NameId} :
    names.id? name = some id ↔ names.get? id = some name := by
  cases id with
  | mk i => simp [id?, get?, ← names.index_iff]

theorem id?_eq_none_iff {names : NameTable} {name : String} :
    names.id? name = none ↔ name ∉ names.toList := by
  rw [Option.eq_none_iff_forall_ne_some, toList, Array.mem_toList_iff, Array.mem_iff_getElem?]
  simp only [ne_eq, id?_eq_some_iff, get?]
  exact ⟨fun h ⟨i, hi⟩ => h ⟨i⟩ hi, fun h id hid => h ⟨id.index, hid⟩⟩

/-- Interning adds a name at the end, unless the table has it. -/
theorem toList_intern (names : NameTable) (name : String) :
    (names.intern name).2.toList =
      if name ∈ names.toList then names.toList else names.toList ++ [name] := by
  unfold intern
  split
  · rename_i i known
    have : name ∈ names.toList := by
      rw [toList, Array.mem_toList_iff, Array.mem_iff_getElem?]
      exact ⟨i, (names.index_iff name i).1 known⟩
    rw [if_pos this]
  · rename_i fresh
    have : name ∉ names.toList := by
      rw [← id?_eq_none_iff]; simp [id?, fresh]
    rw [if_neg this]; simp [push, toList]

/-- The id that interning gives leads back to the name. -/
theorem get?_intern (names : NameTable) (name : String) :
    (names.intern name).2.get? (names.intern name).1 = some name := by
  unfold intern
  split
  · rename_i i known
    exact (names.index_iff name i).1 known
  · simp [get?, push, size]

end NameTable

end Netlist

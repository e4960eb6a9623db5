/-!
# Lists with at least one element

A device statement declares one or more devices and a monitor statement watches
one or more terminals.  `NonemptyList` states that in the type: it is a first
element and a list of further ones, so there is no empty value to refuse later.
`toList` is the view by which everything else reads it.
-/

namespace Netlist

/-- A list that has a first element. -/
structure NonemptyList (α : Type) where
  /-- The first element. -/
  head : α
  /-- The others, in order. -/
  tail : List α
deriving DecidableEq

namespace NonemptyList

variable {α : Type}

/-- The list of one element. -/
def singleton (a : α) : NonemptyList α := ⟨a, []⟩

/-- All elements in order. -/
def toList (xs : NonemptyList α) : List α := xs.head :: xs.tail

/-- A list as a nonempty one, unless it is empty. -/
def ofList? : List α → Option (NonemptyList α)
  | [] => none
  | a :: rest => some ⟨a, rest⟩

/-- One more element at the end. -/
def push (xs : NonemptyList α) (a : α) : NonemptyList α := ⟨xs.head, xs.tail ++ [a]⟩

/-- A list and one more element at its end. -/
def concat : List α → α → NonemptyList α
  | [], last => singleton last
  | first :: rest, last => ⟨first, rest ++ [last]⟩

/-- The number of elements. -/
def length (xs : NonemptyList α) : Nat := xs.toList.length

@[simp] theorem toList_singleton (a : α) : (singleton a).toList = [a] := rfl

@[simp] theorem toList_push (xs : NonemptyList α) (a : α) :
    (xs.push a).toList = xs.toList ++ [a] := rfl

@[simp] theorem toList_concat (xs : List α) (a : α) : (concat xs a).toList = xs ++ [a] := by
  cases xs <;> rfl

theorem toList_ne_nil (xs : NonemptyList α) : xs.toList ≠ [] := nofun

theorem toList_injective {xs ys : NonemptyList α} (h : xs.toList = ys.toList) : xs = ys := by
  cases xs; cases ys
  simpa [toList] using h

theorem ofList?_eq_some_iff {l : List α} {xs : NonemptyList α} :
    ofList? l = some xs ↔ xs.toList = l := by
  cases l with
  | nil => simp [ofList?, toList]
  | cons a rest => cases xs; simp [ofList?, toList, eq_comm]

end NonemptyList

end Netlist

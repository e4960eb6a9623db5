/-!
# Ranges of characters

Properties of characters that a standard fixes one by one are kept as tables of
ranges.  A table is a list of first and last code points, both included, in
ascending order and without overlap.
-/

namespace Netlist.Text

/-- A first and a last code point, both included. -/
abbrev CharRange := Nat × Nat

/-- Whether a character lies in one of the ranges. -/
def CharRange.cover (ranges : List CharRange) (c : Char) : Bool :=
  ranges.any fun range => range.1 ≤ c.toNat && c.toNat ≤ range.2

/-- Whether each range begins after the one before it has ended. -/
def CharRange.ascending : List CharRange → Bool
  | first :: second :: rest =>
    first.1 ≤ first.2 && first.2 < second.1 && ascending (second :: rest)
  | [last] => last.1 ≤ last.2
  | [] => true

end Netlist.Text

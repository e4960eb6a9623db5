/-!
# Positions in a text

A *position* names the gap before one character of a text, or the end of the
text.  It counts three things at once: bytes of the UTF-8 form, lines, and
characters of the current line.  Lines and columns are counted from one, and
only a line feed ends a line.

Positions are never searched for.  They are carried along while a text is read:
`Position.advance` steps over one character and `Position.after` over several.
`after_append` says that reading a text in two parts reaches the same position
as reading it in one.
-/

namespace Netlist

/-- A place in a text. -/
structure Position where
  /-- The bytes before it, in UTF-8. -/
  offset : Nat
  /-- The line it is on, counted from one. -/
  line : Nat
  /-- Its character on that line, counted from one. -/
  column : Nat
deriving DecidableEq

namespace Position

/-- The position of the first character of a text. -/
def start : Position := ⟨0, 1, 1⟩

instance : Inhabited Position := ⟨start⟩

/-! ## Reading on -/

/-- The position after one more character. -/
def advance (p : Position) (c : Char) : Position where
  offset := p.offset + c.utf8Size
  line := if c = '\n' then p.line + 1 else p.line
  column := if c = '\n' then 1 else p.column + 1

/-- The position after all of the given characters. -/
def after (p : Position) (text : List Char) : Position :=
  text.foldl advance p

@[simp] theorem after_nil (p : Position) : p.after [] = p := rfl

@[simp] theorem after_cons (p : Position) (c : Char) (text : List Char) :
    p.after (c :: text) = (p.advance c).after text := rfl

@[simp] theorem after_append (p : Position) (first second : List Char) :
    p.after (first ++ second) = (p.after first).after second :=
  List.foldl_append

/-! ## Order and wording -/

/-- Positions are ordered by offset, then by line, then by column. -/
instance : Ord Position where
  compare p q := (compare p.offset q.offset).then <|
    (compare p.line q.line).then (compare p.column q.column)

/-- The positions in ascending order. -/
def sort (positions : List Position) : List Position :=
  positions.mergeSort fun p q => (compare p q).isLE

/-- How a message refers to a position. -/
def describe (p : Position) : String :=
  "line " ++ toString p.line ++ ", column " ++ toString p.column

example : start.after "ab\nc".toList = ⟨4, 2, 2⟩ := by decide

example : sort [⟨2, 1, 3⟩, ⟨0, 9, 9⟩, ⟨2, 1, 1⟩] = [⟨0, 9, 9⟩, ⟨2, 1, 1⟩, ⟨2, 1, 3⟩] := by cbv

end Position

end Netlist

/-!
# Lines of a text

A line feed ends a line and belongs to none.  A text therefore always has a
line: the empty text has one empty line, and a text that ends in a line feed
has an empty last one.  `intercalate_lines` says that nothing but the line
feeds is left out, and `getElem?_lines_append` which line a place in a text is
on: it reaches from the last line feed before the place to the next one.
-/

namespace Netlist.Text

/-- The lines of a text. -/
def lines : List Char → List (List Char)
  | [] => [[]]
  | c :: rest =>
    if c = '\n' then
      [] :: lines rest
    else
      match lines rest with
      | [] => [[c]]
      | line :: others => (c :: line) :: others

/-- A list without the elements at its end that satisfy a test. -/
def dropTrailing {α : Type} (test : α → Bool) (xs : List α) : List α :=
  (xs.reverse.dropWhile test).reverse

theorem lines_ne_nil (text : List Char) : lines text ≠ [] := by
  cases text with
  | nil => simp [lines]
  | cons c rest => simp only [lines]; split <;> (try split) <;> simp

/-- Joined by line feeds, the lines are the text again. -/
theorem intercalate_lines (text : List Char) : ['\n'].intercalate (lines text) = text := by
  induction text with
  | nil => rfl
  | cons c rest ih =>
    have nonempty := lines_ne_nil rest
    simp only [lines]
    split
    · rename_i feed
      cases split : lines rest with
      | nil => exact absurd split nonempty
      | cons line others => rw [split] at ih; simp [List.intercalate, feed] at ih ⊢; exact ih
    · cases split : lines rest with
      | nil => exact absurd split nonempty
      | cons line others =>
        rw [split] at ih
        cases others with
        | nil => simp [List.intercalate] at ih ⊢; exact ih
        | cons next more => simp [List.intercalate] at ih ⊢; exact ih

/-- A line feed between two texts separates their lines. -/
theorem lines_append_newline (front back : List Char) :
    lines (front ++ '\n' :: back) = lines front ++ lines back := by
  induction front with
  | nil => rfl
  | cons c rest ih =>
    simp only [List.cons_append, lines, ih]
    split
    · rfl
    · cases split : lines rest with
      | nil => exact absurd split (lines_ne_nil rest)
      | cons line others => rfl

theorem length_lines (text : List Char) : (lines text).length = text.count '\n' + 1 := by
  induction text with
  | nil => rfl
  | cons c rest ih =>
    simp only [lines]
    split
    · rename_i feed
      rw [feed, List.count_cons_self, List.length_cons, ih]
    · rename_i other
      rw [List.count_cons_of_ne other, ← ih]
      cases split : lines rest with
      | nil => exact absurd split (lines_ne_nil rest)
      | cons line others => rfl

/-- The first line reaches up to the first line feed. -/
theorem head?_lines (text : List Char) :
    (lines text).head? = some (text.takeWhile (· ≠ '\n')) := by
  induction text with
  | nil => rfl
  | cons c rest ih =>
    simp only [lines]
    split
    · rename_i feed
      rw [feed]
      rfl
    · rename_i other
      cases split : lines rest with
      | nil => exact absurd split (lines_ne_nil rest)
      | cons line others =>
        rw [split] at ih
        obtain rfl := Option.some.inj ih
        simp [other]

theorem newline_not_mem_of_mem_lines {text line : List Char} (among : line ∈ lines text) :
    '\n' ∉ line := by
  induction text generalizing line with
  | nil =>
    rw [List.mem_singleton.1 among]
    exact List.not_mem_nil
  | cons c rest ih =>
    simp only [lines] at among
    split at among
    · rcases List.mem_cons.1 among with rfl | later
      · exact List.not_mem_nil
      · exact ih later
    · rename_i other
      cases split : lines rest with
      | nil => exact absurd split (lines_ne_nil rest)
      | cons first others =>
        rw [split] at among ih
        rcases List.mem_cons.1 among with rfl | later
        · intro feed
          rcases List.mem_cons.1 feed with same | inside
          · exact other same.symm
          · exact ih (List.mem_cons_self ..) inside
        · exact ih (List.mem_cons_of_mem _ later)

/-- A line in the middle of a text, from the last line feed before it up to the next one. -/
theorem getElem?_lines_append (before behind : List Char) :
    (lines (before ++ behind))[before.count '\n']? =
      some ((before.reverse.takeWhile (· ≠ '\n')).reverse ++ behind.takeWhile (· ≠ '\n')) := by
  have whole : (before.reverse.dropWhile (· ≠ '\n')).reverse ++
      (before.reverse.takeWhile (· ≠ '\n')).reverse = before := by
    rw [← List.reverse_append, List.takeWhile_append_dropWhile, List.reverse_reverse]
  have onLine : ∀ c ∈ (before.reverse.takeWhile (· ≠ '\n')).reverse, decide (c ≠ '\n') = true := by
    intro c among
    exact List.all_eq_true.1 List.all_takeWhile c (List.mem_reverse.1 among)
  have ends := List.head?_dropWhile_not (· ≠ '\n') before.reverse
  generalize (before.reverse.takeWhile (· ≠ '\n')).reverse = current at whole onLine
  have none : current.count '\n' = 0 := List.count_eq_zero.2 fun feed => by
    simpa using onLine '\n' feed
  have first : (lines (current ++ behind))[0]? = some (current ++ behind.takeWhile (· ≠ '\n')) := by
    rw [← List.head?_eq_getElem?, head?_lines, List.takeWhile_append_of_pos onLine]
  cases earlier : before.reverse.dropWhile (· ≠ '\n') with
  | nil =>
    rw [earlier] at whole
    obtain rfl : current = before := whole
    rw [none, first]
  | cons c rest =>
    rw [earlier] at whole ends
    obtain rfl : c = '\n' := by simpa using ends
    have split : before = rest.reverse ++ '\n' :: current := by simpa using whole.symm
    have index : before.count '\n' = (lines rest.reverse).length + 0 := by
      rw [split, List.count_append, List.count_cons_self, none, length_lines]
    rw [index, split, List.append_assoc, List.cons_append, lines_append_newline,
      List.getElem?_append_right (Nat.le_add_right ..), Nat.add_sub_cancel_left, first]

example : lines "a\n\nb\n".toList = [['a'], [], ['b'], []] := by decide

/-! ## Ends of lists -/

variable {α : Type} {test : α → Bool}

/-- What is left out at the end satisfies the test. -/
theorem exists_dropTrailing_append (test : α → Bool) (xs : List α) :
    ∃ trailing, xs = dropTrailing test xs ++ trailing ∧ ∀ x ∈ trailing, test x = true := by
  refine ⟨(xs.reverse.takeWhile test).reverse, ?_, ?_⟩
  · rw [dropTrailing, ← List.reverse_append, List.takeWhile_append_dropWhile, List.reverse_reverse]
  · intro x among
    exact List.all_eq_true.1 List.all_takeWhile x (List.mem_reverse.1 among)

/-- What is kept does not end with an element that satisfies the test. -/
theorem getLast?_dropTrailing (test : α → Bool) (xs : List α) :
    ∀ x ∈ (dropTrailing test xs).getLast?, test x = false := by
  intro x last
  have ends := List.head?_dropWhile_not test xs.reverse
  rw [dropTrailing, List.getLast?_reverse] at last
  rw [last] at ends
  simpa using ends

/-- Nothing is left out before an element that does not satisfy the test. -/
theorem dropTrailing_append {xs : List α} (ends : ∃ x ∈ xs.getLast?, test x = false)
    (ys : List α) : dropTrailing test (xs ++ ys) = xs ++ dropTrailing test ys := by
  obtain ⟨x, last, fails⟩ := ends
  obtain ⟨front, rfl⟩ := List.getLast?_eq_some_iff.1 last
  simp only [dropTrailing, List.reverse_append, List.reverse_singleton, List.dropWhile_append]
  split
  · rename_i nothing
    simp [fails, List.isEmpty_iff.1 nothing]
  · simp

end Netlist.Text

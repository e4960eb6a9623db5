import Netlist.Proofs.Exactness
import Netlist.Proofs.Layout
import Netlist.Proofs.Wording

/-!
# Carets mark the text at fault

A snippet shows the line of an error, and the carets below it stand under the
text at fault (`Diagnostic.Marks`).

The quoted text and the exact position of an error agree: the text reads so
behind the characters that the position has counted (`exists_split_of_mem_survey`).
So the line of the position is what comes before the place on its line, the text
at fault, and what follows (`Text.getElem?_lines_append`).  The text at fault is
a word, which does not end in a carriage return.  Therefore the carriage returns
that are left out at the end of the line all come behind it.  At the end of the
text only they can be missing, so the caret stands behind all that is shown.
-/

namespace Netlist

variable {comments : Bool} {text : String} {error : Diagnostic}

/-! ## The line of an error -/

/-- An error shows what stands at its position, and nothing only at the end of the text. -/
theorem exists_split_of_mem_survey (found : error ∈ survey comments text) :
    ∃ before after : List Char, text.toList = before ++ (error.text.toList ++ after) ∧
      error.position.line = before.count '\n' + 1 ∧
      error.position.column = (before.reverse.takeWhile (· ≠ '\n')).length + 1 ∧
      (error.text = "" → after = []) := by
  have quotes := quotes_of_mem_survey found
  obtain ⟨before, after, whole, size⟩ := quotes.quoted
  obtain ⟨front, back, split, offset, line, column⟩ := isExact_of_mem_survey found
  have same : before.toList ++ (error.text.toList ++ after.toList) =
      front.toList ++ back.toList := by
    rw [← List.append_assoc, ← String.toList_append, ← String.toList_append,
      ← String.toList_append, ← whole, split]
  have sizes : (String.ofList before.toList).utf8ByteSize =
      (String.ofList front.toList).utf8ByteSize := by
    rw [String.ofList_toList, String.ofList_toList, size, offset]
  obtain ⟨first, -⟩ := append_inj_of_utf8ByteSize same sizes
  refine ⟨before.toList, after.toList, ?_, ?_, ?_, ?_⟩
  · rw [whole, String.toList_append, String.toList_append, List.append_assoc]
  · rw [first, line, Nat.add_comm]
  · rw [first, column, Nat.add_comm]
  · intro empty
    have ends := quotes.ends.1 empty
    have total := congrArg String.utf8ByteSize whole
    rw [empty, String.append_empty, String.utf8ByteSize_append, size, ends] at total
    have none : after.utf8ByteSize = 0 := by omega
    rw [String.utf8ByteSize_eq_zero_iff.1 none, String.toList_empty]

/-- What an error shows is a word, if it shows anything. -/
theorem isWord_text_of_mem_survey (found : error ∈ survey comments text) (shown : error.text ≠ "") :
    IsWord error.text := by
  obtain ⟨item, among, blames⟩ := (quotes_of_mem_survey found).blames shown
  rw [blames.text]
  exact (Cursor.quotes_of_mem_items among).1

/-- On the line of an error its text stands behind as many characters as the column counts. -/
theorem exists_line_of_mem_survey (found : error ∈ survey comments text) :
    ∃ before after : List Char,
      (Text.lines text.toList)[error.position.line - 1]? =
        some (before ++ (error.text.toList ++ after)) ∧
      before.length = error.position.column - 1 ∧ (error.text = "" → after = []) := by
  obtain ⟨before, after, split, line, column, ends⟩ := exists_split_of_mem_survey found
  have onLine : ∀ c ∈ error.text.toList, decide (c ≠ '\n') = true := by
    intro c among
    have shown : error.text ≠ "" := by
      intro empty
      rw [empty] at among
      cases among
    exact decide_eq_true fun feed => (isWord_text_of_mem_survey found shown).isLine (feed ▸ among)
  have source := Text.getElem?_lines_append before (error.text.toList ++ after)
  rw [← split, List.takeWhile_append_of_pos onLine] at source
  refine ⟨(before.reverse.takeWhile (· ≠ '\n')).reverse, after.takeWhile (· ≠ '\n'), ?_, ?_, ?_⟩
  · rw [line, Nat.add_sub_cancel, source]
  · rw [List.length_reverse, column, Nat.add_sub_cancel]
  · intro empty
    rw [ends empty, List.takeWhile_nil]

namespace Diagnostic

/-! ## Carets -/

/-- The carets under a line mark the text at fault. -/
structure Marks (text : String) (error : Diagnostic) (shown indent : List Char) (carets : Nat) :
    Prop where
  /-- Lines are counted from one, and so are columns. -/
  counted : 1 ≤ error.position.line ∧ 1 ≤ error.position.column
  /-- What is shown is the line of the error up to carriage returns. -/
  line : ∃ returns, (Text.lines text.toList)[error.position.line - 1]? = some (shown ++ returns) ∧
    ∀ c ∈ returns, c = '\r'
  /-- No carriage return is shown at the end. -/
  stripped : shown.getLast? ≠ some '\r'
  /-- The carets are moved by tabs under tabs and by spaces under all else. -/
  tabs : ∀ i < indent.length, indent[i]? = some (if shown[i]? = some '\t' then '\t' else ' ')
  /-- They stand under the text at fault, from its first character to its last. -/
  under : error.text ≠ "" → indent.length = error.position.column - 1 ∧
    carets = error.text.length ∧ (shown.drop indent.length).take carets = error.text.toList
  /-- For the end of the text there is one behind all that is shown. -/
  ends : error.text = "" → indent.length = shown.length ∧ carets = 1

theorem length_indent (shown : List Char) (position : Position) :
    (indent shown position).length = min (position.column - 1) shown.length := by
  rw [indent, List.length_map, List.length_take]

theorem getElem?_indent {shown : List Char} {position : Position} {i : Nat}
    (inside : i < (indent shown position).length) :
    (indent shown position)[i]? = some (if shown[i]? = some '\t' then '\t' else ' ') := by
  rw [length_indent, Nat.lt_min] at inside
  rw [indent, List.getElem?_map, List.getElem?_take_of_lt inside.1,
    List.getElem?_eq_getElem inside.2]
  simp

/-- Behind a word the carriage returns at the end of a line are left out. -/
theorem dropTrailing_word_append {word : String} (solid : IsWord word) (before after : List Char) :
    Text.dropTrailing (· == '\r') (before ++ (word.toList ++ after)) =
      before ++ (word.toList ++ Text.dropTrailing (· == '\r') after) := by
  have nonempty : word.toList ≠ [] := mt String.toList_eq_nil_iff.1 solid.nonempty
  rw [← List.append_assoc, ← List.append_assoc]
  refine Text.dropTrailing_append ⟨word.toList.getLast nonempty, ?_, ?_⟩ after
  · rw [List.getLast?_append, List.getLast?_eq_some_getLast nonempty]
    rfl
  · have blank := solid.solid _ (List.getLast_mem nonempty)
    rw [beq_eq_false_iff_ne]
    intro same
    rw [same] at blank
    cases blank

variable {position : Position} {line before after : List Char}

/-- Of the line of a position only the carriage returns at its end are not shown. -/
theorem shownLine_eq (found : (Text.lines text.toList)[position.line - 1]? = some line) :
    shownLine text position = Text.dropTrailing (· == '\r') line := by
  rw [shownLine, found, Option.getD_some]

/-- The carets for a word stand under it. -/
theorem carets_under_word {word : String} (solid : IsWord word)
    (found : (Text.lines text.toList)[position.line - 1]? =
      some (before ++ (word.toList ++ after)))
    (column : before.length = position.column - 1) :
    (indent (shownLine text position) position).length = position.column - 1 ∧
      (carets word).length = word.length ∧
      ((shownLine text position).drop (position.column - 1)).take word.length = word.toList := by
  rw [shownLine_eq found, dropTrailing_word_append solid, ← column]
  have positive : 1 ≤ word.toList.length :=
    List.length_pos_iff.2 (mt String.toList_eq_nil_iff.1 solid.nonempty)
  refine ⟨?_, ?_, ?_⟩
  · rw [length_indent, ← column, List.length_append]
    exact Nat.min_eq_left (Nat.le_add_right ..)
  · rw [carets, List.length_replicate, Nat.max_eq_right positive, String.length_toList]
  · rw [List.drop_left, ← String.length_toList, List.take_left]

/-- At the end of a line the carets are moved by all that is shown. -/
theorem length_indent_of_end
    (found : (Text.lines text.toList)[position.line - 1]? = some line)
    (column : line.length = position.column - 1) :
    (indent (shownLine text position) position).length = (shownLine text position).length := by
  obtain ⟨returns, whole, -⟩ := Text.exists_dropTrailing_append (· == '\r') line
  have longer := congrArg List.length whole
  rw [List.length_append, column] at longer
  rw [length_indent, shownLine_eq found]
  omega

/-- The snippet of an error that is found in a text marks the text at fault. -/
theorem marks_of_mem_survey (found : error ∈ survey comments text) :
    error.Marks text (shownLine text error.position)
      (indent (shownLine text error.position) error.position) (carets error.text).length := by
  obtain ⟨_, _, -, line, column, -⟩ := exists_split_of_mem_survey found
  obtain ⟨before, after, source, width, ends⟩ := exists_line_of_mem_survey found
  refine ⟨by omega, ?_, ?_, fun i inside => getElem?_indent inside, fun shown => ?_,
    fun empty => ?_⟩
  · obtain ⟨returns, whole, all⟩ := Text.exists_dropTrailing_append (· == '\r')
      (before ++ (error.text.toList ++ after))
    refine ⟨returns, ?_, fun c among => by simpa using all c among⟩
    rw [source, shownLine_eq source, ← whole]
  · intro last
    rw [shownLine_eq source] at last
    have other := Text.getLast?_dropTrailing _ _ '\r' last
    cases other
  · have word := isWord_text_of_mem_survey found shown
    obtain ⟨start, count, under⟩ := carets_under_word word source width
    rw [start, count]
    exact ⟨rfl, rfl, under⟩
  · rw [ends empty, empty, String.toList_empty, List.append_nil, List.append_nil] at source
    rw [empty]
    exact ⟨length_indent_of_end source width, rfl⟩

end Diagnostic

/-- Carets mark the text at fault.  The snippet of an error is five lines, and a sixth one for words
that could have been meant.  The fourth line shows the line of the error, and the fifth the carets
under the text at fault. -/
theorem carets_mark_the_text_at_fault (config : Config) (text : String) (error : Diagnostic)
    (reported : parse config text = .error error ∨ error ∈ check config text) :
    ∃ (lines : List String) (shown indent : List Char) (carets : Nat),
      error.render text = String.join (lines.map fun line => line ++ "\n") ∧
      (∀ line ∈ lines, IsLine line) ∧
      lines.length = (if error.suggestions = [] then 5 else 6) ∧
      lines[3]? = some (toString error.position.line ++ " | " ++ .ofList shown) ∧
      lines[4]? = some (.ofList (List.replicate (toString error.position.line).length ' ') ++ " | "
        ++ .ofList (indent ++ List.replicate carets '^')) ∧
      error.Marks text shown indent carets := by
  have found := mem_survey_of_reported reported
  have lines := Diagnostic.isLine_of_mem_snippet (isLine_wording_of_mem_survey found)
    (fun word suggested => isLine_of_mem_suggestions found suggested) text
  have marks := Diagnostic.marks_of_mem_survey found
  have row : List.replicate (Diagnostic.carets error.text).length '^' =
      Diagnostic.carets error.text := by
    rw [Diagnostic.carets, List.length_replicate]
  refine ⟨error.snippet text, _, _, _, rfl, lines, error.length_snippet text, rfl, ?_, marks⟩
  rw [row]
  rfl

/-- A misspelled type behind a comment with a wide character and a tab, on a line that ends in a
carriage return. -/
theorem carets_mark_the_text_at_fault_behind_tab :
    .misplaced ⟨20, 1, 20⟩ "CLK" .unknownDeviceType ∈
        check .default "/*é*/\t(DEVICE g is CLK 5)\r\n(" ∧
      (SyntaxError.make ⟨20, 1, 20⟩ "CLK" .unknownDeviceType).suggestions = ["CLOCK"] ∧
      ∃ (lines : List String) (shown indent : List Char) (carets : Nat),
        (Diagnostic.misplaced ⟨20, 1, 20⟩ "CLK" .unknownDeviceType).render
          "/*é*/\t(DEVICE g is CLK 5)\r\n(" = String.join (lines.map fun line => line ++ "\n") ∧
        (∀ line ∈ lines, IsLine line) ∧
        lines.length = 6 ∧
        lines[3]? = some ("1 | " ++ .ofList shown) ∧
        lines[4]? = some ("  | " ++ .ofList (indent ++ List.replicate carets '^')) ∧
        (Diagnostic.misplaced ⟨20, 1, 20⟩ "CLK" .unknownDeviceType).Marks
          "/*é*/\t(DEVICE g is CLK 5)\r\n(" shown indent carets := by
  have found : .misplaced ⟨20, 1, 20⟩ "CLK" .unknownDeviceType ∈
      check .default "/*é*/\t(DEVICE g is CLK 5)\r\n(" := by decide +kernel
  exact ⟨found, by decide, carets_mark_the_text_at_fault _ _ _ (.inr found)⟩

end Netlist

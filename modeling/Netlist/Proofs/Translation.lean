import Netlist.Proofs.Segmentation
import Netlist.Proofs.Survey

/-!
# Texts that stand behind other texts

What a text says does not depend on where it stands.  To *move* an item or a
diagnostic is to change its position by a function and nothing else.  A
function that follows a position through every text moves the items of the text
(`Item.ofLexemes_move`).  Phases are *alike* if they differ at most in the
lines and positions that they remember, and alike phases find the same errors
in items and in the moved items (`Phase.errors_survey_move`).

A text that ends with its last line does not touch what stands behind it: if it
leaves no block comment open, then its lexemes are followed by those of the
other text (`Lexeme.lexemes_append_of_line`).  Its effect on the positions of
the other text is a *shift* by its bytes and its lines, so the items of both
texts are those of the first and the shifted items of the second
(`Cursor.items_append`).
-/

namespace Netlist

/-! ## Moving -/

/-- A lexical error at another position. -/
def LexicalError.move (f : Position → Position) (error : LexicalError) : LexicalError :=
  { error with position := f error.position }

/-- A syntax error at another position. -/
def SyntaxError.move (f : Position → Position) (error : SyntaxError) : SyntaxError :=
  { error with position := f error.position }

/-- A diagnostic at another position. -/
def Diagnostic.move (f : Position → Position) : Diagnostic → Diagnostic
  | lexical error => lexical (error.move f)
  | syntactic error => syntactic (error.move f)

/-- An item at another position. -/
def Item.move (f : Position → Position) : Item → Item
  | token t => token { t with position := f t.position }
  | fault error => fault (error.move f)

@[simp] theorem Item.opens_move (f : Position → Position) (item : Item) :
    (item.move f).opens = item.opens := by
  cases item <;> rfl

theorem Lexeme.item?_move (lexeme : Lexeme) (f : Position → Position) (position : Position) :
    lexeme.item? (f position) = (lexeme.item? position).map (Item.move f) := by
  cases said : lexeme.meaning <;> simp [item?, said, Item.move, LexicalError.move]

theorem Item.ofLexemes_move {f : Position → Position} {position : Position}
    (moves : ∀ text, f (position.after text) = (f position).after text) (lexemes : List Lexeme) :
    ofLexemes (f position) lexemes = (ofLexemes position lexemes).map (move f) := by
  induction lexemes generalizing position with
  | nil => rfl
  | cons lexeme rest ih =>
    have onward (text : List Char) : f ((position.after lexeme.text).after text) =
        (f (position.after lexeme.text)).after text := by
      rw [← Position.after_append, moves, moves, Position.after_append]
    rw [ofLexemes, ofLexemes, List.map_append, ← ih onward, moves, Lexeme.item?_move]
    cases lexeme.item? position <;> rfl

theorem Item.ofLexemes_append (position : Position) (first second : List Lexeme) :
    ofLexemes position (first ++ second) = ofLexemes position first ++
      ofLexemes (position.after (first.flatMap Lexeme.text)) second := by
  induction first generalizing position with
  | nil => rfl
  | cons lexeme rest ih =>
    rw [List.cons_append, ofLexemes, ofLexemes, ih, List.append_assoc, List.flatMap_cons,
      Position.after_append]

namespace Phase

/-- Phases that differ at most in the lines and positions that they remember. -/
inductive Alike : Phase → Phase → Prop
  /-- Both are outside of all statements. -/
  | outside : Alike outside outside
  /-- Both are at the same place of a statement. -/
  | inside (first second : Nat) (place : Place) : Alike (inside first place) (inside second place)
  /-- Both have closed the same statement. -/
  | closed (first second : Nat) (statement : Statement) :
    Alike (closed first statement) (closed second statement)
  /-- Both are lost. -/
  | lost (first second : Position) : Alike (lost first) (lost second)

variable {first second : Phase} {stop : Position}

theorem Alike.enter (f : Position → Position) (token : Token) :
    Event.errors (Phase.enter { token with position := f token.position }).1 =
        (Event.errors (Phase.enter token).1).map (Diagnostic.move f) ∧
      Alike (Phase.enter token).2 (Phase.enter { token with position := f token.position }).2 := by
  by_cases opens : token.symbol = .openParen
  · simp only [Phase.enter, opens, if_true]
    exact ⟨rfl, .inside _ _ _⟩
  · simp only [Phase.enter, opens, if_false]
    exact ⟨rfl, .lost _ _⟩

/-- Alike phases find the same error in a moved item, and are alike behind it. -/
theorem Alike.step (alike : Alike first second) (f : Position → Position) (item : Item) :
    Event.errors (second.step (item.move f)).1 =
        (Event.errors (first.step item).1).map (Diagnostic.move f) ∧
      Alike (first.step item).2 (second.step (item.move f)).2 := by
  cases item with
  | fault error =>
    rw [Item.move, events_step_fault, events_step_fault]
    refine ⟨rfl, ?_⟩
    cases alike <;> exact .lost _ _
  | token token =>
    cases alike with
    | outside => exact Alike.enter f token
    | inside before behind place =>
      simp only [Phase.step, follow, Item.move]
      split
      · exact ⟨rfl, .inside _ _ _⟩
      · exact ⟨rfl, .closed _ _ _⟩
      · refine ⟨rfl, ?_⟩
        split
        · exact .inside _ _ _
        · exact .lost _ _
    | closed before behind statement =>
      have entering := Alike.enter f token
      simpa [Phase.step, Item.move, Event.error?] using entering
    | lost before behind =>
      simp only [Phase.step, search, Item.move]
      split
      · exact ⟨rfl, .inside _ _ _⟩
      · exact ⟨rfl, .lost _ _⟩

theorem Alike.finish (alike : Alike first second) (f : Position → Position) (stop : Position) :
    Event.errors (second.finish (f stop)) =
      (Event.errors (first.finish stop)).map (Diagnostic.move f) := by
  cases alike <;> rfl

/-- Alike phases find the same errors in moved items. -/
theorem errors_survey_move (alike : Alike first second) (f : Position → Position)
    (stop : Position) (items : List Item) :
    Event.errors (second.survey (f stop) (items.map (Item.move f))) =
      (Event.errors (first.survey stop items)).map (Diagnostic.move f) := by
  induction items generalizing first second with
  | nil => exact alike.finish f stop
  | cons item rest ih =>
    obtain ⟨errors, onward⟩ := alike.step f item
    rw [List.map_cons, errors_survey_cons, errors_survey_cons, List.map_append, errors, ih onward]

end Phase

/-! ## Lexemes behind a line -/

theorem Item.Spans.eq_openComment_of_newline {comments : Bool} {item : Item}
    {text behind : List Char} (spans : item.Spans comments text behind) (feed : '\n' ∈ text) :
    ∃ shown position, item = .fault ⟨.openComment, shown, position⟩ := by
  cases spans with
  | name _ run _ => cases run.inside _ feed
  | keyword _ run _ => cases run.inside _ feed
  | number run _ _ => cases run.inside _ feed
  | mark listed =>
    rw [List.mem_singleton] at feed
    subst feed
    simp [marks] at listed
  | leadingZero run _ => cases run.inside _ feed
  | numberTooLarge run _ _ => cases run.inside _ feed
  | strayCharacter notBlank _ _ _ =>
    rw [List.mem_singleton] at feed
    subst feed
    simp [blanks] at notBlank
  | openComment _ _ => exact ⟨_, _, rfl⟩

namespace Lexeme

variable {comments : Bool}

/-- A lexeme at the end of a text that ends with a line feed is this line feed. -/
theorem Fits.text_eq_newline {lexeme : Lexeme} {behind : List Char}
    (fits : Fits comments lexeme behind) (line : lexeme.text.getLast? = some '\n')
    (ended : lexeme.meaning ≠ .fault .openComment) : lexeme.text = ['\n'] := by
  cases fits with
  | blank _ =>
    cases line
    rfl
  | line _ body _ =>
    have feed := List.mem_of_getLast? line
    simp only [List.mem_cons, body] at feed
    rcases feed with wrong | wrong | wrong <;> cases wrong
  | @block body _ _ _ =>
    have last : ('/' :: '*' :: body ++ ['*', '/']).getLast? = some '/' := by
      rw [List.getLast?_append]
      rfl
    rw [last] at line
    cases line
  | item spanned =>
    obtain ⟨item, found, -, spans⟩ := spanned .start
    obtain ⟨shown, position, rfl⟩ := spans.eq_openComment_of_newline (List.mem_of_getLast? line)
    unfold item? at found
    split at found
    · cases found
    · cases found
    · rename_i cause said
      cases found
      exact absurd said ended

/-- The first lexeme of a text of lines is the same in front of another text. -/
theorem first_append_of_line {c : Char} {rest : List Char}
    (line : (c :: rest).getLast? = some '\n')
    (ended : (first comments c rest).1.meaning ≠ .fault .openComment) (other : List Char) :
    first comments c (rest ++ other) =
      ((first comments c rest).1, (first comments c rest).2 ++ other) := by
  have whole := text_append_first comments c rest
  -- If nothing is behind the lexeme, then the other text could prolong it.  But a lexeme that ends
  -- with a line feed is the line feed.
  rcases behind : (first comments c rest).2 with _ | ⟨d, more⟩
  · rw [behind, List.append_nil] at whole
    have feed := (fits_first comments c rest).text_eq_newline (by rwa [whole]) ended
    rw [whole] at feed
    cases feed
    rw [first_blank (by decide), first_blank (by decide)]
  · have replaces : Replaces ((first comments c rest).2 ++ other) (first comments c rest).2 := by
      rw [behind]
      exact fun e h => .inr h
    have same := first_append ended replaces
    obtain ⟨tail, begins⟩ := exists_text_first comments c rest
    rw [begins, List.cons_append] at whole
    rw [begins, List.tail_cons, ← List.append_assoc, (List.cons.inj whole).2, behind] at same
    exact same

/-- A text of lines that leaves no block comment open is cut as it is in front of another text. -/
theorem lexemes_append_of_line {text : List Char} (line : ∀ c ∈ text.getLast?, c = '\n')
    (ended : ∀ lexeme ∈ lexemes comments text, lexeme.meaning ≠ .fault .openComment)
    (other : List Char) :
    lexemes comments (text ++ other) = lexemes comments text ++ lexemes comments other := by
  fun_induction lexemes comments text with
  | case1 => rfl
  | case2 c rest ih =>
    have last : (c :: rest).getLast? = some '\n' := by
      rw [List.getLast?_eq_some_getLast (List.cons_ne_nil c rest)] at line ⊢
      rw [line _ rfl]
    have within : ∀ d ∈ (first comments c rest).2.getLast?, d = '\n' := by
      intro d h
      apply line
      rw [← text_append_first comments c rest, List.getLast?_append, h]
      rfl
    rw [List.cons_append, lexemes_cons,
      first_append_of_line last (ended _ (by simp)) other, List.cons_append,
      ih within fun lexeme h => ended lexeme (by simp [h])]

end Lexeme

/-! ## Shifted positions -/

/-- A position with so many more bytes and lines before its own line. -/
def Position.shift (bytes lines : Nat) (p : Position) : Position :=
  ⟨p.offset + bytes, p.line + lines, p.column⟩

theorem Position.shift_after (bytes lines : Nat) (p : Position) (text : List Char) :
    (p.after text).shift bytes lines = (p.shift bytes lines).after text := by
  induction text generalizing p with
  | nil => rfl
  | cons c more ih =>
    have once : (p.advance c).shift bytes lines = (p.shift bytes lines).advance c := by
      by_cases feed : c = '\n'
      · simp [advance, shift, feed, Nat.add_right_comm]
      · simp [advance, shift, feed, Nat.add_right_comm]
    rw [after_cons, after_cons, ih, once]

theorem Position.line_after (p : Position) (text : List Char) :
    (p.after text).line = p.line + text.count '\n' := by
  induction text generalizing p with
  | nil => rfl
  | cons c more ih =>
    rw [after_cons, ih, List.count_cons]
    by_cases feed : c = '\n'
    · simp [advance, feed, Nat.add_assoc, Nat.add_comm 1]
    · simp [advance, feed]

/-- The position behind a text, found by counting: the bytes of the text, its line feeds, and the
characters behind the last of them. -/
def Position.behind (text : List Char) : Position where
  offset := (String.ofList text).utf8ByteSize
  line := 1 + text.count '\n'
  column := 1 + (text.reverse.takeWhile (· ≠ '\n')).length

theorem Position.column_after_start (text : List Char) :
    (start.after text).column = (behind text).column := by
  obtain ⟨reversed, rfl⟩ : ∃ reversed, text = List.reverse reversed :=
    ⟨text.reverse, text.reverse_reverse.symm⟩
  induction reversed with
  | nil => rfl
  | cons c earlier ih =>
    rw [behind, List.reverse_reverse] at ih ⊢
    rw [List.reverse_cons, after_append]
    by_cases feed : c = '\n'
    · simp [advance, feed]
    · simp [advance, feed, ih, Nat.add_assoc]

/-- Carried along from the beginning of a text, a position is the one found by counting. -/
theorem Position.after_start (text : List Char) : start.after text = behind text := by
  have offset := offset_after start text
  have line := line_after start text
  have column := column_after_start text
  generalize start.after text = p at offset line column ⊢
  obtain ⟨_, _, _⟩ := p
  simp only at offset line column
  rw [offset, line, column]
  simp [start, behind]

/-- The end of a text of lines is the beginning of a text, shifted. -/
theorem Position.after_start_of_line {text : String} (line : ∀ c ∈ text.toList.getLast?, c = '\n') :
    start.after text.toList = start.shift text.utf8ByteSize (text.toList.count '\n') := by
  have ends : text.toList.reverse.takeWhile (· ≠ '\n') = [] := by
    rw [← List.head?_reverse] at line
    cases reversed : text.toList.reverse with
    | nil => rfl
    | cons c earlier =>
      rw [reversed] at line
      simp [line c rfl]
  rw [after_start, behind, ends, String.ofList_toList]
  simp [start, shift]

namespace Cursor

variable {comments : Bool} {first : String}

theorem stop_append (line : ∀ c ∈ first.toList.getLast?, c = '\n') (second : String) :
    (ofText (first ++ second)).stop =
      (ofText second).stop.shift first.utf8ByteSize (first.toList.count '\n') := by
  show Position.start.after (first ++ second).toList = _
  rw [String.toList_append, Position.after_append, Position.after_start_of_line line,
    ← Position.shift_after]
  rfl

/-- A text without an open comment among its items has none among its lexemes. -/
theorem meaning_ne_openComment {text : String}
    (ended : ∀ error, .fault error ∈ (ofText text).items comments → error.cause ≠ .openComment) :
    ∀ lexeme ∈ Lexeme.lexemes comments text.toList, lexeme.meaning ≠ .fault .openComment := by
  intro lexeme among said
  have content : Meaning.fault .openComment ∈ Lexeme.content comments text.toList :=
    List.mem_filter.2 ⟨said ▸ List.mem_map_of_mem among, by decide⟩
  have items := map_meaning_items comments (ofText text)
  rw [ofText] at items
  rw [← items] at content
  obtain ⟨item, listed, means⟩ := List.mem_map.1 content
  cases item with
  | token token => cases means
  | fault error => exact ended error listed (Meaning.fault.inj means)

/-- The items of a text of lines are followed by those of the text behind it. -/
theorem items_append (line : ∀ c ∈ first.toList.getLast?, c = '\n')
    (ended : ∀ error, .fault error ∈ (ofText first).items comments → error.cause ≠ .openComment)
    (second : String) :
    (ofText (first ++ second)).items comments = (ofText first).items comments ++
      ((ofText second).items comments).map
        (Item.move (Position.shift first.utf8ByteSize (first.toList.count '\n'))) := by
  show Item.ofLexemes .start (Lexeme.lexemes comments (first ++ second).toList) = _
  rw [String.toList_append, Lexeme.lexemes_append_of_line line (meaning_ne_openComment ended),
    Item.ofLexemes_append, Lexeme.flatMap_text_lexemes, Position.after_start_of_line line,
    Item.ofLexemes_move (Position.shift_after _ _ _)]
  rfl

end Cursor

end Netlist

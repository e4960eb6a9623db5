import Netlist.Proofs.Fitting

/-!
# One item further

`Cursor.next` passes a gap and then the text of one item.  What it has passed
is said here in both directions.  If a gap stands before a text, then the next
item is that of the text (`Gap.next_append`).  If there is a next item, then a
gap and the text that the item spans stand before the text that is left
(`Cursor.exists_passes_of_next`).

Nothing of the text is lost, so a cursor ends where it would have ended
(`Cursor.stop_next`), and every item takes at least one character
(`Cursor.length_next_lt`).
-/

namespace Netlist

/-! ## Positions behind a text -/

theorem Position.offset_le_after (position : Position) (text : List Char) :
    position.offset ≤ (position.after text).offset := by
  rw [offset_after]
  exact Nat.le_add_right ..

theorem Position.offset_lt_after (position : Position) {text : List Char} (nonempty : text ≠ []) :
    position.offset < (position.after text).offset := by
  have some : (String.ofList text).utf8ByteSize ≠ 0 := by
    rwa [ne_eq, String.utf8ByteSize_eq_zero_iff, String.ofList_eq_empty_iff]
  rw [offset_after]
  omega

/-! ## Behind a gap -/

namespace Lexeme

variable {comments : Bool} {behind : List Char} {lexeme : Lexeme} {position : Position}

/-- A lexeme that fits is what a cursor meets first. -/
theorem Fits.next_append (fits : Fits comments lexeme behind) (position : Position) :
    (⟨position, lexeme.text ++ behind⟩ : Cursor).next comments =
      match lexeme.item? position with
      | some found => (some found, ⟨position.after lexeme.text, behind⟩)
      | none => (⟨position.after lexeme.text, behind⟩ : Cursor).next comments := by
  obtain ⟨c, more, begins⟩ := List.exists_cons_of_ne_nil fits.text_ne_nil
  have cut := fits.first_eq begins
  rw [begins, List.cons_append, Cursor.next]
  cases found : lexeme.item? position with
  | none => simp [cut, found, begins]
  | some item => simp [cut, found, begins]

/-- The item of a lexeme that fits spans its text. -/
theorem Fits.spans (fits : Fits comments lexeme behind) {found : Item}
    (here : lexeme.item? position = some found) :
    found.Spans comments lexeme.text behind ∧
      (found.text = String.ofList lexeme.text ∨ found.IsOpenComment) := by
  cases fits with
  | item spanned =>
    obtain ⟨other, same, shows, spans⟩ := spanned position
    obtain rfl : other = found := Option.some.inj (same.symm.trans here)
    exact ⟨spans, shows⟩
  | _ => cases here

/-- A lexeme without item makes the gap behind it longer. -/
theorem Fits.gap_append (fits : Fits comments lexeme behind)
    (layout : lexeme.item? position = none) {gap after : List Char} (split : behind = gap ++ after)
    (follows : Gap comments after gap) : Gap comments after (lexeme.text ++ gap) := by
  cases fits with
  | blank blank => exact .blank blank follows
  | line on body ends => exact .line on body (split ▸ ends) follows
  | block on first => simpa using Gap.block on first follows
  | item spanned =>
    obtain ⟨found, here, -⟩ := spanned position
    rw [layout] at here
    cases here

end Lexeme

/-- Behind a gap a cursor meets what it would meet without it. -/
theorem Gap.next_append {comments : Bool} {gap behind : List Char}
    (gaps : Gap comments behind gap) (position : Position) :
    (⟨position, gap ++ behind⟩ : Cursor).next comments =
      (⟨position.after gap, behind⟩ : Cursor).next comments := by
  induction gaps generalizing position with
  | nil => rfl
  | blank blank _ ih => exact ((Lexeme.Fits.blank blank).next_append position).trans (ih _)
  | @line body more on feedless ends _ ih =>
    rw [List.append_assoc, Position.after_append]
    exact ((Lexeme.Fits.line on feedless ends).next_append position).trans (ih _)
  | @block body more on unended _ ih =>
    have split : '/' :: '*' :: body ++ '*' :: '/' :: more =
        ('/' :: '*' :: body ++ ['*', '/']) ++ more := by simp
    rw [split, List.append_assoc, Position.after_append]
    exact ((Lexeme.Fits.block on unended).next_append position).trans (ih _)

namespace Cursor

variable {comments : Bool} {cursor behind : Cursor} {item : Item}

/-! ## What was passed -/

/-- Between two cursors there are a gap and the text of an item. -/
structure Passes (comments : Bool) (cursor : Cursor) (item : Item) (behind : Cursor)
    (gap text : List Char) : Prop where
  /-- Nothing of the text is lost. -/
  split : cursor.rest = gap ++ (text ++ behind.rest)
  /-- Before the item there are only blanks and comments. -/
  isGap : Gap comments (text ++ behind.rest) gap
  /-- The item reaches as far as it can. -/
  spans : item.Spans comments text behind.rest
  /-- The item shows its text, unless it is a comment without end. -/
  shows : item.text = String.ofList text ∨ item.IsOpenComment
  /-- The item stands behind the gap. -/
  place : item.position = cursor.position.after gap
  /-- The second cursor stands behind the item. -/
  further : behind.position = item.position.after text

/-- A cursor behind an item is behind its position. -/
theorem Passes.offset_lt {gap text : List Char}
    (passes : cursor.Passes comments item behind gap text) :
    item.position.offset < behind.position.offset := by
  rw [passes.further]
  exact item.position.offset_lt_after passes.spans.ne_nil

/-- Before the text that the next item leaves there are a gap and the text of the item. -/
theorem exists_passes_of_next (found : cursor.next comments = (some item, behind)) :
    ∃ gap text, cursor.Passes comments item behind gap text := by
  fun_induction Cursor.next comments cursor with
  | case1 position => cases found
  | case2 position c rest cut after first here =>
    obtain ⟨same, rfl⟩ := Prod.mk.inj found
    cases same
    have whole := Lexeme.text_append_first comments c rest
    have place := Lexeme.position_of_item? here
    obtain ⟨spans, shows⟩ := (Lexeme.fits_first comments c rest).spans here
    exact ⟨[], _, whole.symm, .nil, spans, shows, place, by rw [place]⟩
  | case3 position c rest cut after none ih =>
    obtain ⟨gap, text, split, gaps, spans, shows, place, further⟩ := ih found
    have whole := Lexeme.text_append_first comments c rest
    have longer := (Lexeme.fits_first comments c rest).gap_append none split gaps
    refine ⟨cut.1.text ++ gap, text, ?_, longer, spans, shows, ?_, further⟩
    · rw [List.append_assoc, ← split]
      exact whole.symm
    · rw [place, Position.after_append]

/-- Behind the last item nothing is left of the text. -/
theorem rest_of_next_eq_none (found : cursor.next comments = (none, behind)) :
    behind.rest = [] := by
  fun_induction Cursor.next comments cursor with
  | case1 position =>
    cases found
    rfl
  | case2 position c rest cut after first here => cases found
  | case3 position c rest cut after none ih => exact ih found

/-- A cursor stays in its text. -/
theorem stop_next (comments : Bool) (cursor : Cursor) :
    (cursor.next comments).2.stop = cursor.stop := by
  fun_induction Cursor.next comments cursor with
  | case1 position => rfl
  | case2 position c rest cut after first here =>
    show (position.after cut.1.text).after cut.2 = position.after (c :: rest)
    rw [← Position.after_append, Lexeme.text_append_first]
  | case3 position c rest cut after none ih =>
    rw [ih]
    show (position.after cut.1.text).after cut.2 = position.after (c :: rest)
    rw [← Position.after_append, Lexeme.text_append_first]

/-- The next item takes at least one character. -/
theorem length_next_lt (found : cursor.next comments = (some item, behind)) :
    behind.rest.length < cursor.rest.length := by
  obtain ⟨gap, text, passes⟩ := exists_passes_of_next found
  have taken := List.length_pos_iff.2 passes.spans.ne_nil
  rw [passes.split, List.length_append, List.length_append]
  omega

end Cursor

end Netlist

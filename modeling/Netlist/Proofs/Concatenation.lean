import Netlist.Proofs.Independence

/-!
# Definitions one behind the other

A text of lines that is accepted can stand in front of any other text.  If the
other text is accepted as well, then both together hold the statements of the
first and behind them those of the second.  If it is not, then both together
have its first error, at a shifted position (`parse_append`).

What is accepted is a question of content.  The contents of both texts stand one
behind the other (`Lexeme.content_append_of_line`), and so do two derivations
(`Statement.DeriveAll.append`).

What goes wrong is a question of phases.  The accepted text leads the reader to
a phase that is outside of all statements or has just closed one, and from
either of them it finds the same errors in whatever follows
(`Phase.errors_survey_of_settled`).  So the errors of both texts are the shifted
errors of the second (`survey_append_of_parse_eq_ok`).
-/

namespace Netlist

/-! ## Derivations one behind the other -/

theorem Statement.DeriveAll.append {statements others : List Statement}
    {symbols more : List Symbol} (derived : DeriveAll statements symbols)
    (also : DeriveAll others more) : DeriveAll (statements ++ others) (symbols ++ more) := by
  induction derived with
  | nil => exact also
  | cons first _ ih =>
    rw [List.cons_append, List.append_assoc]
    exact .cons first ih

/-- What a text of lines says is followed by what the text behind it says. -/
theorem Lexeme.content_append_of_line {comments : Bool} {text : List Char}
    (line : ∀ c ∈ text.getLast?, c = '\n')
    (ended : ∀ lexeme ∈ lexemes comments text, lexeme.meaning ≠ .fault .openComment)
    (other : List Char) :
    content comments (text ++ other) = content comments text ++ content comments other := by
  rw [content, lexemes_append_of_line line ended, List.map_append, List.filter_append]
  rfl

/-! ## The phase behind an accepted text -/

namespace Phase

variable {stop : Position} {phase : Phase}

/-- Behind a statement that was closed the same errors are found as before any statement. -/
theorem errors_survey_closed (line : Nat) (statement : Statement) (stop : Position)
    (items : List Item) :
    Event.errors ((closed line statement).survey stop items) =
      Event.errors (outside.survey stop items) := by
  cases items with
  | nil => rfl
  | cons item rest =>
    rw [errors_survey_cons, errors_survey_cons]
    cases item with
    | token token => rfl
    | fault error => rfl

/-- A phase in which a text may end finds the errors that a new reader would, unless it is lost. -/
theorem errors_survey_of_settled (onTrack : ¬phase.IsLost)
    (fine : Event.errors (phase.finish stop) = []) (stop : Position) (items : List Item) :
    Event.errors (phase.survey stop items) = Event.errors (outside.survey stop items) := by
  cases phase with
  | outside => rfl
  | inside line place => cases fine
  | closed line statement => exact errors_survey_closed line statement stop items
  | lost since => exact absurd trivial onTrack

/-- Items that cause no error do not lose the reader. -/
theorem not_isLost_after (onTrack : ¬phase.IsLost) {items : List Item}
    (fine : phase.errorsOver items = []) : ¬(phase.after items).IsLost := by
  induction items generalizing phase with
  | nil => exact onTrack
  | cons item rest ih =>
    obtain ⟨here, later⟩ := List.append_eq_nil_iff.1 fine
    obtain ⟨token, rfl⟩ := exists_token_of_errors_step here
    exact ih (not_isLost_step onTrack here) later

end Phase

/-! ## Texts one behind the other -/

variable {config : Config} {first : String} {definition : Definition}

theorem survey_eq_nil_of_parse_eq_ok (accepted : parse config first = .ok definition) :
    survey config.comments first = [] := by
  cases found : survey config.comments first with
  | nil => rfl
  | cons error others =>
    have rejected : parse config first = .error error :=
      parse_eq_error_iff_survey.2 (by rw [found]; rfl)
    rw [accepted] at rejected
    cases rejected

/-- An accepted text leaves no statement and no comment open. -/
theorem not_isUnfinished_of_parse_eq_ok (accepted : parse config first = .ok definition) :
    ∀ error ∈ survey config.comments first, ¬error.IsUnfinished := by
  rw [survey_eq_nil_of_parse_eq_ok accepted]
  exact nofun

/-- All errors in a text behind an accepted one are its own, shifted. -/
theorem survey_append_of_parse_eq_ok (line : ∀ c ∈ first.toList.getLast?, c = '\n')
    (accepted : parse config first = .ok definition) (second : String) :
    survey config.comments (first ++ second) =
      (survey config.comments second).map
        (.move (.shift first.utf8ByteSize (first.toList.count '\n'))) := by
  have ended := not_isUnfinished_of_parse_eq_ok accepted
  obtain ⟨whole, fine⟩ := survey_eq_errorsOver ended
  rw [survey_eq_nil_of_parse_eq_ok accepted] at whole
  have onTrack : ¬(Phase.outside.after ((Cursor.ofText first).items config.comments)).IsLost :=
    Phase.not_isLost_after id whole.symm
  have both := Cursor.items_append line (cause_ne_openComment ended) second
  have stop := Cursor.stop_append line second
  generalize Position.shift first.utf8ByteSize (first.toList.count '\n') = shift at both stop ⊢
  calc
    survey config.comments (first ++ second)
      = Event.errors ((Phase.outside.after ((Cursor.ofText first).items config.comments)).survey
          (Cursor.ofText (first ++ second)).stop
          (((Cursor.ofText second).items config.comments).map (.move shift))) := by
        rw [survey, both, Phase.errors_survey_append, ← whole, List.nil_append]
    _ = Event.errors (Phase.outside.survey (Cursor.ofText (first ++ second)).stop
          (((Cursor.ofText second).items config.comments).map (.move shift))) :=
        Phase.errors_survey_of_settled onTrack fine _ _
    _ = (survey config.comments second).map (.move shift) := by
        rw [stop, Phase.errors_survey_move .outside]
        rfl

/-- An accepted text of lines and an accepted text behind it hold the statements of both. -/
theorem parse_append_eq_ok (line : ∀ c ∈ first.toList.getLast?, c = '\n')
    (accepted : parse config first = .ok definition) {second : String} {other : Definition}
    (also : parse config second = .ok other) :
    parse config (first ++ second) = .ok ⟨definition.statements ++ other.statements⟩ := by
  obtain ⟨symbols, said, derived⟩ := parse_eq_ok_iff_content.1 accepted
  obtain ⟨more, saidBehind, derivedBehind⟩ := parse_eq_ok_iff_content.1 also
  have ended := Cursor.meaning_ne_openComment
    (cause_ne_openComment (not_isUnfinished_of_parse_eq_ok accepted))
  refine parse_eq_ok_iff_content.2 ⟨symbols ++ more, ?_, derived.append derivedBehind⟩
  rw [String.toList_append, Lexeme.content_append_of_line line ended, said, saidBehind,
    List.map_append]

/-- Behind an accepted text of lines every text is read as it is on its own.  If it is accepted,
its statements follow those of the first text.  If not, its error is the error of both, shifted by
the bytes and the lines of the first text. -/
theorem parse_append (config : Config) {first : String} {definition : Definition}
    (line : first = "" ∨ first.toList.getLast? = some '\n')
    (accepted : parse config first = .ok definition) (second : String) :
    (∀ other, parse config second = .ok other →
      parse config (first ++ second) = .ok ⟨definition.statements ++ other.statements⟩) ∧
    ∀ error, parse config second = .error error →
      parse config (first ++ second) =
        .error (error.move (.shift first.utf8ByteSize (first.toList.count '\n'))) := by
  have lines : ∀ c ∈ first.toList.getLast?, c = '\n' := by
    intro c last
    rcases line with rfl | feed
    · cases last
    · rw [feed] at last
      exact (Option.some.inj last).symm
  refine ⟨fun other also => parse_append_eq_ok lines accepted also, fun error rejected => ?_⟩
  rw [parse_eq_error_iff_survey] at rejected ⊢
  rw [survey_append_of_parse_eq_ok lines accepted, List.head?_map, rejected]
  rfl

/-- The first text ends with a comment.  Behind it stand a text that begins with a stray character,
and one that is accepted. -/
theorem parse_append_behind_comment :
    ("(DEVICE q is DTYPE) // é\n".toList.getLast? = some '\n' ∧
      parse .default "(DEVICE q is DTYPE) // é\n" =
        .ok ⟨[.device ⟨"q", []⟩ ⟨.dtype, none, rfl⟩]⟩ ∧
      parse .default "\t%(MONITOR q)" = .error (.lexical ⟨.strayCharacter '%', "%", ⟨1, 1, 2⟩⟩) ∧
      parse .default "(MONITOR q)" = .ok ⟨[.monitor ⟨⟨"q", none⟩, []⟩]⟩) ∧
    parse .default ("(DEVICE q is DTYPE) // é\n" ++ "\t%(MONITOR q)") =
      .error (.lexical ⟨.strayCharacter '%', "%", ⟨27, 2, 2⟩⟩) ∧
    parse .default ("(DEVICE q is DTYPE) // é\n" ++ "(MONITOR q)") =
      .ok ⟨[.device ⟨"q", []⟩ ⟨.dtype, none, rfl⟩, .monitor ⟨⟨"q", none⟩, []⟩]⟩ := by
  have line : "(DEVICE q is DTYPE) // é\n".toList.getLast? = some '\n' := by decide +kernel
  have accepted : parse .default "(DEVICE q is DTYPE) // é\n" =
      .ok ⟨[.device ⟨"q", []⟩ ⟨.dtype, none, rfl⟩]⟩ :=
    parse_eq_ok_iff_events.2 (by decide +kernel)
  have rejected : parse .default "\t%(MONITOR q)" =
      .error (.lexical ⟨.strayCharacter '%', "%", ⟨1, 1, 2⟩⟩) :=
    parse_eq_error_iff.2 (by decide +kernel)
  have also : parse .default "(MONITOR q)" = .ok ⟨[.monitor ⟨⟨"q", none⟩, []⟩]⟩ :=
    parse_eq_ok_iff_events.2 (by decide +kernel)
  have bytes : "(DEVICE q is DTYPE) // é\n".utf8ByteSize = 26 := by decide +kernel
  have lines : "(DEVICE q is DTYPE) // é\n".toList.count '\n' = 1 := by decide +kernel
  have moved := (parse_append .default (.inr line) accepted _).2 _ rejected
  rw [bytes, lines] at moved
  exact ⟨⟨line, accepted, rejected, also⟩, moved,
    (parse_append .default (.inr line) accepted _).1 _ also⟩

end Netlist

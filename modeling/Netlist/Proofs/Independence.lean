import Netlist.Proofs.Translation

/-!
# Statements are judged independently

A check finds in a text behind another one what it would find in this text
alone.  The texts have to meet where neither of them reaches into the other:
the first is a text of lines that leaves no statement and no comment open, and
the second begins with the mark that opens a statement.

At the end of the first text the reader is then outside of all statements, or
has closed one, or is lost, and an opening mark takes it from each of these
phases to the same one (`Phase.survey_of_opens`).  So what it goes through in
the second text is what a new reader would, at shifted positions
(`survey_append`).  Since no limit is reached, the same holds of what is
reported (`check_append_eq_append`).
-/

namespace Netlist

/-- The text ends inside of a statement or of a comment. -/
def Diagnostic.IsUnfinished : Diagnostic → Prop
  | lexical error => error.cause = .openComment
  | syntactic error => error.cause = .unterminated

instance : DecidablePred Diagnostic.IsUnfinished
  | .lexical error => inferInstanceAs (Decidable (error.cause = _))
  | .syntactic error => inferInstanceAs (Decidable (error.cause = _))

namespace Phase

variable {stop : Position} {phase : Phase}

/-- A phase in which a text may end goes on with an opening mark as if nothing had been read. -/
theorem survey_of_opens (fine : Event.errors (phase.finish stop) = []) {item : Item}
    (opens : item.opens) (stop : Position) (rest : List Item) :
    Event.errors (phase.survey stop (item :: rest)) =
      Event.errors (outside.survey stop (item :: rest)) := by
  cases item with
  | fault error => cases opens
  | token token =>
    have mark : token.symbol = .openParen := by simpa [Item.opens] using opens
    rw [errors_survey_cons, errors_survey_cons]
    cases phase with
    | outside => rfl
    -- Inside of a statement the end of the text is an error.
    | inside line place => simp [finish, Event.error?] at fine
    | closed line statement => simp [step, enter, mark, Event.error?]
    | lost since => simp [step, enter, search, mark, Event.error?]

/-- An error at the end of the text is that of a statement without end. -/
theorem errors_finish_eq_nil (ended : ∀ error ∈ Event.errors (phase.finish stop),
    ¬error.IsUnfinished) : Event.errors (phase.finish stop) = [] := by
  cases phase with
  | inside line place => exact absurd rfl (ended (.misplaced stop "" .unterminated) (by
      simp [finish, Event.error?]))
  | _ => rfl

end Phase

variable {comments : Bool} {first second : String}

theorem cause_ne_openComment (ended : ∀ error ∈ survey comments first, ¬error.IsUnfinished) :
    ∀ error, .fault error ∈ (Cursor.ofText first).items comments →
      error.cause ≠ .openComment := by
  intro error among
  have listed : error ∈ ((Cursor.ofText first).items comments).filterMap Item.fault? :=
    List.mem_filterMap.2 ⟨_, among, rfl⟩
  rw [← lexical_survey_eq_faults] at listed
  obtain ⟨diagnostic, found, same⟩ := List.mem_filterMap.1 listed
  cases diagnostic with
  | lexical fault =>
    cases same
    exact ended _ found
  | syntactic _ => cases same

/-- If nothing is left open at the end of a text, then all errors in it are caused by its items. -/
theorem survey_eq_errorsOver (ended : ∀ error ∈ survey comments first, ¬error.IsUnfinished) :
    survey comments first =
        Phase.outside.errorsOver ((Cursor.ofText first).items comments) ∧
      Event.errors ((Phase.outside.after ((Cursor.ofText first).items comments)).finish
        (Cursor.ofText first).stop) = [] := by
  have whole := Phase.errors_survey_append (Cursor.ofText first).stop .outside
    ((Cursor.ofText first).items comments) []
  rw [List.append_nil, Phase.survey_nil] at whole
  rw [survey, whole] at ended ⊢
  have fine := Phase.errors_finish_eq_nil fun error h => ended error (List.mem_append_right _ h)
  rw [fine, List.append_nil]
  exact ⟨rfl, rfl⟩

/-- All errors in two texts are those of the first and the shifted errors of the second. -/
theorem survey_append (line : ∀ c ∈ first.toList.getLast?, c = '\n')
    (ended : ∀ error ∈ survey comments first, ¬error.IsUnfinished)
    (begins : ∃ mark rest, (Cursor.ofText second).items comments = mark :: rest ∧ mark.opens) :
    survey comments (first ++ second) = survey comments first ++
      (survey comments second).map
        (.move (.shift first.utf8ByteSize (first.toList.count '\n'))) := by
  obtain ⟨mark, rest, items, opens⟩ := begins
  obtain ⟨whole, fine⟩ := survey_eq_errorsOver ended
  have both := Cursor.items_append line (cause_ne_openComment ended) second
  generalize shifted : Position.shift first.utf8ByteSize (first.toList.count '\n') = shift at both ⊢
  calc
    survey comments (first ++ second)
      = survey comments first ++ Event.errors
          ((Phase.outside.after ((Cursor.ofText first).items comments)).survey
            (Cursor.ofText (first ++ second)).stop ((mark :: rest).map (.move shift))) := by
        rw [survey, both, Phase.errors_survey_append, whole, items]
    _ = survey comments first ++ Event.errors (Phase.outside.survey
          (Cursor.ofText (first ++ second)).stop ((mark :: rest).map (.move shift))) := by
        rw [List.map_cons, Phase.survey_of_opens fine (by simpa using opens)]
    _ = survey comments first ++ (survey comments second).map (.move shift) := by
        rw [Cursor.stop_append line, shifted, Phase.errors_survey_move .outside, ← items]
        rfl

/-- What is reported for two texts is what is reported for the first, and behind it what is
reported for the second at positions shifted by the bytes and the lines of the first. -/
theorem check_append_eq_append (config : Config) (first second : String)
    (room : first.utf8ByteSize + second.utf8ByteSize + 1 < config.maxErrors)
    (line : first = "" ∨ first.toList.getLast? = some '\n')
    (begins : ∃ position behind, (Cursor.ofText second).next config.comments =
      (some (.token ⟨.openParen, position⟩), behind))
    (ended : ∀ error ∈ check config first, ¬error.IsUnfinished) :
    check config (first ++ second) = check config first ++
      (check config second).map
        (.move (.shift first.utf8ByteSize (first.toList.count '\n'))) := by
  have lines : ∀ c ∈ first.toList.getLast?, c = '\n' := by
    rcases line with rfl | last
    · exact nofun
    · intro c h
      rw [last] at h
      exact (Option.some.inj h).symm
  obtain ⟨position, behind, next⟩ := begins
  have items := Cursor.items_eq_next config.comments (.ofText second)
  rw [next] at items
  have size : (first ++ second).utf8ByteSize = first.utf8ByteSize + second.utf8ByteSize :=
    String.utf8ByteSize_append
  rw [check_eq_survey_of_lt config first (by omega)] at ended
  rw [check_eq_survey_of_lt config first (by omega),
    check_eq_survey_of_lt config second (by omega),
    check_eq_survey_of_lt config (first ++ second) (by omega)]
  exact survey_append lines ended ⟨_, _, items, rfl⟩

/-- The first text ends while the reader is lost, behind a syntax error and two lexical errors.  The
error of the second text is on the third line of both together. -/
theorem check_append_eq_append_while_lost :
    ("(MONITOR a b\n\t, 007 é\n".utf8ByteSize + " (MONITOR)".utf8ByteSize + 1 < 50 ∧
      "(MONITOR a b\n\t, 007 é\n".toList.getLast? = some '\n' ∧
      (∃ position behind, (Cursor.ofText " (MONITOR)").next true =
        (some (.token ⟨.openParen, position⟩), behind)) ∧
      ∀ error ∈ check .default "(MONITOR a b\n\t, 007 é\n", ¬error.IsUnfinished) ∧
    check .default ("(MONITOR a b\n\t, 007 é\n" ++ " (MONITOR)") =
      check .default "(MONITOR a b\n\t, 007 é\n" ++
        (check .default " (MONITOR)").map (.move (.shift 23 2)) ∧
    check .default "(MONITOR a b\n\t, 007 é\n" =
      [.misplaced ⟨14, 2, 2⟩ "," (.expected "')'"), .lexical ⟨.leadingZero, "007", ⟨16, 2, 4⟩⟩,
        .lexical ⟨.strayCharacter 'é', "é", ⟨20, 2, 8⟩⟩] ∧
    check .default " (MONITOR)" = [.misplaced ⟨9, 1, 10⟩ ")" (.expected "a device name")] ∧
    check .default ("(MONITOR a b\n\t, 007 é\n" ++ " (MONITOR)") =
      [.misplaced ⟨14, 2, 2⟩ "," (.expected "')'"), .lexical ⟨.leadingZero, "007", ⟨16, 2, 4⟩⟩,
        .lexical ⟨.strayCharacter 'é', "é", ⟨20, 2, 8⟩⟩,
        .misplaced ⟨32, 3, 10⟩ ")" (.expected "a device name")] := by
  have room : "(MONITOR a b\n\t, 007 é\n".utf8ByteSize + " (MONITOR)".utf8ByteSize + 1 < 50 := by
    decide +kernel
  have line : "(MONITOR a b\n\t, 007 é\n".toList.getLast? = some '\n' := by decide +kernel
  have first : ((Cursor.ofText " (MONITOR)").next true).1 =
      some (.token ⟨.openParen, ⟨1, 1, 2⟩⟩) := by decide +kernel
  have begins : ∃ position behind, (Cursor.ofText " (MONITOR)").next true =
      (some (.token ⟨.openParen, position⟩), behind) := ⟨_, _, Prod.ext first rfl⟩
  have ended : ∀ error ∈ check .default "(MONITOR a b\n\t, 007 é\n", ¬error.IsUnfinished := by
    decide +kernel
  have bytes : "(MONITOR a b\n\t, 007 é\n".utf8ByteSize = 23 := by decide +kernel
  have lines : "(MONITOR a b\n\t, 007 é\n".toList.count '\n' = 2 := by decide +kernel
  have law := check_append_eq_append .default _ _ room (.inr line) begins ended
  rw [bytes, lines] at law
  have own : check .default "(MONITOR a b\n\t, 007 é\n" =
      [.misplaced ⟨14, 2, 2⟩ "," (.expected "')'"), .lexical ⟨.leadingZero, "007", ⟨16, 2, 4⟩⟩,
        .lexical ⟨.strayCharacter 'é', "é", ⟨20, 2, 8⟩⟩] := by decide +kernel
  have other : check .default " (MONITOR)" =
      [.misplaced ⟨9, 1, 10⟩ ")" (.expected "a device name")] := by decide +kernel
  refine ⟨⟨room, line, begins, ended⟩, law, own, other, ?_⟩
  rw [law, own, other]
  rfl

end Netlist

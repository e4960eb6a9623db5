import Netlist.Proofs.Legs

/-!
# Reading on demand is reading

An intake answers all questions as the reader that holds the items of its text
(`Intake.replies_reader`).  What is unread are the items of that reader, unless
the first of them is no token and was already reported (`Intake.reader`).
Between two questions an error is still to be reported only at the item that the
intake looks at (`Intake.Coherent`), and this decides what a question begins
with.

The loops of an intake are bounded by its text alone, and so is all reading
(`every_turn_draws`).
-/

namespace Netlist

namespace Intake

variable {intake last : Intake}

/-! ## Readers -/

/-- A reader of the unread items.  If the first of them is no token, and this was already reported,
then the reader is spoiled there. -/
def reader (intake : Intake) : Reader :=
  let whole : Reader := ⟨intake.config, intake.cursor.stop, none, intake.unread⟩
  match intake.pending with
  | some _ => whole
  | none => whole.resume intake.unread

/-- What holds of an intake between two questions. -/
structure Coherent (intake : Intake) : Prop where
  /-- All the rest holds as if the error were reported. -/
  settled : intake.settle.Settled
  /-- An error that is still to be reported is at the item that the intake looks at. -/
  pending : ∀ e ∈ intake.pending, intake.current = some (.fault e)

theorem Settled.coherent (settled : intake.Settled) : intake.Coherent where
  settled := by rwa [settle_eq_self settled.reported]
  pending e waits := by
    rw [settled.reported] at waits
    cases waits

theorem coherent_ofCursor (config : Config) (cursor : Cursor) :
    (ofCursor config cursor).Coherent := by
  have settled := @settled_draw (start config cursor) rfl
  unfold ofCursor
  simp only
  split
  · rename_i e looks
    refine ⟨⟨settled.ended, settled.behind, rfl⟩, fun other waits => ?_⟩
    cases waits
    exact looks
  · exact settled.coherent

theorem Coherent.answer (coherent : intake.Coherent) (question : Question) :
    (intake.answer question).2.Coherent :=
  ((intake.draws_answer question).settled coherent.settled).coherent

theorem reader_of_reads (settled : intake.Settled) (reads : intake.Reads) :
    intake.reader = ⟨intake.config, intake.cursor.stop, none, intake.unread⟩ := by
  simp only [reader, settled.reported, Reader.resume_of_head? (reads.head?_unread settled)]

theorem reader_of_fault (reported : intake.pending = none) {e : LexicalError}
    (looks : intake.current = some (.fault e)) :
    intake.reader =
      ⟨intake.config, intake.cursor.stop, some e.position, intake.draw.behind.unread⟩ := by
  simp only [reader, reported, unread_of_current looks, Reader.resume]

theorem reader_of_pending {e : LexicalError} (waits : intake.pending = some e) :
    intake.reader = ⟨intake.config, intake.cursor.stop, none, intake.unread⟩ := by
  simp only [reader, waits]

@[simp] theorem config_reader (intake : Intake) : intake.reader.config = intake.config := by
  unfold reader
  simp only
  split
  · rfl
  · exact Reader.config_resume ..

@[simp] theorem stop_reader (intake : Intake) : intake.reader.stop = intake.cursor.stop := by
  unfold reader
  simp only
  split
  · rfl
  · exact Reader.stop_resume ..

/-- The reader behind some draws. -/
theorem Draws.reader_eq (draws : Draws intake.settle last) (settled : intake.settle.Settled) :
    last.reader = intake.reader.resume last.unread := by
  simp only [Intake.reader, (draws.settled settled).reported]
  exact Reader.resume_eq_of_eq (draws.config_eq.trans intake.config_reader.symm)
    (draws.stop_eq.trans intake.stop_reader.symm) _

/-- An intake and a reader of the same text are made alike. -/
theorem reader_ofCursor (config : Config) (cursor : Cursor) :
    (ofCursor config cursor).reader = Reader.ofCursor config cursor := by
  have unread : (start config cursor).draw.behind.unread = cursor.items config.comments :=
    unread_draw _
  have stop : (start config cursor).draw.behind.cursor.stop = cursor.stop :=
    Cursor.stop_next config.comments cursor
  rw [Reader.ofCursor, ← unread, ← stop]
  unfold ofCursor
  simp only
  split
  · rfl
  · rename_i reads
    exact reader_of_reads (settled_draw rfl) reads

/-! ## Answers -/

theorem reads_or_fault (intake : Intake) :
    intake.Reads ∨ ∃ e, intake.current = some (.fault e) := by
  match looks : intake.current with
  | some (.fault e) => exact .inr ⟨e, rfl⟩
  | some (.token t) => exact .inl fun e other => by simp [looks] at other
  | none => exact .inl fun e other => by simp [looks] at other

/-- An intake that looks at text that is no token, and has reported that, cannot begin a
statement. -/
theorem statement_of_fault {e : LexicalError} (looks : intake.current = some (.fault e)) :
    intake.statement = ⟨[.error (Reader.stuck e.position)], intake⟩ := by
  simp only [statement, looks]

/-- A parse on demand is the parse of a reader. -/
theorem parse_reader (coherent : intake.Coherent) :
    intake.reader.parse =
      ⟨intake.parse.1, intake.parse.2.events, intake.parse.2.behind.reader⟩ := by
  cases waits : intake.pending with
  | some e =>
    have looks := coherent.pending e waits
    have stopped : Phase.outside.parse intake.cursor.stop intake.unread =
        ⟨[.error (.lexical e)], intake.unread⟩ := by
      rw [unread_of_current looks]
      rfl
    rw [reader_of_pending waits, Intake.parse, waits, Reader.parse]
    simp only [stopped]
    rfl
  | none =>
    have settled : intake.Settled := settle_eq_self waits ▸ coherent.settled
    rcases intake.reads_or_fault with reads | ⟨e, looks⟩
    · have draws : Draws intake.settle intake.statements.behind := by
        rw [settle_eq_self waits]
        exact draws_statements intake
      have next := draws.reader_eq coherent.settled
      rw [reader_of_reads settled reads] at next ⊢
      rw [Intake.parse, waits, Reader.parse]
      simp only [parse_eq_statements settled reads, ← next]
      cases Event.errors intake.statements.events <;> rfl
    · have stuck : intake.statements = ⟨[.error (Reader.stuck e.position)], intake⟩ := by
        rw [statements, dif_neg (by simp [looks])]
        simp [statement_of_fault looks, Event.error?]
      have answered : intake.parse =
          (.error (Reader.stuck e.position), ⟨[.error (Reader.stuck e.position)], intake⟩) := by
        rw [Intake.parse, waits, stuck]
        rfl
      rw [answered, reader_of_fault waits looks]
      rfl

/-- Behind an error that is still to be reported a check on demand searches for a statement. -/
theorem search_of_pending {e : LexicalError} (waits : intake.pending = some e) :
    intake.search =
      (intake.settle.recover.behind.rounds (intake.config.maxErrors -
        (Event.errors (.error (.lexical e) :: intake.settle.recover.events)).length)).prepend
          (.error (.lexical e) :: intake.settle.recover.events) := by
  simp only [search, clear, waits]
  rfl

theorem search_of_reported (reported : intake.pending = none) :
    intake.search = intake.rounds intake.config.maxErrors := by
  simp only [search, clear, reported]
  rfl

/-- Where an error was reported before, a check on demand that may report one more does so, and
searches for a statement. -/
theorem rounds_of_fault {e : LexicalError} (looks : intake.current = some (.fault e)) {room : Nat}
    (positive : 0 < room) :
    intake.rounds room =
      (intake.recover.behind.rounds
        (room - 1 - (Event.errors intake.recover.events).length)).prepend
          (.error (Reader.stuck e.position) :: intake.recover.events) := by
  have goesOn : ¬(intake.current = none ∨ room = 0) := by
    rw [looks]
    rintro (⟨⟨⟩⟩ | full)
    exact Nat.ne_of_gt positive full
  have round : intake.round = intake.recover.prepend [.error (Reader.stuck e.position)] := by
    simp [round, statement_of_fault looks, Event.error?]
  rw [rounds, dif_neg goesOn, round]
  simp [Event.error?, Nat.sub_sub, Nat.add_comm]

/-- Where an error is still to be reported, a check on demand is the check of a reader. -/
theorem checkEvents_reader_of_pending (coherent : intake.Coherent) {e : LexicalError}
    (waits : intake.pending = some e) :
    intake.reader.checkEvents =
      (intake.search.events, intake.reader.resume intake.search.behind.unread) := by
  have looks := coherent.pending e waits
  have found : Phase.outside.react intake.cursor.stop intake.settle.unread =
      [.error (.lexical e)] := by
    rw [@unread_of_current intake.settle _ looks]
    rfl
  have trail : Phase.outside.check intake.cursor.stop intake.config.maxErrors intake.unread =
      ⟨intake.search.events, intake.search.behind.unread⟩ := by
    rw [search_of_pending waits]
    refine (check_error _ coherent.settled id found).trans ?_
    exact congrArg (Trail.prepend _) (check_rounds_recover coherent.settled _)
  rw [reader_of_pending waits]
  refine Reader.checkEvents_of_fresh rfl (fun nothing => nothing.2 ?_) trail
  rw [Reader.beginsWithFault, unread_of_current looks]

/-- Where an error was reported, a check on demand is the check of a spoiled reader. -/
theorem checkEvents_reader_of_fault (settled : intake.Settled) {e : LexicalError}
    (looks : intake.current = some (.fault e)) (positive : 0 < intake.config.maxErrors) :
    intake.reader.checkEvents =
      (intake.search.events, intake.reader.resume intake.search.behind.unread) := by
  have goesOn : ¬intake.Halts := fun halts => by cases halts _ looks
  have stands : intake.position = e.position := by rw [position, looks]; rfl
  have onward := check_recover intake.cursor.stop (intake.config.maxErrors - 1) settled goesOn
  rw [check_rounds_recover settled, stands, events_draw] at onward
  rw [search_of_reported settled.reported, rounds_of_fault looks positive,
    reader_of_fault settled.reported looks]
  exact Reader.checkEvents_of_spoiled rfl positive onward

/-- What a check does on demand is what it does with a reader. -/
theorem checkEvents_reader (coherent : intake.Coherent) :
    intake.reader.checkEvents = (intake.search.events, intake.search.behind.reader) := by
  have next : intake.search.behind.reader = intake.reader.resume intake.search.behind.unread :=
    (draws_search intake).reader_eq coherent.settled
  cases waits : intake.pending with
  | some e => rw [next, checkEvents_reader_of_pending coherent waits]
  | none =>
    have settled : intake.Settled := settle_eq_self waits ▸ coherent.settled
    have search := search_of_reported waits
    rcases Nat.eq_zero_or_pos intake.config.maxErrors with full | positive
    · have stays : intake.search = ⟨[], intake⟩ := by
        rw [search, full, rounds, dif_pos (.inr rfl)]
      rw [stays]
      refine Reader.checkEvents_of_full (by simpa using full) fun fresh => ?_
      rcases intake.reads_or_fault with reads | ⟨e, looks⟩
      · rw [reader_of_reads settled reads]
        exact Reader.beginsWithFault_eq_false (reads.head?_unread settled)
      · rw [reader_of_fault waits looks] at fresh
        cases fresh
    · rw [next]
      rcases intake.reads_or_fault with reads | ⟨e, looks⟩
      · have trail := check_rounds settled (.inr ⟨positive, reads⟩)
        rw [← search] at trail
        rw [reader_of_reads settled reads]
        exact Reader.checkEvents_of_fresh rfl (fun none => Nat.ne_of_gt positive none.1) trail
      · exact checkEvents_reader_of_fault settled looks positive

/-- A check on demand is the check of a reader. -/
theorem check_reader (coherent : intake.Coherent) :
    intake.reader.check =
      ⟨intake.check.1, intake.check.2.events, intake.check.2.behind.reader⟩ := by
  rw [Reader.check, checkEvents_reader coherent, config_reader]
  rfl

/-- An intake answers all questions as a reader does. -/
theorem replies_reader (coherent : intake.Coherent) (questions : List Question) :
    intake.replies questions = intake.reader.replies questions := by
  induction questions generalizing intake with
  | nil => rfl
  | cons question later ih =>
    have onward := ih (coherent.answer question)
    rw [replies, onward]
    cases question with
    | definition =>
      rw [Reader.replies, parse_reader coherent]
      rfl
    | errors =>
      rw [Reader.replies, check_reader coherent]
      rfl

end Intake

/-! ## Progress -/

/-- Reading is bounded by the text, wherever it begins and whatever is asked.  What is cut off is
never empty, and so is no item.  A loop that goes on has drawn something in between, and less is
left of the text, so no loop goes on forever.  All that is drawn for some questions are items of the
text one after the other and then its end, behind which nothing is drawn.  And the answers that are
found in this way are those of a reader. -/
theorem every_turn_draws (config : Config) (cursor : Cursor) (questions : List Question) :
    (∀ comments c rest, ∃ taken, taken ≠ [] ∧
      c :: rest = taken ++ (Lexeme.first comments c rest).2) ∧
    (∀ comments (here behind : Cursor) item, here.next comments = (some item, behind) →
      ∃ taken, taken ≠ [] ∧ here.rest = taken ++ behind.rest) ∧
    (∀ intake next : Intake, intake.Turn next →
      (∃ results, results ≠ [] ∧ next.drawn = intake.drawn ++ results) ∧
        next.remaining < intake.remaining) ∧
    WellFounded (fun next intake : Intake => intake.Turn next) ∧
    ((Intake.ofCursor config cursor).after questions).drawn <+:
      (cursor.items config.comments).map some ++ [none] ∧
    (Intake.ofCursor config cursor).replies questions =
      (Reader.ofCursor config cursor).replies questions := by
  refine ⟨fun comments c rest => ?_, fun comments here behind item next => ?_,
    fun intake next turn => ⟨turn.advances.exists_drawn, turn.advances.remaining_lt⟩,
    Intake.wellFounded_turn, ?_, ?_⟩
  · obtain ⟨more, begins⟩ := Lexeme.exists_text_first comments c rest
    refine ⟨_, ?_, (Lexeme.text_append_first comments c rest).symm⟩
    rw [begins]
    exact List.cons_ne_nil _ _
  · obtain ⟨gap, text, passes⟩ := Cursor.exists_passes_of_next next
    refine ⟨gap ++ text, ?_, by rw [passes.split, List.append_assoc]⟩
    exact List.append_ne_nil_of_right_ne_nil _ passes.spans.ne_nil
  · rw [← Intake.drawn_append_ahead_ofCursor, ← Intake.drawn_append_ahead_after _ questions]
    exact List.prefix_append ..
  · rw [Intake.replies_reader (Intake.coherent_ofCursor config cursor), Intake.reader_ofCursor]

/-- A statement cannot begin with a name.  A check that finds one there draws nothing for the
statement, but then the search for the next statement does, and a second check draws nothing. -/
theorem every_turn_draws_at_name :
    let intake := Intake.ofCursor ⟨true, 1⟩ (.ofText "a é")
    intake.current ≠ none ∧ intake.statement.behind.drawn = intake.drawn ∧
      intake.round.behind.remaining < intake.remaining ∧
      (intake.after [.errors]).drawn.getLast? = some none ∧
      (intake.after [.errors, .errors]).drawn <+:
        ((Cursor.ofText "a é").items true).map some ++ [none] := by
  intro intake
  have goesOn : intake.current ≠ none := by decide +kernel
  have bounded := every_turn_draws ⟨true, 1⟩ (.ofText "a é") [.errors, .errors]
  exact ⟨goesOn, by decide +kernel, (bounded.2.2.1 _ _ (.round goesOn)).2, by decide +kernel,
    bounded.2.2.2.2.1⟩

end Netlist

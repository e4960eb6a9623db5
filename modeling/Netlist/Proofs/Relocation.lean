import Netlist.Proofs.Layout
import Netlist.Proofs.SourceOrder

/-!
# Reading from the middle of a text

A reader that begins in the middle of a text answers as one that is given the
remaining text alone.  Only the positions differ.  Those of the remaining text
are counted from its own beginning, and have to be *relocated* to the place at
which it begins (`Position.relocate`): all of them move by its bytes and lines,
and those on the first line by its columns as well.

Relocation follows a position over every character (`Position.relocate_after`),
so the items of the reader in the middle are the relocated items of the other
one (`Reader.ofCursor_eq_move`).  From there on the function by which positions
change no longer matters.  A step does the same with a moved item, so both
readings cause the same statements and moved errors, and leave moved items
(`Phase.Alike.parse`, `Phase.Alike.rest_check`).  A question to the moved reader
therefore has the moved answer and leads to the moved reader
(`Reader.parse_move`, `Reader.check_move`), and so do all questions, one after
the other (`Reader.replies_move`).
-/

namespace Netlist

/-! ## Positions -/

/-- A position of a text that begins at the origin, counted from where the origin is counted
from. -/
def Position.relocate (origin p : Position) : Position where
  offset := p.offset + origin.offset
  line := p.line + origin.line - 1
  column := if p.line = 1 then p.column + origin.column - 1 else p.column

@[simp] theorem Position.relocate_start (origin : Position) : origin.relocate start = origin := by
  simp [relocate, start, Nat.add_comm 1]

theorem Position.relocate_advance (origin : Position) {p : Position} (line : 1 ≤ p.line)
    (column : 1 ≤ p.column) (c : Char) :
    origin.relocate (p.advance c) = (origin.relocate p).advance c := by
  by_cases feed : c = '\n'
  · have later : p.line ≠ 0 := by omega
    simp only [relocate, advance, feed, if_true, Position.mk.injEq]
    refine ⟨by omega, by omega, ?_⟩
    simp [later]
  · simp only [relocate, advance, feed, if_false, Position.mk.injEq]
    refine ⟨by omega, trivial, ?_⟩
    split <;> omega

/-- Relocation follows a position through a text. -/
theorem Position.relocate_after (origin : Position) {p : Position} (line : 1 ≤ p.line)
    (column : 1 ≤ p.column) (text : List Char) :
    origin.relocate (p.after text) = (origin.relocate p).after text := by
  induction text generalizing p with
  | nil => rfl
  | cons c more ih =>
    have lines : 1 ≤ (p.advance c).line := by
      simp only [advance]
      split <;> omega
    have columns : 1 ≤ (p.advance c).column := by
      simp only [advance]
      split <;> omega
    rw [after_cons, after_cons, ih lines columns, relocate_advance origin line column]

/-! ## Readings of moved items -/

namespace Phase

variable {first second : Phase}

theorem Alike.statements_step (alike : Alike first second) (f : Position → Position)
    (item : Item) :
    Event.statements (second.step (item.move f)).1 = Event.statements (first.step item).1 := by
  have fault (phase : Phase) (error : LexicalError) :
      Event.statements (phase.step (.fault error)).1 = [] := by
    rw [events_step_fault]
    rfl
  cases item with
  | fault error => rw [Item.move, fault, fault]
  | token token =>
    cases alike with
    | outside => simp [Item.move, Phase.step]
    | inside before behind place => simp [Item.move, Phase.step]
    | closed before behind statement => simp [Item.move, Phase.step, Event.statement?]
    | lost before behind =>
      simp only [Item.move, Phase.step, search]
      split <;> rfl

theorem parse_cons_of_errors_ne_nil {phase : Phase} {item : Item}
    (wrong : Event.errors (phase.step item).1 ≠ []) {stop : Position} {rest : List Item} :
    phase.parse stop (item :: rest) = ⟨(phase.step item).1, item :: rest⟩ := by
  rw [Phase.parse, if_neg wrong]

/-- A parse of moved items reads the same statements, finds the moved error and leaves the moved
items. -/
theorem Alike.parse (alike : Alike first second) (f : Position → Position) (stop : Position)
    (items : List Item) :
    Event.errors (second.parse (f stop) (items.map (.move f))).events =
        (Event.errors (first.parse stop items).events).map (.move f) ∧
      Event.statements (second.parse (f stop) (items.map (.move f))).events =
        Event.statements (first.parse stop items).events ∧
      (second.parse (f stop) (items.map (.move f))).rest =
        (first.parse stop items).rest.map (.move f) := by
  induction items generalizing first second with
  | nil =>
    refine ⟨alike.finish f stop, ?_, rfl⟩
    cases alike <;> rfl
  | cons item rest ih =>
    obtain ⟨errors, onward⟩ := alike.step f item
    have statements := alike.statements_step f item
    obtain ⟨laterErrors, laterStatements, left⟩ := ih onward
    rw [List.map_cons]
    by_cases fine : Event.errors (first.step item).1 = []
    · have still : Event.errors (second.step (item.move f)).1 = [] := by rw [errors, fine]; rfl
      simp [Phase.parse, fine, still, statements, laterErrors, laterStatements, left]
    · have still : Event.errors (second.step (item.move f)).1 ≠ [] := by
        rwa [errors, ne_eq, List.map_eq_nil_iff]
      rw [parse_cons_of_errors_ne_nil fine, parse_cons_of_errors_ne_nil still]
      exact ⟨errors, statements, rfl⟩

/-- A check of moved items leaves the moved items. -/
theorem Alike.rest_check (alike : Alike first second) (f : Position → Position)
    (stop : Position) (room : Nat) (items : List Item) :
    (second.check (f stop) room (items.map (.move f))).rest =
      (first.check stop room items).rest.map (.move f) := by
  induction items generalizing first second room with
  | nil => rfl
  | cons item rest ih =>
    obtain ⟨errors, onward⟩ := alike.step f item
    simp only [List.map_cons, Phase.check, errors, List.length_map, Item.opens_move]
    split
    · rfl
    · exact ih onward _

end Phase

/-! ## Moved readers -/

namespace Reader

/-- A reader of the moved items. -/
def move (f : Position → Position) (reader : Reader) : Reader :=
  { reader with
    stop := f reader.stop
    spoiled := reader.spoiled.map f
    items := reader.items.map (.move f) }

variable {f : Position → Position} {reader : Reader}

theorem resume_move (f : Position → Position) (reader : Reader) (items : List Item) :
    (reader.move f).resume (items.map (.move f)) = (reader.resume items).move f := by
  match items with
  | [] => rfl
  | .token _ :: _ => rfl
  | .fault _ :: _ => rfl

theorem survey_move (f : Position → Position) (reader : Reader) :
    (reader.move f).survey = reader.survey.map (.move f) := by
  obtain ⟨config, stop, spoiled, items⟩ := reader
  cases spoiled with
  | some position =>
    have lost := Phase.errors_survey_move (.lost position (f position)) f stop items
    exact congrArg (stuck (f position) :: ·) lost
  | none => exact Phase.errors_survey_move .outside f stop items

theorem beginsWithFault_move (f : Position → Position) (reader : Reader) :
    (reader.move f).beginsWithFault = reader.beginsWithFault := by
  unfold beginsWithFault move
  match reader.items with
  | [] => rfl
  | .token _ :: _ => rfl
  | .fault _ :: _ => rfl

/-- A moved reader answers with the same definition or the moved error, and goes on as the moved
reader. -/
theorem parse_move (f : Position → Position) (reader : Reader) :
    (reader.move f).parse.value = reader.parse.value.mapError (.move f) ∧
      (reader.move f).parse.reader = reader.parse.reader.move f := by
  cases spoiled : reader.spoiled with
  | some position =>
    have moved : (reader.move f).spoiled = some (f position) := by simp [move, spoiled]
    unfold Reader.parse
    rw [spoiled, moved]
    exact ⟨rfl, rfl⟩
  | none =>
    have moved : (reader.move f).spoiled = none := by simp [move, spoiled]
    obtain ⟨errors, statements, left⟩ :=
      Phase.Alike.parse .outside f reader.stop reader.items
    refine ⟨?_, ?_⟩
    · unfold Reader.parse
      rw [spoiled, moved]
      simp only [move, errors, statements]
      cases Event.errors (Phase.outside.parse reader.stop reader.items).events <;> rfl
    · rw [reader_parse spoiled, reader_parse moved, ← resume_move, ← left]
      rfl

/-- A moved reader answers with the moved errors, and goes on as the moved reader. -/
theorem check_move (f : Position → Position) (reader : Reader) :
    (reader.move f).check.value = reader.check.value.map (.move f) ∧
      (reader.move f).check.reader = reader.check.reader.move f := by
  refine ⟨?_, ?_⟩
  · rw [value_check, value_check, survey_move, List.map_take]
    rfl
  · show (reader.move f).checkEvents.2 = reader.checkEvents.2.move f
    cases spoiled : reader.spoiled with
    | some position =>
      have moved : (reader.move f).spoiled = some (f position) := by simp [move, spoiled]
      have left := Phase.Alike.rest_check (.lost position (f position)) f reader.stop
        (reader.config.maxErrors - 1) reader.items
      unfold checkEvents
      rw [spoiled, moved]
      by_cases full : reader.config.maxErrors = 0
      · simp [move, full]
      · simp only [move, full, if_false, left]
        exact resume_move f reader _
    | none =>
      have moved : (reader.move f).spoiled = none := by simp [move, spoiled]
      have left := Phase.Alike.rest_check .outside f reader.stop reader.config.maxErrors
        reader.items
      unfold checkEvents
      rw [spoiled, moved, beginsWithFault_move]
      by_cases full : reader.config.maxErrors = 0 ∧ ¬reader.beginsWithFault
      · simp [move, full]
      · simp only [move, full, if_false, left]
        exact resume_move f reader _

end Reader

/-! ## Several questions -/

/-- What a reader is asked for. -/
inductive Question
  /-- The definition. -/
  | definition
  /-- The errors. -/
  | errors

/-- What a reader answers. -/
inductive Reply
  /-- The definition, or the first error. -/
  | definition (value : Except Diagnostic Definition)
  /-- The errors. -/
  | errors (list : List Diagnostic)

/-- An answer with its errors at other positions. -/
def Reply.move (f : Position → Position) : Reply → Reply
  | definition value => definition (value.mapError (.move f))
  | errors list => errors (list.map (.move f))

namespace Reader

/-- The answers to questions that are asked one after the other. -/
def replies : Reader → List Question → List Reply
  | _, [] => []
  | reader, .definition :: later =>
    .definition reader.parse.value :: reader.parse.reader.replies later
  | reader, .errors :: later => .errors reader.check.value :: reader.check.reader.replies later

/-- A moved reader gives the moved answers. -/
theorem replies_move (f : Position → Position) (reader : Reader) (questions : List Question) :
    (reader.move f).replies questions = (reader.replies questions).map (.move f) := by
  induction questions generalizing reader with
  | nil => rfl
  | cons question later ih =>
    cases question with
    | definition =>
      obtain ⟨value, next⟩ := parse_move f reader
      rw [replies, replies, value, next, ih]
      rfl
    | errors =>
      obtain ⟨value, next⟩ := check_move f reader
      rw [replies, replies, value, next, ih]
      rfl

/-- A reader in the middle of a text is one for the remaining text, relocated. -/
theorem ofCursor_eq_move (config : Config) (cursor : Cursor) :
    ofCursor config cursor =
      (ofText config (.ofList cursor.rest)).move cursor.position.relocate := by
  obtain ⟨origin, rest⟩ := cursor
  have follows (text : List Char) :
      origin.relocate (Position.start.after text) = (origin.relocate .start).after text :=
    origin.relocate_after (Nat.le_refl 1) (Nat.le_refl 1) text
  have items := Item.ofLexemes_move follows (Lexeme.lexemes config.comments rest)
  have stop := follows rest
  rw [Position.relocate_start] at items stop
  have start : Cursor.ofText (.ofList rest) = ⟨.start, rest⟩ := by
    rw [Cursor.ofText, String.toList_ofList]
  rw [ofText, start]
  simp only [ofCursor, move, Cursor.stop, Cursor.items, items, stop, Option.map_none]

end Reader

/-- A reader that begins in the middle of a text answers as one for the remaining text.  Behind any
number of items, each read with comments or without, the text splits at the place of the cursor, and
all questions to the two readers have the same answers, but for the place to which positions are
relocated. -/
theorem replies_from_middle (text : String) (settings : List Bool) (config : Config)
    (questions : List Question) :
    let cursor := (Cursor.ofText text).skipEach settings
    ∃ before rest : String, text = before ++ rest ∧
      before.utf8ByteSize = cursor.position.offset ∧
      (Reader.ofCursor config cursor).replies questions =
        ((Reader.ofText config rest).replies questions).map (.move cursor.position.relocate) := by
  intro cursor
  obtain ⟨before, split, position⟩ := (Cursor.liesIn_ofText text).skipEach settings
  refine ⟨.ofList before, .ofList cursor.rest, ?_, ?_, ?_⟩
  · rw [← String.ofList_append, ← split, String.ofList_toList]
  · show _ = ((Cursor.ofText text).skipEach settings).position.offset
    rw [position, Position.offset_after]
    exact (Nat.zero_add _).symm
  · rw [Reader.ofCursor_eq_move, Reader.replies_move]

/-- Two questions to a reader behind the first statement of a text.  Errors on the remaining part of
the line are relocated by its columns as well, the one on the next line only by bytes. -/
theorem replies_from_middle_of_line :
    let text := "(MONITOR a) é(MONITOR to\n(MONITOR b"
    let cursor := (Cursor.ofText text).skipEach [true, true, true, true]
    let questions : List Question := [.definition, .errors]
    cursor.position = ⟨11, 1, 12⟩ ∧
      (Reader.ofText .default " é(MONITOR to\n(MONITOR b").replies questions =
        [.definition (.error (.lexical ⟨.strayCharacter 'é', "é", ⟨1, 1, 2⟩⟩)),
          .errors [.misplaced ⟨1, 1, 2⟩ "" (.expected "'('"),
            .misplaced ⟨12, 1, 12⟩ "to" (.expected "a device name"),
            .misplaced ⟨25, 2, 11⟩ "" .unterminated]] ∧
      (Reader.ofCursor .default cursor).replies questions =
        [.definition (.error (.lexical ⟨.strayCharacter 'é', "é", ⟨12, 1, 13⟩⟩)),
          .errors [.misplaced ⟨12, 1, 13⟩ "" (.expected "'('"),
            .misplaced ⟨23, 1, 23⟩ "to" (.expected "a device name"),
            .misplaced ⟨36, 2, 11⟩ "" .unterminated]] := by
  intro text cursor questions
  have position : cursor.position = ⟨11, 1, 12⟩ := by decide +kernel
  have alone : (Reader.ofText .default " é(MONITOR to\n(MONITOR b").replies questions =
      [.definition (.error (.lexical ⟨.strayCharacter 'é', "é", ⟨1, 1, 2⟩⟩)),
        .errors [.misplaced ⟨1, 1, 2⟩ "" (.expected "'('"),
          .misplaced ⟨12, 1, 12⟩ "to" (.expected "a device name"),
          .misplaced ⟨25, 2, 11⟩ "" .unterminated]] := by
    have first : (Reader.ofText .default " é(MONITOR to\n(MONITOR b").parse.value =
        .error (.lexical ⟨.strayCharacter 'é', "é", ⟨1, 1, 2⟩⟩) :=
      parse_eq_error_iff.2 (by decide +kernel)
    have second : (Reader.ofText .default " é(MONITOR to\n(MONITOR b").parse.reader.check.value =
        [.misplaced ⟨1, 1, 2⟩ "" (.expected "'('"),
          .misplaced ⟨12, 1, 12⟩ "to" (.expected "a device name"),
          .misplaced ⟨25, 2, 11⟩ "" .unterminated] := by decide +kernel
    rw [Reader.replies, Reader.replies, Reader.replies, first, second]
  obtain ⟨before, rest, split, size, moved⟩ :=
    replies_from_middle text [true, true, true, true] .default questions
  have parts : before.toList ++ rest.toList =
      "(MONITOR a)".toList ++ " é(MONITOR to\n(MONITOR b".toList := by
    rw [← String.toList_append, ← split]
    decide +kernel
  have behind : rest = " é(MONITOR to\n(MONITOR b" := by
    refine String.toList_inj.1 (append_inj_of_utf8ByteSize parts ?_).2
    rw [String.ofList_toList, String.ofList_toList, size, position]
    decide +kernel
  refine ⟨position, alone, ?_⟩
  rw [moved, position, behind, alone]
  rfl

end Netlist

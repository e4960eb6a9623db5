import Netlist.Proofs.Exactness
import Netlist.Proofs.Quotation

/-!
# Errors come in the order of the text

A check reports the errors of a text from its beginning to its end and none of
them twice, and so does every later check by the same reader, wherever the
earlier questions have left it.

A reader *ascends* if its items do and the place at which it was stopped lies
before all of them (`Reader.Ascends`).  A new reader ascends, and so do the
readers that go on behind some of its items.  Without a limit a reader would
report its *survey* (`Reader.value_check`): first the place at which it was
stopped, then the errors of the items to come.  These stand at the items or at
the end of the text, so the survey of a reader that ascends does too
(`Reader.Ascends.survey`).

This orders the offsets.  Lines and columns follow, because all positions are
exact: of two beginnings of a text the longer one has more lines, or as many
lines and more characters on the last (`Position.IsExact.precedes`).
-/

namespace Netlist

/-! ## Positions -/

/-- A position comes before another one of a text. -/
structure Position.Precedes (p q : Position) : Prop where
  /-- It has fewer bytes before it. -/
  offset : p.offset < q.offset
  /-- It is on an earlier line, or further to the left on the same one. -/
  place : p.line < q.line ∨ p.line = q.line ∧ p.column < q.column

theorem Position.IsExact.precedes {text : String} {p q : Position} (first : p.IsExact text)
    (second : q.IsExact text) (less : p.offset < q.offset) : p.Precedes q := by
  obtain ⟨front, back, whole, offset, line, column⟩ := first
  obtain ⟨front', back', whole', offset', line', column'⟩ := second
  have lists : front.toList ++ back.toList = front'.toList ++ back'.toList := by
    rw [← String.toList_append, ← String.toList_append, ← whole, whole']
  rcases List.append_eq_append_iff.1 lists with ⟨between, longer, -⟩ | ⟨between, shorter, -⟩
  · refine ⟨less, ?_⟩
    rw [line, line', column, column', longer, List.count_append]
    by_cases feed : '\n' ∈ between
    · left
      have some := List.count_pos_iff.2 feed
      omega
    · right
      have onLine : ∀ c ∈ between.reverse, decide (c ≠ '\n') = true := by
        intro c among
        rw [decide_eq_true_iff]
        rintro rfl
        exact feed (List.mem_reverse.1 among)
      have some : between ≠ [] := by
        rintro rfl
        rw [List.append_nil, String.toList_inj] at longer
        rw [offset, offset', longer] at less
        exact Nat.lt_irrefl _ less
      have long := List.length_pos_iff.2 some
      rw [List.count_eq_zero_of_not_mem feed, List.reverse_append,
        List.takeWhile_append_of_pos onLine, List.length_append, List.length_reverse]
      omega
  · have same : front = front' ++ .ofList between := by
      rw [← String.toList_inj, shorter, String.toList_append, String.toList_ofList]
    rw [offset, offset', same, String.utf8ByteSize_append] at less
    omega

/-! ## Readers -/

theorem Item.Ascending.suffix {stop : Position} {items all : List Item}
    (ascending : Ascending stop all) (suffix : items <:+ all) : Ascending stop items :=
  ⟨ascending.1.sublist suffix.sublist, fun item among => ascending.2 item (suffix.subset among)⟩

namespace Reader

variable {reader : Reader}

/-- All errors that a reader comes to, however many there are. -/
def survey (reader : Reader) : List Diagnostic :=
  match reader.spoiled with
  | some position =>
    stuck position :: Event.errors ((Phase.lost position).survey reader.stop reader.items)
  | none => Event.errors (Phase.outside.survey reader.stop reader.items)

theorem config_resume (reader : Reader) (items : List Item) :
    (reader.resume items).config = reader.config := by
  unfold Reader.resume
  split <;> rfl

/-- A check by any reader reports the first errors of its survey, as many as its limit allows. -/
theorem value_check (reader : Reader) :
    reader.check.value = reader.survey.take reader.config.maxErrors := by
  show (Event.errors reader.checkEvents.1).take _ = _
  unfold checkEvents survey
  rcases Nat.eq_zero_or_pos reader.config.maxErrors with none | some
  · rw [none, List.take_zero, List.take_zero]
  · obtain ⟨room, limit⟩ : ∃ room, reader.config.maxErrors = room + 1 :=
      ⟨reader.config.maxErrors - 1, by omega⟩
    cases reader.spoiled with
    | some position =>
      simp [limit, Event.error?, Phase.take_errors_check]
    | none =>
      simp [limit, Phase.take_errors_check]

/-- A reader that was not stopped goes on behind what a parse has used. -/
theorem reader_parse (fresh : reader.spoiled = none) :
    reader.parse.reader =
      reader.resume (Phase.parse reader.stop .outside reader.items).rest := by
  unfold Reader.parse
  rw [fresh]
  simp only
  split <;> rfl

/-- The reader stands before its items, and they ascend up to the end of the text. -/
structure Ascends (reader : Reader) : Prop where
  /-- The items to come ascend. -/
  items : Item.Ascending reader.stop reader.items
  /-- The place at which the reader was stopped comes before the items and the end. -/
  spoiled : ∀ position ∈ reader.spoiled, position.offset < reader.stop.offset ∧
    ∀ item ∈ reader.items, position.offset < item.position.offset

theorem ascends_ofCursor (config : Config) (cursor : Cursor) :
    (ofCursor config cursor).Ascends where
  items := by
    have taken : ∀ lexeme ∈ Lexeme.lexemes config.comments cursor.rest, lexeme.text ≠ [] :=
      fun _ among => Lexeme.text_ne_nil_of_mem_lexemes among
    have ascending := Item.ascending_ofLexemes cursor.position taken
    rwa [Lexeme.flatMap_text_lexemes] at ascending
  spoiled := nofun

/-- A reader that goes on behind some of its items ascends. -/
theorem Ascends.resume (ascends : reader.Ascends) {items : List Item}
    (suffix : items <:+ reader.items) : (reader.resume items).Ascends := by
  have ascending := ascends.items.suffix suffix
  unfold Reader.resume
  split
  · rename_i fault rest
    refine ⟨ascending.tail, fun position same => ?_⟩
    cases same
    exact ⟨ascending.2 (.fault fault) (.head _), (List.pairwise_cons.1 ascending.1).1⟩
  · exact ⟨ascending, nofun⟩

theorem Ascends.survey (ascends : reader.Ascends) :
    reader.survey.Pairwise fun earlier later =>
      earlier.position.offset < later.position.offset := by
  unfold Reader.survey
  split
  · rename_i position spoiled
    obtain ⟨beforeStop, beforeItems⟩ := ascends.spoiled position spoiled
    refine List.pairwise_cons.2 ⟨fun later found => ?_,
      Phase.ascending_errors_survey _ ascends.items⟩
    show position.offset < later.position.offset
    rcases Phase.position_of_mem_errors_survey found with ends | ⟨item, among, stands⟩
    · rw [ends]
      exact beforeStop
    · rw [stands]
      exact beforeItems item among
  · exact Phase.ascending_errors_survey _ ascends.items

end Reader

/-- A check reports errors in the order of the text and none of them twice, whoever is asked: any
reader to which questions lead from one that begins behind any number of items, whether comments
were layout for each of them or not. -/
theorem check_in_source_order (text : String) (settings : List Bool) (config : Config)
    (reader : Reader)
    (leads : (Reader.ofCursor config ((Cursor.ofText text).skipEach settings)).Leads reader) :
    reader.check.value.Pairwise fun earlier later =>
      earlier.position.Precedes later.position := by
  have ascends := leads.keeps (fun above suffix => above.resume suffix)
    (Reader.ascends_ofCursor config _)
  have holds := leads.holds (((Cursor.liesIn_ofText text).skipEach settings).holds config)
  have ascending : reader.check.value.Pairwise fun earlier later =>
      earlier.position.offset < later.position.offset := by
    rw [Reader.value_check]
    exact ascends.survey.sublist (List.take_sublist ..)
  refine ascending.imp_of_mem fun earlier later less => ?_
  exact (holds.position_of_check earlier).precedes (holds.position_of_check later) less

/-- Behind the first item a reader is stopped by a stray character, and is asked again.  It reports
the place where it stands, two more faults on the same line and on the next, and the end. -/
theorem check_in_source_order_of_stopped_reader :
    let text := "a\n%é\n07(DEVICE"
    let first := Reader.ofCursor .default ((Cursor.ofText text).skipEach [true])
    first.Leads first.parse.reader ∧
      first.parse.reader.check.value =
        [Reader.stuck ⟨2, 2, 1⟩, .lexical ⟨.strayCharacter 'é', "é", ⟨3, 2, 2⟩⟩,
          .lexical ⟨.leadingZero, "07", ⟨6, 3, 1⟩⟩, .misplaced ⟨15, 3, 10⟩ "" .unterminated] ∧
      first.parse.reader.check.value.Pairwise fun earlier later =>
        earlier.position.Precedes later.position := by
  intro text first
  have leads : first.Leads first.parse.reader := .parse .refl
  exact ⟨leads, by decide +kernel, check_in_source_order text [true] .default _ leads⟩

end Netlist

import Netlist.Proofs.Agreement
import Netlist.Proofs.Succession

/-!
# Checks without a limit

The limit on errors stands in the way of every statement about a check: it
decides where the reading stops.  A *survey* is a check without a limit.  Each
item has its errors on it, so it splits where its items do
(`Phase.errors_survey_append`), and it has at most one error more than items
(`Phase.length_errors_survey_le`).

A check is a survey that is cut off.  Its record begins as the record of the
survey does, and it stops early only when there are enough errors on it
(`Phase.events_check_eq_survey`).  So what is reported for a text are the first
errors of its survey, as many as the limit allows (`check_eq_take_survey`), and
all of them if the limit is above the size of the text
(`check_eq_survey_of_lt`).  A lower limit only cuts off more of them
(`check_eq_take_check`).

The first use is about text that is no token.  Every fault is an error of its
own, in whatever phase it is met, and no token causes a lexical error.  So the
lexical errors of a survey are the faults of the text
(`Phase.lexical_survey`), and those of a check that stays below its limit are
as well (`lexical_check_eq_faults`).
-/

namespace Netlist

namespace Phase

/-- The record of a check that has no limit on errors. -/
def survey (stop : Position) (phase : Phase) : List Item → List Event
  | [] => phase.finish stop
  | item :: rest =>
    (phase.step item).1 ++ Item.reading rest ++ (phase.step item).2.survey stop rest

/-- The phase behind some items. -/
def after (phase : Phase) (items : List Item) : Phase :=
  items.foldl (fun phase item => (phase.step item).2) phase

/-- The errors that some items cause, whatever stands behind them. -/
def errorsOver (phase : Phase) : List Item → List Diagnostic
  | [] => []
  | item :: rest => Event.errors (phase.step item).1 ++ (phase.step item).2.errorsOver rest

variable {stop : Position} {phase : Phase} {room : Nat}

@[simp] theorem survey_nil : phase.survey stop [] = phase.finish stop := rfl

@[simp] theorem errors_survey_cons (item : Item) (rest : List Item) :
    Event.errors (phase.survey stop (item :: rest)) =
      Event.errors (phase.step item).1 ++ Event.errors ((phase.step item).2.survey stop rest) := by
  simp [survey]

@[simp] theorem after_nil : phase.after [] = phase := rfl

@[simp] theorem after_cons (item : Item) (rest : List Item) :
    phase.after (item :: rest) = (phase.step item).2.after rest := rfl

theorem errors_survey_append (stop : Position) (phase : Phase) (before behind : List Item) :
    Event.errors (phase.survey stop (before ++ behind)) =
      phase.errorsOver before ++ Event.errors ((phase.after before).survey stop behind) := by
  induction before generalizing phase with
  | nil => rfl
  | cons item rest ih =>
    rw [List.cons_append, errors_survey_cons, ih, errorsOver, after_cons, List.append_assoc]

/-- Every error of a survey is caused by what comes next behind some of the items. -/
theorem exists_react_of_mem_survey {items : List Item} {error : Diagnostic}
    (found : error ∈ Event.errors (phase.survey stop items)) :
    ∃ front behind, items = front ++ behind ∧
      error ∈ Event.errors ((phase.after front).react stop behind) := by
  induction items generalizing phase with
  | nil => exact ⟨[], [], rfl, found⟩
  | cons item rest ih =>
    rw [errors_survey_cons, List.mem_append] at found
    rcases found with here | later
    · exact ⟨[], item :: rest, rfl, here⟩
    · obtain ⟨front, behind, rfl, causes⟩ := ih later
      exact ⟨item :: front, behind, rfl, causes⟩

theorem length_errors_finish_le : (Event.errors (phase.finish stop)).length ≤ 1 := by
  cases phase <;> simp [finish, Event.error?]

theorem length_errors_survey_le (stop : Position) (phase : Phase) (items : List Item) :
    (Event.errors (phase.survey stop items)).length ≤ items.length + 1 := by
  induction items generalizing phase with
  | nil => exact length_errors_finish_le
  | cons item rest ih =>
    have first := length_errors_step_le phase item
    have later := ih (phase.step item).2
    rw [errors_survey_cons, List.length_append, List.length_cons]
    omega

/-! ## The limit -/

theorem events_check_prefix_survey (stop : Position) (phase : Phase) (room : Nat)
    (items : List Item) :
    (phase.check stop room items).events <+: phase.survey stop items := by
  induction items generalizing phase room with
  | nil => exact List.prefix_rfl
  | cons item rest ih =>
    simp only [check, survey]
    split
    · rw [List.append_assoc]
      exact List.prefix_append ..
    · exact (List.prefix_append_right_inj _).2 (ih _ _)

/-- A check finds nothing that the survey does not. -/
theorem mem_survey_of_mem_check {items : List Item} {error : Diagnostic}
    (found : error ∈ Event.errors (phase.check stop room items).events) :
    error ∈ Event.errors (phase.survey stop items) := by
  obtain ⟨beyond, record⟩ := events_check_prefix_survey stop phase room items
  rw [← record, Event.errors_append]
  exact List.mem_append_left _ found

/-- A check that has not found as many errors as it may has not stopped early. -/
theorem events_check_eq_survey {items : List Item}
    (spare : (Event.errors (phase.check stop room items).events).length < room) :
    (phase.check stop room items).events = phase.survey stop items := by
  induction items generalizing phase room with
  | nil => rfl
  | cons item rest ih =>
    by_cases full : item.opens ∧ room - (Event.errors (phase.step item).1).length = 0
    -- To stop here it takes as many errors as there is room for.
    · have stops : (phase.check stop room (item :: rest)).events = (phase.step item).1 := by
        rw [check, if_pos full]
      rw [stops] at spare
      omega
    · have onward : (phase.check stop room (item :: rest)).events =
          (phase.step item).1 ++ Item.reading rest ++ ((phase.step item).2.check stop
            (room - (Event.errors (phase.step item).1).length) rest).events := by
        rw [check, if_neg full]
      rw [onward, Event.errors_append, Event.errors_append, Item.errors_reading,
        List.append_nil, List.length_append] at spare
      rw [onward, survey, ih (by omega)]

/-- Up to the limit a check finds the errors of the survey. -/
theorem take_errors_check (items : List Item) :
    (Event.errors (phase.check stop room items).events).take room =
      (Event.errors (phase.survey stop items)).take room := by
  rcases Nat.lt_or_ge (Event.errors (phase.check stop room items).events).length room with
    spare | full
  · rw [events_check_eq_survey spare]
  · obtain ⟨beyond, record⟩ := events_check_prefix_survey stop phase room items
    rw [← record, Event.errors_append, List.take_append_of_le_length full]

/-- A parse stops at the first error of the survey. -/
theorem head?_errors_parse (stop : Position) (phase : Phase) (items : List Item) :
    (Event.errors (phase.parse stop items).events).head? =
      (Event.errors (phase.survey stop items)).head? := by
  induction items generalizing phase with
  | nil => rfl
  | cons item rest ih =>
    rw [errors_survey_cons]
    cases found : Event.errors (phase.step item).1 with
    | nil => simpa [parse, found] using ih (phase.step item).2
    | cons error others => simp [parse, found]

end Phase

/-- All errors in a text, however many there are. -/
def survey (comments : Bool) (text : String) : List Diagnostic :=
  Event.errors (Phase.survey (Cursor.ofText text).stop .outside
    ((Cursor.ofText text).items comments))

variable {config : Config} {text : String}

/-- A check reports the first errors of the survey, as many as its limit allows. -/
theorem check_eq_take_survey (config : Config) (text : String) :
    check config text = (survey config.comments text).take config.maxErrors := by
  rcases Nat.eq_zero_or_pos config.maxErrors with none | some
  · simp [check, Reader.check, Reader.ofText, Reader.ofCursor, none]
  · rw [check_eq_take some]
    exact Phase.take_errors_check _

/-- A check that reports fewer errors than it may reports all. -/
theorem check_eq_survey (spare : (check config text).length < config.maxErrors) :
    check config text = survey config.comments text := by
  rw [check_eq_take_survey, List.length_take] at spare
  rw [check_eq_take_survey, List.take_of_length_le (by omega)]

theorem length_survey_le (comments : Bool) (text : String) :
    (survey comments text).length ≤ text.utf8ByteSize + 1 := by
  have errors := Phase.length_errors_survey_le (Cursor.ofText text).stop .outside
    ((Cursor.ofText text).items comments)
  have items := Cursor.length_items_le comments text
  unfold survey
  omega

/-- A limit above the size of the text is never reached. -/
theorem check_eq_survey_of_lt (config : Config) (text : String)
    (room : text.utf8ByteSize < config.maxErrors) :
    check config text = survey config.comments text := by
  have errors := length_survey_le config.comments text
  rw [check_eq_take_survey, List.take_of_length_le (by omega)]

/-- A check with a lower limit reports the beginning of what it reports with a higher one. -/
theorem check_eq_take_check (comments : Bool) (text : String) {lower upper : Nat}
    (le : lower ≤ upper) :
    check ⟨comments, lower⟩ text = (check ⟨comments, upper⟩ text).take lower := by
  rw [check_eq_take_survey, check_eq_take_survey, List.take_take, Nat.min_eq_left le]

/-- The lower limit is reached while the reader is lost, and two more errors are found before the
next statement. -/
theorem check_eq_take_check_while_lost :
    2 ≤ 5 ∧ (check ⟨true, 5⟩ "(CONNECT , é 00 % (").length = 5 ∧
      check ⟨true, 2⟩ "(CONNECT , é 00 % (" = (check ⟨true, 5⟩ "(CONNECT , é 00 % (").take 2 := by
  have full : (check ⟨true, 5⟩ "(CONNECT , é 00 % (").length = 5 := by decide +kernel
  exact ⟨by decide, full, check_eq_take_check _ _ (by decide)⟩

/-- What a parse answers as an error is the first error of the survey. -/
theorem parse_eq_error_iff_survey {error : Diagnostic} :
    parse config text = .error error ↔ (survey config.comments text).head? = some error := by
  rw [parse_eq_error_iff, parseEvents, Phase.head?_errors_parse]
  rfl

/-- What a reading of a text reports is in its survey. -/
theorem mem_survey_of_reported {error : Diagnostic}
    (reported : parse config text = .error error ∨ error ∈ check config text) :
    error ∈ survey config.comments text := by
  rcases reported with rejected | listed
  · exact List.mem_of_head? (parse_eq_error_iff_survey.1 rejected)
  · rw [check_eq_take_survey] at listed
    exact List.mem_of_mem_take listed

/-! ## Lexical errors -/

/-- A diagnostic as a lexical error. -/
def Diagnostic.lexical? : Diagnostic → Option LexicalError
  | lexical error => some error
  | syntactic _ => none

/-- An item as text that is no token. -/
def Item.fault? : Item → Option LexicalError
  | token _ => none
  | fault error => some error

namespace Phase

/-- A step causes a lexical error exactly if its item is one. -/
theorem lexical_step (phase : Phase) (item : Item) :
    (Event.errors (phase.step item).1).filterMap Diagnostic.lexical? = item.fault?.toList := by
  cases item with
  | fault error =>
    rw [events_step_fault]
    rfl
  | token token =>
    refine List.filterMap_eq_nil_iff.2 fun error found => ?_
    obtain ⟨cause, rfl⟩ := eq_misplaced_of_mem_errors_step found
    rfl

/-- The lexical errors of a survey are the faults among its items. -/
theorem lexical_survey (stop : Position) (phase : Phase) (items : List Item) :
    (Event.errors (phase.survey stop items)).filterMap Diagnostic.lexical? =
      items.filterMap Item.fault? := by
  induction items generalizing phase with
  | nil => cases phase <;> rfl
  | cons item rest ih =>
    rw [errors_survey_cons, List.filterMap_append, ih, lexical_step]
    cases item <;> rfl

end Phase

theorem lexical_survey_eq_faults (comments : Bool) (text : String) :
    (survey comments text).filterMap Diagnostic.lexical? =
      ((Cursor.ofText text).items comments).filterMap Item.fault? :=
  Phase.lexical_survey ..

/-- A check that reports fewer errors than it may reports every piece of text that is no token,
each once and in order, and no other lexical error. -/
theorem lexical_check_eq_faults (config : Config) (text : String)
    (spare : (check config text).length < config.maxErrors) :
    ∃ items, (Cursor.ofText text).Yields config.comments items ∧
      (check config text).filterMap Diagnostic.lexical? = items.filterMap Item.fault? := by
  refine ⟨_, Cursor.yields_items _ _, ?_⟩
  rw [check_eq_survey spare, lexical_survey_eq_faults]

/-- Lexical errors before the first statement, inside of one, behind a syntax error and behind the
last statement. -/
theorem lexical_check_eq_faults_everywhere :
    (check .default "# (CONNECT 07) (MONITOR , 1a é) (MONITOR a) /*").length < 50 ∧
      ∃ items, (Cursor.ofText "# (CONNECT 07) (MONITOR , 1a é) (MONITOR a) /*").Yields true items ∧
        (check .default "# (CONNECT 07) (MONITOR , 1a é) (MONITOR a) /*").filterMap
          Diagnostic.lexical? = items.filterMap Item.fault? := by
  have spare : (check .default "# (CONNECT 07) (MONITOR , 1a é) (MONITOR a) /*").length < 50 := by
    decide +kernel
  exact ⟨spare, lexical_check_eq_faults _ _ spare⟩

end Netlist

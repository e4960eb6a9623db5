import Netlist.Proofs.Acceptance

/-!
# Checking agrees with parsing

A check goes on after errors, and a parse does not.  Up to the first error they
cannot be told apart: as long as there is room for an error, no step without
error takes room away, so the check does not stop before the parse does.  The
record of the parse is therefore the beginning of the record of the check
(`events_parse_prefix_check`), and all of it if there is no error
(`check_eq_parse`).

For whole texts this says that nothing is reported for a text that is accepted,
and that what is reported first for any other text is the error that a parse
answers.
-/

namespace Netlist

namespace Phase

variable {stop : Position} {phase : Phase} {room : Nat}

/-- A step without error takes no room away, so a check with room goes on behind it. -/
theorem check_cons_of_errors_eq_nil (positive : 0 < room) {item : Item} {rest : List Item}
    (fine : Event.errors (phase.step item).1 = []) :
    phase.check stop room (item :: rest) =
      ⟨(phase.step item).1 ++ Item.reading rest ++
          ((phase.step item).2.check stop room rest).events,
        ((phase.step item).2.check stop room rest).rest⟩ := by
  have goesOn : ¬(item.opens ∧ room = 0) := fun stops => by
    have := stops.2
    omega
  simp [check, fine, goesOn]

/-- A step with an error is the end of a parse, and the record of a check begins with it. -/
theorem events_step_prefix_check (stop : Position) (phase : Phase) (room : Nat) (item : Item)
    (rest : List Item) : (phase.step item).1 <+: (phase.check stop room (item :: rest)).events := by
  simp only [check]
  split
  · exact List.prefix_rfl
  · rw [List.append_assoc]
    exact List.prefix_append ..

/-- The record of a check with room begins with the record of a parse. -/
theorem events_parse_prefix_check (positive : 0 < room) (items : List Item) :
    (phase.parse stop items).events <+: (phase.check stop room items).events := by
  induction items generalizing phase with
  | nil => exact List.prefix_rfl
  | cons item rest ih =>
    by_cases fine : Event.errors (phase.step item).1 = []
    · rw [check_cons_of_errors_eq_nil positive fine]
      simp only [parse, fine, if_true]
      exact (List.prefix_append_right_inj _).2 ih
    · have ends : (phase.parse stop (item :: rest)).events = (phase.step item).1 := by
        simp [parse, fine]
      rw [ends]
      exact events_step_prefix_check stop phase room item rest

/-- Without errors a check with room is a parse. -/
theorem check_eq_parse (positive : 0 < room) {items : List Item}
    (fine : Event.errors (phase.parse stop items).events = []) :
    phase.check stop room items = phase.parse stop items := by
  induction items generalizing phase with
  | nil => rfl
  | cons item rest ih =>
    by_cases step : Event.errors (phase.step item).1 = []
    · have onward : Event.errors ((phase.step item).2.parse stop rest).events = [] := by
        simpa [parse, step] using fine
      rw [check_cons_of_errors_eq_nil positive step, ih onward]
      simp [parse, step]
    · simp [parse, step] at fine

end Phase

variable {config : Config} {text : String}

/-- What happens when a text is checked. -/
def checkEvents (config : Config) (text : String) : List Event :=
  (Phase.check (Cursor.ofText text).stop .outside config.maxErrors
    ((Cursor.ofText text).items config.comments)).events

/-- A limit that was set with `limitErrors` leaves room for an error. -/
theorem one_le_maxErrors_limitErrors (config : Config) (maxErrors : Nat) :
    1 ≤ (config.limitErrors maxErrors).maxErrors :=
  Nat.le_max_right ..

/-- If errors may be reported at all, a check reports the errors on its record up to the limit. -/
theorem check_eq_take (limit : 1 ≤ config.maxErrors) :
    check config text = (Event.errors (checkEvents config text)).take config.maxErrors := by
  have allowed : config.maxErrors ≠ 0 := by omega
  simp [check, Reader.check, Reader.checkEvents, Reader.ofText, Reader.ofCursor, checkEvents,
    allowed]

/-- Nothing is reported for a text that is accepted. -/
theorem check_eq_nil_of_parse_eq_ok (limit : 1 ≤ config.maxErrors) {definition : Definition}
    (accepted : parse config text = .ok definition) : check config text = [] := by
  have fine : Event.errors (parseEvents config text) = [] := (parse_eq_ok_iff_events.1 accepted).1
  have same : checkEvents config text = parseEvents config text :=
    congrArg Trail.events (Phase.check_eq_parse limit fine)
  rw [check_eq_take limit, same, fine, List.take_nil]

/-- The error that a parse answers is reported first. -/
theorem exists_check_eq_cons_of_parse_eq_error (limit : 1 ≤ config.maxErrors) {error : Diagnostic}
    (rejected : parse config text = .error error) :
    ∃ later, check config text = error :: later := by
  obtain ⟨others, found⟩ := List.head?_eq_some_iff.1 (parse_eq_error_iff.1 rejected)
  obtain ⟨beyond, record⟩ : parseEvents config text <+: checkEvents config text :=
    Phase.events_parse_prefix_check limit _
  obtain ⟨cap, room⟩ : ∃ cap, config.maxErrors = cap + 1 :=
    ⟨config.maxErrors - 1, by omega⟩
  refine ⟨(others ++ Event.errors beyond).take cap, ?_⟩
  rw [check_eq_take limit, ← record, Event.errors_append, found, room]
  rfl

/-- Checking and parsing agree: an accepted text has no errors, the error of any other text is the
first one reported, and so a text has no errors exactly if it is accepted. -/
theorem check_agrees_with_parse (config : Config) (text : String)
    (limit : 1 ≤ config.maxErrors) :
    (∀ definition, parse config text = .ok definition → check config text = []) ∧
      (∀ error, parse config text = .error error →
        ∃ later, check config text = error :: later) ∧
      (check config text = [] ↔ ∃ definition, parse config text = .ok definition) := by
  have accepted (definition) : parse config text = .ok definition → check config text = [] :=
    check_eq_nil_of_parse_eq_ok limit
  have rejected (error) : parse config text = .error error →
      ∃ later, check config text = error :: later :=
    exists_check_eq_cons_of_parse_eq_error limit
  refine ⟨accepted, rejected, fun nothing => ?_, fun ⟨definition, found⟩ => accepted _ found⟩
  cases answer : parse config text with
  | ok definition => exact ⟨definition, rfl⟩
  | error error =>
    obtain ⟨later, reported⟩ := rejected error answer
    rw [nothing] at reported
    cases reported

/-- After the missing statement of an empty pair of parentheses a check goes on and finds the
name of an unknown one. -/
theorem check_agrees_with_parse_two_errors :
    1 ≤ (Config.default.limitErrors 0).maxErrors ∧
      parse (Config.default.limitErrors 0) "() (PRINT)" =
        .error (.misplaced ⟨1, 1, 2⟩ ")" .unknownStatement) ∧
      ∃ later, check (Config.default.limitErrors 0) "() (PRINT)" =
        .misplaced ⟨1, 1, 2⟩ ")" .unknownStatement :: later := by
  have limit := one_le_maxErrors_limitErrors .default 0
  have rejected : parse (Config.default.limitErrors 0) "() (PRINT)" =
      .error (.misplaced ⟨1, 1, 2⟩ ")" .unknownStatement) :=
    parse_eq_error_iff.2 (by decide +kernel)
  exact ⟨limit, rejected, (check_agrees_with_parse _ _ limit).2.1 _ rejected⟩

end Netlist

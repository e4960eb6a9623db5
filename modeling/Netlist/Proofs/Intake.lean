import Netlist.Proofs.Advance
import Netlist.Proofs.Relocation

/-!
# Reading on demand

A reader holds all items of a text and walks along them.  An *intake* has only
the text.  It *draws* an item when it is done with the one before, and keeps a
list of what it was given, the end of the text included.  Here reading is
written as loops over such draws, each loop inside of the next: the tokens of a
statement, the statements of a definition, and for a check the search for the
next statement behind an error.

Nothing bounds these loops but the text.  A *turn* leads from one pass through
the body of a loop to the next one (`Intake.Turn`), and every turn draws
(`Intake.Turn.advances`): a statement that does not begin where the intake
stands draws nothing, but then the search behind it does, since there it is not
at an opening mark.  A draw makes less of what is left
(`Intake.remaining_draw_lt`), so the loops are recursions on that.

An intake that was given the end of the text draws no more.  All that the loops
do to it is to draw from where something was left (`Intake.Draws`), and so what
it was given and what is still to come are always the same list
(`Intake.Draws.drawn_append_ahead`).
-/

namespace Netlist

/-! ## Draws -/

/-- A reading that asks for the items of a text one at a time. -/
structure Intake where
  /-- How the text is read. -/
  config : Config
  /-- The place behind the item that the reading looks at. -/
  cursor : Cursor
  /-- The item that the reading looks at, or nothing at the end of the text. -/
  current : Option Item
  /-- An error at this item that is still to be reported. -/
  pending : Option LexicalError
  /-- All that was given so far. -/
  drawn : List (Option Item)

/-- A part of a reading. -/
structure Leg where
  /-- What happened. -/
  events : List Event
  /-- The intake behind it. -/
  behind : Intake

/-- A part of a reading behind some events. -/
def Leg.prepend (events : List Event) (leg : Leg) : Leg := ⟨events ++ leg.events, leg.behind⟩

@[simp] theorem Leg.events_prepend (events : List Event) (leg : Leg) :
    (leg.prepend events).events = events ++ leg.events := rfl

@[simp] theorem Leg.behind_prepend (events : List Event) (leg : Leg) :
    (leg.prepend events).behind = leg.behind := rfl

namespace Intake

/-- Asks for the next item. -/
def draw (intake : Intake) : Leg :=
  let next := intake.cursor.next intake.config.comments
  { events := Item.reading next.1.toList
    behind :=
      { intake with cursor := next.2, current := next.1, drawn := intake.drawn ++ [next.1] } }

@[simp] theorem drawn_draw (intake : Intake) :
    intake.draw.behind.drawn =
      intake.drawn ++ [(intake.cursor.next intake.config.comments).1] := rfl

/-- A bound for the draws that are still possible. -/
def remaining (intake : Intake) : Nat :=
  match intake.current with
  | none => 0
  | some _ => intake.cursor.rest.length + 1

/-- A draw takes something off the text, or finds its end. -/
theorem remaining_draw_lt {intake : Intake} (goesOn : intake.current ≠ none) :
    intake.draw.behind.remaining < intake.remaining := by
  obtain ⟨item, looks⟩ := Option.ne_none_iff_exists'.1 goesOn
  have whole : intake.remaining = intake.cursor.rest.length + 1 := by rw [remaining, looks]
  rw [whole]
  rcases next : intake.cursor.next intake.config.comments with ⟨_ | item, behind⟩
  · simp [draw, next, remaining]
  · have shorter := Cursor.length_next_lt next
    simpa [draw, next, remaining] using shorter

/-! ## Statements -/

/-- Reads a statement from a place on, up to its end or to an error. -/
def follow (line : Nat) (place : Place) (intake : Intake) : Leg :=
  match _ : intake.current with
  | some (.token t) =>
    match place.step t.symbol with
    | .go next => (follow line next intake.draw.behind).prepend intake.draw.events
    | .close statement =>
      -- The statement counts only if the item behind it is no fault.
      match intake.draw.behind.current with
      | some (.fault e) => ⟨[.error (.lexical e)], intake.draw.behind⟩
      | _ => ⟨intake.draw.events ++ [.statement line statement], intake.draw.behind⟩
    | .reject cause => ⟨[.error (.misplaced t.position t.text cause)], intake⟩
  | some (.fault e) => ⟨[.error (.lexical e)], intake⟩
  | none => ⟨[.error (.misplaced intake.cursor.position "" .unterminated)], intake⟩
termination_by intake.remaining
decreasing_by exact remaining_draw_lt (by simp [*])

/-- Reads a statement. -/
def statement (intake : Intake) : Leg :=
  match intake.current with
  | some (.token t) =>
    if t.symbol = .openParen then
      (follow t.position.line .opened intake.draw.behind).prepend intake.draw.events
    else
      ⟨[.error (.misplaced t.position t.text .expectedOpening)], intake⟩
  | some (.fault e) => ⟨[.error (Reader.stuck e.position)], intake⟩
  | none => ⟨[.error (.misplaced intake.cursor.position "" .unterminated)], intake⟩

/-! ## The search for the next statement -/

/-- The search for the next statement ends here. -/
def Halts (intake : Intake) : Prop := ∀ item ∈ intake.current, item.opens

instance : DecidablePred Halts := fun _ => inferInstanceAs (Decidable (∀ item ∈ _, _))

/-- The event of being given text that is no token. -/
def reporting : Option Item → List Event
  | some (.fault e) => [.error (.lexical e)]
  | _ => []

theorem halts_iff {intake : Intake} {item : Item} (looks : intake.current = some item) :
    intake.Halts ↔ item.opens := by
  simp [Halts, looks]

theorem ne_none_of_not_halts {intake : Intake} (goesOn : ¬intake.Halts) :
    intake.current ≠ none := by
  intro ends
  refine goesOn fun item looks => ?_
  rw [ends] at looks
  cases looks

/-- Draws up to an opening mark or to the end of the text. -/
def skip (intake : Intake) : Leg :=
  if _ : intake.Halts then
    ⟨[], intake⟩
  else
    (skip intake.draw.behind).prepend
      (intake.draw.events ++ reporting intake.draw.behind.current)
termination_by intake.remaining
decreasing_by exact remaining_draw_lt (ne_none_of_not_halts ‹_›)

/-- The place where an intake stands. -/
def position (intake : Intake) : Position :=
  match intake.current with
  | some item => item.position
  | none => intake.cursor.position

/-- Searches for the next statement, and tells if text was skipped. -/
def recover (intake : Intake) : Leg :=
  let skipped := intake.skip
  if skipped.behind.position = intake.position then
    skipped
  else
    ⟨skipped.events ++ [.skipped intake.position], skipped.behind⟩

/-- Reads a statement, and behind an error searches for the next one. -/
def round (intake : Intake) : Leg :=
  if Event.errors intake.statement.events = [] then
    intake.statement
  else
    intake.statement.behind.recover.prepend intake.statement.events

/-! ## What is drawn -/

/-- Draws lead from an intake to another, and none of them is behind the end of the text. -/
inductive Draws : Intake → Intake → Prop
  /-- Nothing is drawn. -/
  | refl (intake : Intake) : Draws intake intake
  /-- An item or the end is drawn before the others. -/
  | draw {intake last : Intake} :
    intake.current ≠ none → Draws intake.draw.behind last → Draws intake last

/-- There is at least one draw. -/
def Advances (intake last : Intake) : Prop :=
  intake.current ≠ none ∧ Draws intake.draw.behind last

variable {intake middle last : Intake}

theorem Draws.trans (first : Draws intake middle) (second : Draws middle last) :
    Draws intake last := by
  induction first with
  | refl => exact second
  | draw goesOn _ ih => exact .draw goesOn (ih second)

theorem Draws.single (goesOn : intake.current ≠ none) : Draws intake intake.draw.behind :=
  .draw goesOn (.refl _)

theorem draws_follow (line : Nat) (place : Place) (intake : Intake) :
    Draws intake (intake.follow line place).behind := by
  fun_induction follow line place intake with
  | case1 place intake t looks next moved ih => exact .draw (by simp [looks]) ih
  | case2 place intake t looks statement moved e fault => exact .single (by simp [looks])
  | case3 place intake t looks statement moved fine => exact .single (by simp [looks])
  | case4 => exact .refl _
  | case5 => exact .refl _
  | case6 => exact .refl _

theorem draws_skip (intake : Intake) : Draws intake intake.skip.behind := by
  fun_induction skip intake with
  | case1 => exact .refl _
  | case2 intake goesOn ih => exact .draw (ne_none_of_not_halts goesOn) ih

theorem behind_recover (intake : Intake) : intake.recover.behind = intake.skip.behind := by
  unfold recover
  simp only
  split <;> rfl

theorem draws_recover (intake : Intake) : Draws intake intake.recover.behind := by
  rw [behind_recover]
  exact intake.draws_skip

/-- The search for the next statement draws, unless it ends where it begins. -/
theorem advances_recover (goesOn : ¬intake.Halts) : intake.Advances intake.recover.behind := by
  rw [behind_recover, skip, dif_neg goesOn]
  exact ⟨ne_none_of_not_halts goesOn, draws_skip _⟩

/-- A statement draws, or it is wrong from its beginning. -/
theorem advances_statement (goesOn : intake.current ≠ none) :
    intake.Advances intake.statement.behind ∨
      ¬intake.Halts ∧ intake.statement.behind = intake ∧
        Event.errors intake.statement.events ≠ [] := by
  unfold statement
  split
  · rename_i t looks
    split
    · exact .inl ⟨goesOn, draws_follow ..⟩
    · rename_i other
      refine .inr ⟨fun halts => other ?_, rfl, List.cons_ne_nil _ _⟩
      simpa [Item.opens] using (halts_iff looks).1 halts
  · rename_i e looks
    refine .inr ⟨fun halts => ?_, rfl, List.cons_ne_nil _ _⟩
    cases (halts_iff looks).1 halts
  · rename_i ends
    exact absurd ends goesOn

/-- A statement and the search behind its error draw. -/
theorem advances_round (goesOn : intake.current ≠ none) :
    intake.Advances intake.round.behind := by
  unfold round
  rcases advances_statement goesOn with ⟨-, draws⟩ | ⟨searches, stays, wrong⟩
  · split
    · exact ⟨goesOn, draws⟩
    · exact ⟨goesOn, draws.trans (draws_recover _)⟩
  · rw [if_neg wrong, Leg.behind_prepend, stays]
    exact advances_recover searches

theorem Draws.remaining_le (draws : Draws intake last) : last.remaining ≤ intake.remaining := by
  induction draws with
  | refl => exact Nat.le_refl _
  | draw goesOn _ ih => exact Nat.le_trans ih (Nat.le_of_lt (remaining_draw_lt goesOn))

theorem Advances.remaining_lt (advances : intake.Advances last) :
    last.remaining < intake.remaining :=
  Nat.lt_of_le_of_lt advances.2.remaining_le (remaining_draw_lt advances.1)

/-! ## Turns -/

/-- A loop goes on: with the first intake it began to pass through its body, and with the second one
it begins again. -/
inductive Turn : Intake → Intake → Prop
  /-- A token was read inside of a statement that is not at its end. -/
  | follow {intake : Intake} {t : Token} {place next : Place} :
    intake.current = some (.token t) → place.step t.symbol = .go next →
    Turn intake intake.draw.behind
  /-- An item was passed in the search for the next statement. -/
  | skip {intake : Intake} : ¬intake.Halts → Turn intake intake.draw.behind
  /-- A parse has read a statement without error. -/
  | statement {intake : Intake} :
    intake.current ≠ none → Event.errors intake.statement.events = [] →
    Turn intake intake.statement.behind
  /-- A check has read a statement, or found the next one behind an error. -/
  | round {intake : Intake} : intake.current ≠ none → Turn intake intake.round.behind

/-- Every turn draws. -/
theorem Turn.advances (turn : intake.Turn last) : intake.Advances last := by
  cases turn with
  | follow looks => exact ⟨by simp [looks], .refl _⟩
  | skip goesOn => exact ⟨ne_none_of_not_halts goesOn, .refl _⟩
  | statement goesOn fine =>
    exact (advances_statement goesOn).resolve_right fun wrong => wrong.2.2 fine
  | round goesOn => exact advances_round goesOn

/-- There is no endless sequence of turns. -/
theorem wellFounded_turn : WellFounded fun last intake : Intake => intake.Turn last :=
  Subrelation.wf (fun turn => turn.advances.remaining_lt) (measure remaining).wf

/-! ## Definitions -/

/-- Reads statements up to the end of the text or to an error. -/
def statements (intake : Intake) : Leg :=
  if _ : intake.current = none then
    ⟨[], intake⟩
  else if _ : Event.errors intake.statement.events = [] then
    intake.statement.behind.statements.prepend intake.statement.events
  else
    intake.statement
termination_by intake.remaining
decreasing_by exact (Turn.statement ‹_› ‹_›).advances.remaining_lt

/-- Reads statements up to the end of the text, as long as there is room for an error. -/
def rounds (room : Nat) (intake : Intake) : Leg :=
  if _ : intake.current = none ∨ room = 0 then
    ⟨[], intake⟩
  else
    (rounds (room - (Event.errors intake.round.events).length) intake.round.behind).prepend
      intake.round.events
termination_by intake.remaining
decreasing_by exact (Turn.round (not_or.1 ‹_›).1).advances.remaining_lt

/-- The intake of which the error is reported. -/
def settle (intake : Intake) : Intake := { intake with pending := none }

/-- The definition in the text, or the first error. -/
def parse (intake : Intake) : Except Diagnostic Definition × Leg :=
  match intake.pending with
  | some e => (.error (.lexical e), ⟨[.error (.lexical e)], intake.settle⟩)
  | none =>
    let leg := intake.statements
    match Event.errors leg.events with
    | [] =>
      let statements := Event.statements leg.events
      (.ok ⟨statements⟩, ⟨leg.events ++ [.parsed statements.length], leg.behind⟩)
    | error :: _ => (.error error, leg)

/-- What a check does about an error that is still to be reported. -/
def clear (intake : Intake) : Leg :=
  match intake.pending with
  | some e => intake.settle.recover.prepend [.error (.lexical e)]
  | none => ⟨[], intake⟩

/-- What a check does: each statement is read, and each error is reported. -/
def search (intake : Intake) : Leg :=
  let first := intake.clear
  (first.behind.rounds
    (intake.config.maxErrors - (Event.errors first.events).length)).prepend first.events

/-- The errors in the text, up to the limit of the settings. -/
def check (intake : Intake) : List Diagnostic × Leg :=
  let errors := (Event.errors intake.search.events).take intake.config.maxErrors
  (errors, ⟨intake.search.events ++ [.checked errors.length], intake.search.behind⟩)

/-! ## Questions -/

/-- The intake that has drawn nothing. -/
def start (config : Config) (cursor : Cursor) : Intake where
  config := config
  cursor := cursor
  current := none
  pending := none
  drawn := []

/-- The intake at a place of a text, which has drawn one item. -/
def ofCursor (config : Config) (cursor : Cursor) : Intake :=
  let first := (start config cursor).draw.behind
  match first.current with
  | some (.fault e) => { first with pending := some e }
  | _ => first

/-- The answer to a question, and the intake behind it. -/
def answer (intake : Intake) : Question → Reply × Intake
  | .definition => (.definition intake.parse.1, intake.parse.2.behind)
  | .errors => (.errors intake.check.1, intake.check.2.behind)

/-- The answers to questions that are asked one after the other. -/
def replies : Intake → List Question → List Reply
  | _, [] => []
  | intake, question :: later =>
    (intake.answer question).1 :: (intake.answer question).2.replies later

/-- The intake behind some questions. -/
def after : Intake → List Question → Intake
  | intake, [] => intake
  | intake, question :: later => (intake.answer question).2.after later

theorem draws_statement (intake : Intake) : Draws intake intake.statement.behind := by
  unfold statement
  split
  · rename_i t looks
    split
    · exact .draw (by simp [looks]) (draws_follow ..)
    · exact .refl _
  · exact .refl _
  · exact .refl _

theorem draws_round (intake : Intake) : Draws intake intake.round.behind := by
  unfold round
  split
  · exact draws_statement intake
  · exact (draws_statement intake).trans (draws_recover _)

theorem draws_statements (intake : Intake) : Draws intake intake.statements.behind := by
  fun_induction statements intake with
  | case1 => exact .refl _
  | case2 intake _ _ ih => exact (draws_statement intake).trans ih
  | case3 intake _ _ => exact draws_statement intake

theorem draws_rounds (room : Nat) (intake : Intake) : Draws intake (rounds room intake).behind := by
  fun_induction rounds room intake with
  | case1 => exact .refl _
  | case2 room intake _ ih => exact (draws_round intake).trans ih

theorem settle_eq_self (nothing : intake.pending = none) : intake.settle = intake := by
  rw [settle, ← nothing]

theorem draws_clear (intake : Intake) : Draws intake.settle intake.clear.behind := by
  unfold clear
  split
  · exact draws_recover _
  · rename_i nothing
    rw [settle_eq_self nothing]
    exact .refl _

theorem draws_search (intake : Intake) : Draws intake.settle intake.search.behind :=
  (draws_clear intake).trans (draws_rounds _ _)

/-- All that a question does is to draw. -/
theorem draws_answer (intake : Intake) (question : Question) :
    Draws intake.settle (intake.answer question).2 := by
  cases question with
  | definition =>
    show Draws intake.settle intake.parse.2.behind
    unfold parse
    split
    · exact .refl _
    · rename_i nothing
      rw [settle_eq_self nothing]
      have draws := draws_statements intake
      simp only
      split <;> exact draws
  | errors => exact draws_search intake

/-! ## What was given and what is still to come -/

/-- All that can still be given. -/
def ahead (intake : Intake) : List (Option Item) :=
  match intake.current with
  | none => []
  | some _ => (intake.cursor.items intake.config.comments).map some ++ [none]

theorem drawn_append_ahead_draw (intake : Intake) :
    intake.draw.behind.drawn ++ intake.draw.behind.ahead =
      intake.drawn ++ ((intake.cursor.items intake.config.comments).map some ++ [none]) := by
  rw [Cursor.items_eq_next]
  rcases next : intake.cursor.next intake.config.comments with ⟨_ | item, behind⟩
  · simp [draw, next, ahead]
  · simp [draw, next, ahead]

/-- A draw takes from what is still to come. -/
theorem Draws.drawn_append_ahead (draws : Draws intake last) :
    last.drawn ++ last.ahead = intake.drawn ++ intake.ahead := by
  induction draws with
  | refl => rfl
  | @draw intake last goesOn _ ih =>
    obtain ⟨item, looks⟩ := Option.ne_none_iff_exists'.1 goesOn
    have here : intake.ahead =
        (intake.cursor.items intake.config.comments).map some ++ [none] := by rw [ahead, looks]
    rw [ih, drawn_append_ahead_draw, here]

theorem Draws.exists_drawn (draws : Draws intake last) :
    ∃ results, last.drawn = intake.drawn ++ results := by
  induction draws with
  | refl => exact ⟨[], (List.append_nil _).symm⟩
  | @draw intake last goesOn _ ih =>
    obtain ⟨more, whole⟩ := ih
    exact ⟨(intake.cursor.next intake.config.comments).1 :: more, by simp [whole]⟩

/-- What is drawn comes behind what was drawn before. -/
theorem Advances.exists_drawn (advances : intake.Advances last) :
    ∃ results, results ≠ [] ∧ last.drawn = intake.drawn ++ results := by
  obtain ⟨more, whole⟩ := advances.2.exists_drawn
  exact ⟨(intake.cursor.next intake.config.comments).1 :: more, List.cons_ne_nil _ _,
    by simp [whole]⟩

theorem drawn_append_ahead_ofCursor (config : Config) (cursor : Cursor) :
    (ofCursor config cursor).drawn ++ (ofCursor config cursor).ahead =
      (cursor.items config.comments).map some ++ [none] := by
  have first := drawn_append_ahead_draw (start config cursor)
  unfold ofCursor
  simp only
  split <;> exact first

theorem drawn_append_ahead_after (intake : Intake) (questions : List Question) :
    (intake.after questions).drawn ++ (intake.after questions).ahead =
      intake.drawn ++ intake.ahead := by
  induction questions generalizing intake with
  | nil => rfl
  | cons question later ih =>
    exact (ih _).trans (intake.draws_answer question).drawn_append_ahead

end Intake

end Netlist

import Netlist.Cursor
import Netlist.Event
import Netlist.Place

/-!
# Reading a definition

A definition is read one item at a time.  The *phase* says what the reader is
doing: it stands *outside* of all statements, or *inside* one at some place, or
behind one that was just *closed*, or it is *lost* after an error and looks for
the mark that opens the next statement.

`Phase.step` takes one item and gives the events that it causes and the next
phase.  An item causes at most one error (`length_errors_step_le`), and one that
is no token always does (`events_step_fault`).  Two things are particular.  A
statement counts as read only when the item behind it is known to be a token or
the end of the text, so its event comes one step after its closing mark.  And
an opening mark that is itself an error, because a statement was still open,
opens the next statement all the same.

Two readings run the machine.  `Phase.parse` stops at the first error.
`Phase.check` goes on after errors, and stops at an opening mark once it has
found as many errors as it may.  Both leave the items that they have not used,
beginning with the one they stopped at.
-/

namespace Netlist

/-- What a reader is doing. -/
inductive Phase
  /-- It has not begun a statement. -/
  | outside
  /-- It reads a statement that was opened on this line. -/
  | inside (line : Nat) (place : Place)
  /-- It has read the closing mark of a statement that was opened on this line. -/
  | closed (line : Nat) (statement : Statement)
  /-- It looks for the next statement after an error at this position. -/
  | lost (since : Position)
deriving DecidableEq

namespace Phase

/-! ## One item -/

/-- What a token causes where a statement has to begin. -/
def enter (token : Token) : List Event × Phase :=
  if token.symbol = .openParen then
    ([], inside token.position.line .opened)
  else
    ([.error (.misplaced token.position token.text .expectedOpening)], lost token.position)

/-- What a token causes at a place in a statement. -/
def follow (line : Nat) (place : Place) (token : Token) : List Event × Phase :=
  match place.step token.symbol with
  | .go place => ([], inside line place)
  | .close statement => ([], closed line statement)
  | .reject cause =>
    ([.error (.misplaced token.position token.text cause)],
      if token.symbol = .openParen then
        inside token.position.line .opened
      else
        lost token.position)

/-- What a token causes while the next statement is looked for. -/
def search (since : Position) (token : Token) : List Event × Phase :=
  if token.symbol = .openParen then
    ([.skipped since], inside token.position.line .opened)
  else
    ([], lost since)

/-- The events that an item causes and the phase after it. -/
def step : Phase → Item → List Event × Phase
  | outside, .token t => enter t
  | inside line place, .token t => follow line place t
  | closed line statement, .token t => (.statement line statement :: (enter t).1, (enter t).2)
  | lost since, .token t => search since t
  | lost since, .fault e => ([.error (.lexical e)], lost since)
  | _, .fault e => ([.error (.lexical e)], lost e.position)

/-- The events that the end of the text causes. -/
def finish (stop : Position) : Phase → List Event
  | outside => []
  | inside _ _ => [.error (.misplaced stop "" .unterminated)]
  | closed line statement => [.statement line statement]
  | lost since => [.skipped since]

/-- Text that is no token causes its lexical error and nothing else. -/
theorem events_step_fault (phase : Phase) (e : LexicalError) :
    (phase.step (.fault e)).1 = [.error (.lexical e)] := by
  cases phase <;> rfl

/-- An item causes at most one error. -/
theorem length_errors_step_le (phase : Phase) (item : Item) :
    (Event.errors (phase.step item).1).length ≤ 1 := by
  have enter_le (t : Token) : (Event.errors (enter t).1).length ≤ 1 := by
    unfold enter; split <;> simp [Event.error?]
  cases item with
  | fault e => rw [events_step_fault]; simp [Event.error?]
  | token t =>
    cases phase with
    | outside => exact enter_le t
    | inside line place =>
      simp only [step, follow]
      split <;> simp [Event.error?]
    | closed line statement =>
      simpa [step, Event.error?] using enter_le t
    | lost since =>
      simp only [step, search]
      split <;> simp [Event.error?]

end Phase

/-! ## All items -/

/-- The event of reading the first of some items. -/
def Item.reading : List Item → List Event
  | .token t :: _ => [.token t]
  | _ => []

/-- Whether an item is the mark that opens a statement. -/
def Item.opens : Item → Bool
  | .token t => t.symbol == .openParen
  | .fault _ => false

/-- The record of a reading and the items that it has not used. -/
structure Trail where
  /-- What happened. -/
  events : List Event
  /-- The items that are left, beginning with the one at which the reading stopped. -/
  rest : List Item

namespace Phase

/-- Reads items up to the first error. -/
def parse (stop : Position) (phase : Phase) : List Item → Trail
  | [] => ⟨phase.finish stop, []⟩
  | item :: rest =>
    let events := (phase.step item).1
    if Event.errors events = [] then
      let onward := (phase.step item).2.parse stop rest
      ⟨events ++ Item.reading rest ++ onward.events, onward.rest⟩
    else
      ⟨events, item :: rest⟩

/-- Reads items and goes on after errors, up to an opening mark where there is no room for more. -/
def check (stop : Position) (phase : Phase) (room : Nat) : List Item → Trail
  | [] => ⟨phase.finish stop, []⟩
  | item :: rest =>
    let events := (phase.step item).1
    let room := room - (Event.errors events).length
    if item.opens ∧ room = 0 then
      ⟨events, item :: rest⟩
    else
      let onward := (phase.step item).2.check stop room rest
      ⟨events ++ Item.reading rest ++ onward.events, onward.rest⟩

end Phase

end Netlist

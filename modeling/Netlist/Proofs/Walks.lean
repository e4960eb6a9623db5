import Netlist.Proofs.Agreement
import Netlist.Proofs.Relocation
import Netlist.Proofs.Resumption

/-!
# Walks

Up to the end of a statement or to an error a parse does the same as a check
that has room for an error.  What is read on the way is a *walk*
(`Phase.Walks`), and both go on behind it as they would from there
(`Phase.Walks.parse`, `Phase.Walks.check`).  A statement is on the record of a
walk when it counts, and so a walk that has come behind a statement is outside
of all statements, although the phase there was still another one
(`Phase.check_closed`).

What then comes is an error, or the next statement.  An error is the end of a
parse (`Phase.parse_of_react_eq`).  A check goes on behind it: at an opening mark
it goes on as outside of all statements (`Phase.check_cons_of_opens`), and at
any other item it passes on to the next one (`Phase.check_cons_of_not_opens`).

What a reader does when it is checked depends on how it stands, and its three
cases are listed at the end.
-/

namespace Netlist

/-! ## Records -/

/-- A record behind some events. -/
def Trail.prepend (events : List Event) (trail : Trail) : Trail :=
  ⟨events ++ trail.events, trail.rest⟩

@[simp] theorem Trail.prepend_prepend (first second : List Event) (trail : Trail) :
    (trail.prepend second).prepend first = trail.prepend (first ++ second) := by
  simp [prepend]

theorem Item.exists_token_of_opens {item : Item} (opens : item.opens) :
    ∃ token : Token, item = .token token ∧ token.symbol = .openParen :=
  ⟨⟨.openParen, item.position⟩, Item.opens_iff.1 opens, rfl⟩

/-! ## Walks -/

namespace Phase

/-- Without an error a reading leads from a phase before some items to another one behind some of
them.  A statement counts when the item behind it is known to be a token or the end. -/
inductive Walks : Phase → List Item → List Event → Phase → List Item → Prop
  /-- Nothing is read. -/
  | refl (phase : Phase) (items : List Item) : Walks phase items [] phase items
  /-- An item is read. -/
  | step {phase final : Phase} {item : Item} {rest behind : List Item} {events : List Event} :
    Event.errors (phase.step item).1 = [] → Walks (phase.step item).2 rest events final behind →
    Walks phase (item :: rest) ((phase.step item).1 ++ Item.reading rest ++ events) final behind
  /-- A statement counts. -/
  | count {line : Nat} {statement : Statement} {final : Phase} {items behind : List Item}
    {events : List Event} :
    (∀ e, items.head? ≠ some (.fault e)) → Walks outside items events final behind →
    Walks (closed line statement) items (.statement line statement :: events) final behind

variable {stop : Position} {phase middle final : Phase} {items between behind : List Item}
  {events further : List Event} {room : Nat} {item : Item} {rest : List Item}

theorem Walks.trans (first : Walks phase items events middle between)
    (second : Walks middle between further final behind) :
    Walks phase items (events ++ further) final behind := by
  induction first with
  | refl => exact second
  | step fine _ ih =>
    rw [List.append_assoc]
    exact .step fine (ih second)
  | count known _ ih => exact .count known (ih second)

theorem Walks.errors_eq_nil (walks : Walks phase items events final behind) :
    Event.errors events = [] := by
  induction walks with
  | refl => rfl
  | step fine _ ih => simp [fine, ih]
  | count _ _ ih => simpa [Event.error?] using ih

theorem parse_cons_of_errors_eq_nil (fine : Event.errors (phase.step item).1 = []) :
    phase.parse stop (item :: rest) =
      ((phase.step item).2.parse stop rest).prepend
        ((phase.step item).1 ++ Item.reading rest) := by
  rw [Phase.parse, if_pos fine]
  rfl

theorem errors_step_closed (line : Nat) (statement : Statement) (token : Token) :
    Event.errors ((closed line statement).step (.token token)).1 =
      Event.errors (outside.step (.token token)).1 := by
  simp [step, Event.error?]

/-- In a parse a closed statement counts, and what comes then is read as outside of all
statements. -/
theorem parse_closed (line : Nat) (statement : Statement)
    (known : ∀ e, items.head? ≠ some (.fault e)) :
    (closed line statement).parse stop items =
      (outside.parse stop items).prepend [.statement line statement] := by
  match items with
  | [] => rfl
  | .fault e :: rest => exact absurd rfl (known e)
  | .token t :: rest =>
    simp only [Phase.parse, errors_step_closed]
    split <;> rfl

/-- In a check a closed statement counts, and what comes then is read as outside of all
statements. -/
theorem check_closed (line : Nat) (statement : Statement)
    (known : ∀ e, items.head? ≠ some (.fault e)) :
    (closed line statement).check stop room items =
      (outside.check stop room items).prepend [.statement line statement] := by
  match items with
  | [] => rfl
  | .fault e :: rest => exact absurd rfl (known e)
  | .token t :: rest =>
    simp only [Phase.check, errors_step_closed]
    split <;> rfl

/-- A parse goes on behind a walk. -/
theorem Walks.parse (walks : Walks phase items events final behind) (stop : Position) :
    phase.parse stop items = (final.parse stop behind).prepend events := by
  induction walks with
  | refl => rfl
  | step fine _ ih => rw [parse_cons_of_errors_eq_nil fine, ih, Trail.prepend_prepend]
  | count known _ ih =>
    rw [parse_closed _ _ known, ih, Trail.prepend_prepend]
    rfl

/-- A check with room for an error goes on behind a walk. -/
theorem Walks.check (walks : Walks phase items events final behind) (stop : Position)
    (positive : 0 < room) :
    phase.check stop room items = (final.check stop room behind).prepend events := by
  induction walks with
  | refl => rfl
  | step fine _ ih =>
    rw [check_cons_of_errors_eq_nil positive fine, ih]
    simp [Trail.prepend]
  | count known _ ih =>
    rw [check_closed _ _ known, ih, Trail.prepend_prepend]
    rfl

/-- A parse is stopped by an error. -/
theorem parse_of_react_eq {error : Diagnostic} (found : phase.react stop items = [.error error]) :
    phase.parse stop items = ⟨[.error error], items⟩ := by
  cases items with
  | nil => exact congrArg (Trail.mk · []) found
  | cons item rest =>
    have wrong : Event.errors (phase.step item).1 ≠ [] := by
      rw [show (phase.step item).1 = _ from found]
      exact List.cons_ne_nil _ _
    rw [parse_cons_of_errors_ne_nil wrong]
    exact congrArg (Trail.mk · _) found

/-- An opening mark is read as outside of all statements, once it has caused what it causes. -/
theorem check_cons_of_opens (phase : Phase) (opens : item.opens) :
    phase.check stop room (item :: rest) =
      (outside.check stop (room - (Event.errors (phase.step item).1).length)
        (item :: rest)).prepend (phase.step item).1 := by
  obtain ⟨t, rfl, mark⟩ := Item.exists_token_of_opens opens
  have entered : outside.step (.token t) = ([], inside t.position.line .opened) := by
    simp [step, enter, mark]
  simp only [Phase.check, step_openParen phase mark, entered]
  split
  · rename_i stops
    simp [Trail.prepend, stops.2, stops.1]
  · rename_i goesOn
    simp [Trail.prepend, goesOn]

/-- Without room a check stops where a statement is opened. -/
theorem check_zero_of_opens (opens : item.opens) :
    outside.check stop 0 (item :: rest) = ⟨[], item :: rest⟩ := by
  obtain ⟨t, rfl, mark⟩ := Item.exists_token_of_opens opens
  simp [Phase.check, step, enter, mark, Item.opens]

/-- A check goes on behind an item that is no opening mark. -/
theorem check_cons_of_not_opens (phase : Phase) (other : ¬item.opens) :
    phase.check stop room (item :: rest) =
      ((phase.step item).2.check stop (room - (Event.errors (phase.step item).1).length)
        rest).prepend ((phase.step item).1 ++ Item.reading rest) := by
  rw [Phase.check, if_neg fun stops => other stops.1]
  rfl

end Phase

/-! ## Readers -/

namespace Reader

variable {reader : Reader} {events : List Event} {rest : List Item}

theorem stop_resume (reader : Reader) (items : List Item) :
    (reader.resume items).stop = reader.stop := by
  match items with
  | [] => rfl
  | .token _ :: _ => rfl
  | .fault _ :: _ => rfl

/-- A reader that goes on keeps nothing but how the text is read and where it ends. -/
theorem resume_eq_of_eq {other : Reader} (config : reader.config = other.config)
    (stop : reader.stop = other.stop) (items : List Item) :
    reader.resume items = other.resume items := by
  match items with
  | [] => simp only [resume, config, stop]
  | .token _ :: _ => simp only [resume, config, stop]
  | .fault _ :: _ => simp only [resume, config, stop]

/-- A reader that goes on at a token or at the end is not spoiled. -/
theorem resume_of_head? (known : ∀ e, rest.head? ≠ some (.fault e)) :
    reader.resume rest = { reader with spoiled := none, items := rest } := by
  match rest with
  | [] => rfl
  | .token _ :: _ => rfl
  | .fault e :: _ => exact absurd rfl (known e)

theorem beginsWithFault_eq_false (known : ∀ e, reader.items.head? ≠ some (.fault e)) :
    reader.beginsWithFault = false := by
  unfold beginsWithFault
  split
  · rename_i e rest begins
    refine absurd ?_ (known e)
    rw [begins]
    rfl
  · rfl

theorem checkEvents_of_spoiled {position : Position} (spoiled : reader.spoiled = some position)
    (positive : 0 < reader.config.maxErrors)
    (searches : ((Phase.lost position).check reader.stop (reader.config.maxErrors - 1)
      reader.items).prepend (Item.reading reader.items) = ⟨events, rest⟩) :
    reader.checkEvents = (.error (stuck position) :: events, reader.resume rest) := by
  rw [Trail.prepend, Trail.mk.injEq] at searches
  obtain ⟨rfl, rfl⟩ := searches
  unfold checkEvents
  rw [spoiled]
  simp only [if_neg (Nat.ne_of_gt positive)]
  rfl

theorem checkEvents_of_fresh (fresh : reader.spoiled = none)
    (allowed : ¬(reader.config.maxErrors = 0 ∧ ¬reader.beginsWithFault))
    (reads : Phase.outside.check reader.stop reader.config.maxErrors reader.items =
      ⟨events, rest⟩) :
    reader.checkEvents = (events, reader.resume rest) := by
  unfold checkEvents
  rw [fresh]
  simp only [reads, if_neg allowed]

/-- Nothing is done if nothing may be reported and nothing is still to be reported. -/
theorem checkEvents_of_full (full : reader.config.maxErrors = 0)
    (nothing : reader.spoiled = none → reader.beginsWithFault = false) :
    reader.checkEvents = ([], reader) := by
  unfold checkEvents
  split
  · exact if_pos full
  · rename_i fresh
    exact if_pos ⟨full, by simp [nothing fresh]⟩

end Reader

end Netlist

import Netlist.Proofs.Intake
import Netlist.Proofs.Walks

/-!
# The parts of a reading on demand

What of a text is *unread*, the item that an intake looks at and those behind
it, is what a reader would still have.  A draw takes the first of these items
away (`Intake.unread_draw`), so each part of a reading on demand is compared with
the phases of a reader from the items that are unread before it to those that are
unread behind it.

A statement on demand arrives where a walk does (`Intake.arrives_statement`), and
so the statements up to the first error are a parse
(`Intake.parse_eq_statements`).  Behind an error a check is lost, and the search
for the next statement leads to where it is no longer (`Intake.check_skip`).
That a search tells of skipped text if it has drawn something, and only then,
holds because positions grow with every draw (`Intake.Settled.recover_eq`).  The
rounds of a check on demand are therefore a check (`Intake.check_rounds`).
-/

namespace Netlist

namespace Intake

variable {intake last : Intake}

/-! ## What is unread -/

/-- The items that are unread, beginning with the one that the intake looks at. -/
def unread (intake : Intake) : List Item :=
  intake.current.toList ++ intake.cursor.items intake.config.comments

theorem unread_draw (intake : Intake) :
    intake.draw.behind.unread = intake.cursor.items intake.config.comments := by
  rw [Cursor.items_eq_next]
  rcases next : intake.cursor.next intake.config.comments with ⟨_ | item, behind⟩
  · have nothing := Cursor.rest_of_next_eq_none next
    simp [unread, draw, next, Cursor.items, nothing, Item.ofLexemes]
  · simp [unread, draw, next]

theorem unread_of_current {item : Item} (looks : intake.current = some item) :
    intake.unread = item :: intake.draw.behind.unread := by
  rw [unread_draw, unread, looks]
  rfl

/-- A draw is told of as a reader tells of the first of its items. -/
theorem events_draw (intake : Intake) :
    intake.draw.events = Item.reading intake.draw.behind.unread := by
  rcases next : intake.cursor.next intake.config.comments with ⟨_ | item, behind⟩
  · have nothing := Cursor.rest_of_next_eq_none next
    simp [unread, draw, next, Cursor.items, nothing, Item.ofLexemes]
  · cases item <;> simp [unread, draw, next, Item.reading]

theorem errors_draw (intake : Intake) : Event.errors intake.draw.events = [] := by
  rw [events_draw, Item.errors_reading]

/-- What holds of an intake after a draw, if there is no error still to be reported. -/
structure Settled (intake : Intake) : Prop where
  /-- An intake that looks at nothing is at the end of its text. -/
  ended : intake.current = none → intake.cursor.rest = []
  /-- The cursor is behind the item. -/
  behind : ∀ item ∈ intake.current, item.position.offset < intake.cursor.position.offset
  /-- All errors are reported. -/
  reported : intake.pending = none

theorem settled_draw (reported : intake.pending = none) : intake.draw.behind.Settled := by
  rcases next : intake.cursor.next intake.config.comments with ⟨_ | item, behind⟩
  · have nothing := Cursor.rest_of_next_eq_none next
    refine ⟨fun _ => ?_, fun item looks => ?_, reported⟩
    · simpa [draw, next] using nothing
    · simp [draw, next] at looks
  · obtain ⟨gap, text, passes⟩ := Cursor.exists_passes_of_next next
    refine ⟨fun ends => ?_, fun other looks => ?_, reported⟩
    · simp [draw, next] at ends
    · obtain rfl : item = other := by simpa [draw, next] using looks
      simpa [draw, next] using passes.offset_lt

/-- All draws keep what each of them does. -/
theorem Draws.keeps {holds : Intake → Prop}
    (step : ∀ intake : Intake, holds intake → holds intake.draw.behind)
    (draws : Draws intake last) (first : holds intake) : holds last := by
  induction draws with
  | refl => exact first
  | draw _ _ ih => exact ih (step _ first)

theorem Draws.settled (draws : Draws intake last) (settled : intake.Settled) : last.Settled :=
  draws.keeps (fun _ settled => settled_draw settled.reported) settled

theorem Draws.config_eq (draws : Draws intake last) : last.config = intake.config := by
  induction draws with
  | refl => rfl
  | draw _ _ ih => exact ih

theorem Draws.stop_eq (draws : Draws intake last) : last.cursor.stop = intake.cursor.stop :=
  draws.keeps (fun _ same => (Cursor.stop_next ..).trans same) rfl

theorem Settled.unread_eq_nil (settled : intake.Settled) (ends : intake.current = none) :
    intake.unread = [] := by
  simp [unread, ends, Cursor.items, settled.ended ends, Item.ofLexemes]

theorem Settled.stop_eq (settled : intake.Settled) (ends : intake.current = none) :
    intake.cursor.stop = intake.cursor.position := by
  rw [Cursor.stop, settled.ended ends]
  rfl

/-! ## Statements -/

/-- The intake does not look at text that is no token. -/
def Reads (intake : Intake) : Prop := ∀ e, intake.current ≠ some (.fault e)

theorem Reads.head?_unread (reads : intake.Reads) (settled : intake.Settled) (e : LexicalError) :
    intake.unread.head? ≠ some (.fault e) := by
  cases looks : intake.current with
  | none => simp [settled.unread_eq_nil looks]
  | some item =>
    rw [unread_of_current looks]
    rintro ⟨⟩
    exact reads e looks

/-- A part of a reading on demand ends where a walk from a phase does: outside of all statements,
or where the unread items cause an error. -/
inductive Arrives (stop : Position) (phase : Phase) (items : List Item) : Leg → Prop
  /-- There is no error. -/
  | outside {events : List Event} {intake : Intake} :
    phase.Walks items events .outside intake.unread → intake.Reads →
    Arrives stop phase items ⟨events, intake⟩
  /-- There is an error. -/
  | wrong {events : List Event} {intake : Intake} {final : Phase} {error : Diagnostic} :
    phase.Walks items events final intake.unread → ¬final.IsLost →
    final.react stop intake.unread = [.error error] →
    Arrives stop phase items ⟨events ++ [.error error], intake⟩

theorem Arrives.prepend {stop : Position} {phase middle : Phase} {items between : List Item}
    {events : List Event} {leg : Leg} (walks : phase.Walks items events middle between)
    (arrives : Arrives stop middle between leg) :
    Arrives stop phase items (leg.prepend events) := by
  cases arrives with
  | outside onward reads => exact .outside (walks.trans onward) reads
  | wrong onward onTrack found =>
    rw [Leg.prepend, ← List.append_assoc]
    exact .wrong (walks.trans onward) onTrack found

theorem walks_draw {phase next : Phase} {t : Token} (looks : intake.current = some (.token t))
    (moved : phase.step (.token t) = ([], next)) :
    phase.Walks intake.unread intake.draw.events next intake.draw.behind.unread := by
  rw [unread_of_current looks, events_draw]
  have walks : phase.Walks (.token t :: intake.draw.behind.unread)
      ((phase.step (.token t)).1 ++ Item.reading intake.draw.behind.unread ++ []) next
      intake.draw.behind.unread :=
    .step (by rw [moved]; rfl) (by rw [moved]; exact .refl ..)
  simpa [moved] using walks

/-- From a place on, a statement on demand arrives where a walk does. -/
theorem arrives_follow (line : Nat) (place : Place) (settled : intake.Settled) :
    Arrives intake.cursor.stop (.inside line place) intake.unread (intake.follow line place) := by
  fun_induction follow line place intake with
  | case1 place intake t looks next moved ih =>
    have walks : (Phase.inside line place).Walks intake.unread intake.draw.events
        (.inside line next) intake.draw.behind.unread :=
      walks_draw looks (by simp [Phase.step, Phase.follow, moved])
    have onward := ih (settled_draw settled.reported)
    rw [(Draws.single (by simp [looks])).stop_eq] at onward
    exact onward.prepend walks
  | case2 place intake t looks statement moved e fault =>
    -- The item behind the closing mark is no token, so the statement does not count.
    have walks : (Phase.inside line place).Walks intake.unread intake.draw.events
        (.closed line statement) intake.draw.behind.unread :=
      walks_draw looks (by simp [Phase.step, Phase.follow, moved])
    have silent : intake.draw.events = [] := by
      rw [events_draw, unread_of_current fault]
      rfl
    rw [silent] at walks
    refine .wrong walks id ?_
    rw [unread_of_current fault]
    rfl
  | case3 place intake t looks statement moved fine =>
    have walks : (Phase.inside line place).Walks intake.unread intake.draw.events
        (.closed line statement) intake.draw.behind.unread :=
      walks_draw looks (by simp [Phase.step, Phase.follow, moved])
    have reads : intake.draw.behind.Reads := fine
    have known := reads.head?_unread (settled_draw settled.reported)
    exact .outside (walks.trans (.count known (.refl ..))) reads
  | case4 place intake t looks cause moved =>
    refine .wrong (.refl _ _) id ?_
    rw [unread_of_current looks]
    simp [Phase.react, Phase.step, Phase.follow, moved]
  | case5 place intake e looks =>
    refine .wrong (.refl _ _) id ?_
    rw [unread_of_current looks]
    rfl
  | case6 place intake ends =>
    refine .wrong (.refl _ _) id ?_
    rw [settled.unread_eq_nil ends, settled.stop_eq ends]
    rfl

/-- A statement on demand arrives where a walk does. -/
theorem arrives_statement (settled : intake.Settled) (goesOn : intake.current ≠ none)
    (reads : intake.Reads) :
    Arrives intake.cursor.stop .outside intake.unread intake.statement := by
  unfold statement
  split
  · rename_i t looks
    split
    · rename_i opens
      have walks : Phase.outside.Walks intake.unread intake.draw.events
          (.inside t.position.line .opened) intake.draw.behind.unread :=
        walks_draw looks (by simp [Phase.step, Phase.enter, opens])
      have onward := arrives_follow t.position.line .opened (settled_draw settled.reported)
      rw [(Draws.single goesOn).stop_eq] at onward
      exact onward.prepend walks
    · rename_i other
      refine .wrong (.refl _ _) id ?_
      rw [unread_of_current looks]
      simp [Phase.react, Phase.step, Phase.enter, other]
  · rename_i e looks
    exact absurd looks (reads e)
  · rename_i ends
    exact absurd ends goesOn

/-! ## Parsing -/

/-- Statements on demand, up to the first error, are what a parse reads. -/
theorem parse_eq_statements (settled : intake.Settled) (reads : intake.Reads) :
    Phase.outside.parse intake.cursor.stop intake.unread =
      ⟨intake.statements.events, intake.statements.behind.unread⟩ := by
  fun_induction statements intake with
  | case1 intake ends =>
    rw [settled.unread_eq_nil ends]
    rfl
  | case2 intake goesOn fine ih =>
    have draws := draws_statement intake
    have arrives := arrives_statement settled goesOn reads
    generalize intake.statement = leg at *
    cases arrives with
    | outside walks reads =>
      rw [walks.parse, ← draws.stop_eq, ih (draws.settled settled) reads]
      rfl
    | wrong => simp [Event.error?] at fine
  | case3 intake goesOn wrong =>
    have arrives := arrives_statement settled goesOn reads
    generalize intake.statement = leg at *
    cases arrives with
    | outside walks _ => exact absurd walks.errors_eq_nil wrong
    | wrong walks _ found =>
      rw [walks.parse, Phase.parse_of_react_eq found]
      rfl

/-! ## Checking -/

theorem offset_le_position_draw (intake : Intake) :
    intake.cursor.position.offset ≤ intake.draw.behind.position.offset := by
  rcases next : intake.cursor.next intake.config.comments with ⟨_ | item, behind⟩
  · have nothing := Cursor.rest_of_next_eq_none next
    have stays := intake.cursor.stop_next intake.config.comments
    rw [next] at stays
    have stands : behind.position = intake.cursor.stop := by rw [← stays, Cursor.stop, nothing]; rfl
    simpa [draw, next, position, stands, Cursor.stop] using Position.offset_le_after ..
  · obtain ⟨gap, text, passes⟩ := Cursor.exists_passes_of_next next
    simpa [draw, next, position, passes.place] using Position.offset_le_after ..

theorem Settled.offset_lt_position_draw (settled : intake.Settled)
    (goesOn : intake.current ≠ none) :
    intake.position.offset < intake.draw.behind.position.offset := by
  obtain ⟨item, looks⟩ := Option.ne_none_iff_exists'.1 goesOn
  have stands : intake.position = item.position := by rw [position, looks]
  rw [stands]
  exact Nat.lt_of_lt_of_le (settled.behind item looks) intake.offset_le_position_draw

theorem Draws.offset_le (draws : Draws intake last) (settled : intake.Settled) :
    intake.position.offset ≤ last.position.offset := by
  induction draws with
  | refl => exact Nat.le_refl _
  | draw goesOn _ ih =>
    have moves := settled.offset_lt_position_draw goesOn
    exact Nat.le_trans (Nat.le_of_lt moves) (ih (settled_draw settled.reported))

/-- A search that does not end where it begins tells that it has skipped text. -/
theorem Settled.recover_eq (settled : intake.Settled) (goesOn : ¬intake.Halts) :
    intake.recover = ⟨intake.skip.events ++ [.skipped intake.position], intake.skip.behind⟩ := by
  have moves := settled.offset_lt_position_draw (ne_none_of_not_halts goesOn)
  have onward := (draws_skip intake.draw.behind).offset_le (settled_draw settled.reported)
  have moved : intake.skip.behind.position ≠ intake.position := by
    intro same
    rw [skip, dif_neg goesOn] at same
    have offsets := congrArg Position.offset same
    simp only [Leg.behind_prepend] at offsets
    omega
  rw [recover, if_neg moved]

theorem recover_of_halts (halts : intake.Halts) : intake.recover = ⟨[], intake⟩ := by
  have stays : intake.skip = ⟨[], intake⟩ := by rw [skip, dif_pos halts]
  rw [recover, stays, if_pos rfl]

theorem halts_skip (intake : Intake) : intake.skip.behind.Halts := by
  fun_induction skip intake with
  | case1 intake halts => exact halts
  | case2 intake goesOn ih => exact ih

/-- Where a check is lost, it finds the next statement as the search on demand does. -/
theorem check_skip (stop since : Position) (room : Nat) (settled : intake.Settled) :
    (Phase.lost since).check stop room intake.unread =
      (Phase.outside.check stop
        (room - (Event.errors (reporting intake.current ++ intake.skip.events)).length)
        intake.skip.behind.unread).prepend
          (reporting intake.current ++ intake.skip.events ++ [.skipped since]) := by
  fun_induction skip intake generalizing room with
  | case1 intake halts =>
    cases looks : intake.current with
    | none =>
      rw [settled.unread_eq_nil looks]
      rfl
    | some item =>
      have opens := (halts_iff looks).1 halts
      obtain ⟨t, rfl, mark⟩ := Item.exists_token_of_opens opens
      have found : ((Phase.lost since).step (.token t)).1 = [.skipped since] := by
        simp [Phase.step, Phase.search, mark]
      rw [unread_of_current looks, Phase.check_cons_of_opens _ opens, found]
      rfl
  | case2 intake goesOn ih =>
    obtain ⟨item, looks⟩ := Option.ne_none_iff_exists'.1 (ne_none_of_not_halts goesOn)
    have other : ¬item.opens := mt (halts_iff looks).2 goesOn
    have passed : (Phase.lost since).step item = (reporting (some item), .lost since) := by
      cases item with
      | fault e => rfl
      | token t =>
        have mark : t.symbol ≠ .openParen := by simpa [Item.opens] using other
        simp [Phase.step, Phase.search, mark, reporting]
    rw [looks, unread_of_current looks, Phase.check_cons_of_not_opens _ other, passed,
      ← events_draw, ih _ (settled_draw settled.reported)]
    simp [errors_draw, Nat.sub_sub]

/-- Where the search does not end at once, a check is lost, and both find the next statement. -/
theorem check_recover (stop : Position) (room : Nat) (settled : intake.Settled)
    (goesOn : ¬intake.Halts) :
    ((Phase.lost intake.position).check stop room intake.draw.behind.unread).prepend
        intake.draw.events =
      (Phase.outside.check stop (room - (Event.errors intake.recover.events).length)
        intake.recover.behind.unread).prepend intake.recover.events := by
  have skips : intake.skip = intake.draw.behind.skip.prepend
      (intake.draw.events ++ reporting intake.draw.behind.current) := by
    rw [skip, dif_neg goesOn]
  rw [check_skip _ _ _ (settled_draw settled.reported), settled.recover_eq goesOn, skips]
  simp [errors_draw, Event.error?]

/-- A check goes on behind an error as it would from the next statement. -/
theorem check_error {stop : Position} {final : Phase} {error : Diagnostic} (room : Nat)
    (settled : intake.Settled) (onTrack : ¬final.IsLost)
    (found : final.react stop intake.unread = [.error error]) :
    final.check stop room intake.unread =
      (Phase.outside.check stop
        (room - (Event.errors (.error error :: intake.recover.events)).length)
        intake.recover.behind.unread).prepend (.error error :: intake.recover.events) := by
  cases looks : intake.current with
  | none =>
    have halts : intake.Halts := by simp [Halts, looks]
    rw [settled.unread_eq_nil looks] at found
    rw [recover_of_halts halts, settled.unread_eq_nil looks]
    exact congrArg (Trail.mk · []) found
  | some item =>
    rw [unread_of_current looks] at found
    have caused : (final.step item).1 = [.error error] := found
    by_cases opens : item.opens
    -- At an opening mark there is nothing to search for, and the check begins with a statement.
    · rw [recover_of_halts ((halts_iff looks).2 opens), unread_of_current looks,
        Phase.check_cons_of_opens _ opens, caused]
    · have goesOn : ¬intake.Halts := mt (halts_iff looks).1 opens
      have wrong : error ∈ Event.errors (final.step item).1 := by
        rw [caused]
        exact .head _
      have lost : (final.step item).2 = .lost intake.position := by
        rw [Phase.step_of_mem_errors onTrack wrong, if_neg opens, position, looks]
      rw [unread_of_current looks, Phase.check_cons_of_not_opens _ opens, caused, lost,
        ← events_draw, ← Trail.prepend_prepend, check_recover stop _ settled goesOn]
      simp [Event.error?, Nat.sub_sub, Nat.add_comm]

/-- A round on demand is the beginning of a check, which goes on behind it. -/
theorem check_round {room : Nat} (settled : intake.Settled) (goesOn : intake.current ≠ none)
    (reads : intake.Reads) (positive : 0 < room) :
    Phase.outside.check intake.cursor.stop room intake.unread =
      (Phase.outside.check intake.cursor.stop
        (room - (Event.errors intake.round.events).length)
        intake.round.behind.unread).prepend intake.round.events := by
  have draws := draws_statement intake
  have arrives := arrives_statement settled goesOn reads
  unfold round
  generalize intake.statement = leg at *
  cases arrives with
  | outside walks _ =>
    have fine := walks.errors_eq_nil
    rw [if_pos fine, walks.check _ positive, fine]
    rfl
  | wrong walks onTrack found =>
    have fine := walks.errors_eq_nil
    rw [walks.check _ positive, check_error room (draws.settled settled) onTrack found]
    simp [fine, Event.error?]

/-- A check that has room for so many errors goes on here with a statement, or ends: without room it
does not read on from any other item. -/
def Stands (room : Nat) (intake : Intake) : Prop := intake.Halts ∨ 0 < room ∧ intake.Reads

theorem Halts.reads (halts : intake.Halts) : intake.Reads := fun _ looks => by
  cases (halts_iff looks).1 halts

theorem Stands.reads {room : Nat} (stands : intake.Stands room) : intake.Reads :=
  stands.elim Halts.reads And.right

theorem stands_recover (room : Nat) (intake : Intake) : intake.recover.behind.Stands room := by
  rw [behind_recover]
  exact .inl intake.halts_skip

theorem stands_round {room : Nat} (settled : intake.Settled) (goesOn : intake.current ≠ none)
    (reads : intake.Reads) (positive : 0 < room) :
    intake.round.behind.Stands (room - (Event.errors intake.round.events).length) := by
  have arrives := arrives_statement settled goesOn reads
  unfold round
  split
  · rename_i fine
    generalize intake.statement = leg at *
    cases arrives with
    | outside _ reads => exact .inr ⟨by simpa [fine] using positive, reads⟩
    | wrong => simp [Event.error?] at fine
  · exact stands_recover _ _

/-- The rounds on demand are what a check does. -/
theorem check_rounds {room : Nat} (settled : intake.Settled) (stands : intake.Stands room) :
    Phase.outside.check intake.cursor.stop room intake.unread =
      ⟨(intake.rounds room).events, (intake.rounds room).behind.unread⟩ := by
  fun_induction rounds room intake with
  | case1 room intake stops =>
    cases looks : intake.current with
    | none =>
      rw [settled.unread_eq_nil looks]
      rfl
    | some item =>
      have full : room = 0 := stops.resolve_left (by simp [looks])
      have halts : intake.Halts := stands.resolve_right fun free => by omega
      rw [full, unread_of_current looks,
        Phase.check_zero_of_opens ((halts_iff looks).1 halts)]
  | case2 room intake goesOn ih =>
    obtain ⟨looks, some⟩ := not_or.1 goesOn
    have positive : 0 < room := Nat.pos_of_ne_zero some
    have draws := draws_round intake
    have onward := ih (draws.settled settled) (stands_round settled looks stands.reads positive)
    rw [check_round settled looks stands.reads positive, ← draws.stop_eq, onward]
    rfl

/-- The rounds behind a search are what a check does from the next statement on. -/
theorem check_rounds_recover (settled : intake.Settled) (room : Nat) :
    Phase.outside.check intake.cursor.stop room intake.recover.behind.unread =
      ⟨(intake.recover.behind.rounds room).events,
        (intake.recover.behind.rounds room).behind.unread⟩ := by
  have draws := draws_recover intake
  rw [← draws.stop_eq]
  exact check_rounds (draws.settled settled) (stands_recover room intake)

end Intake

end Netlist

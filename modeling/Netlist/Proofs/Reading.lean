import Netlist.Phase
import Netlist.Proofs.Place

/-!
# Reading a definition follows the grammar

`Phase.Reads` is a reading that meets no error: from a phase, over tokens, to
another phase, with the statements that it has read.  Every call of
`Phase.parse` is such a reading up to the end of the text or up to the first
error (`exists_reads_parse`), so what holds of one step without error holds up
to there.

`Phase.Completes` says what a phase still wants: the symbols behind it and the
statements that they bring.  Outside of all statements that is a derivation of
the grammar.  One step without error takes one symbol off that demand, and no
symbol of a demand is an error (`completes_cons_iff`).  By induction a reading
without error keeps the demand (`completes_append_iff`).  A phase that wants
nothing more is one at which a text may end (`completes_nil_iff`), and there
is always something that satisfies it (`exists_completes_closing`).
-/

namespace Netlist

@[simp] theorem Item.errors_reading (items : List Item) :
    Event.errors (Item.reading items) = [] := by
  unfold Item.reading
  split <;> rfl

@[simp] theorem Item.statements_reading (items : List Item) :
    Event.statements (Item.reading items) = [] := by
  unfold Item.reading
  split <;> rfl

namespace Phase

/-- The reader looks for the next statement after an error. -/
def IsLost : Phase → Prop
  | lost _ => True
  | _ => False

/-! ## What one token causes -/

/-- A phase has no use for a symbol. -/
inductive Rejects : Phase → Symbol → SyntaxCause → Prop
  /-- Before all statements the next one has to begin. -/
  | outside {symbol : Symbol} : Rejects outside symbol .expectedOpening
  /-- Inside of a statement the place decides. -/
  | inside {line : Nat} {place : Place} {symbol : Symbol} {cause : SyntaxCause} :
    place.step symbol = .reject cause → Rejects (inside line place) symbol cause
  /-- Behind a statement the next one has to begin. -/
  | closed {line : Nat} {statement : Statement} {symbol : Symbol} :
    Rejects (closed line statement) symbol .expectedOpening

theorem eq_misplaced_of_mem_errors_enter {token : Token} {error : Diagnostic}
    (found : error ∈ Event.errors (enter token).1) :
    error = .misplaced token.position token.text .expectedOpening := by
  rw [enter] at found
  split at found
  · cases found
  · exact List.mem_singleton.1 found

/-- What a token can cause is a syntax error about its rejection. -/
theorem exists_rejects_of_mem_errors_step {phase : Phase} {token : Token} {error : Diagnostic}
    (found : error ∈ Event.errors (phase.step (.token token)).1) :
    ∃ cause, phase.Rejects token.symbol cause ∧
      error = .misplaced token.position token.text cause := by
  cases phase with
  | outside => exact ⟨_, .outside, eq_misplaced_of_mem_errors_enter found⟩
  | inside line place =>
    simp only [step, follow] at found
    split at found
    · cases found
    · cases found
    · rename_i cause rejected
      exact ⟨cause, .inside rejected, List.mem_singleton.1 found⟩
  | closed line statement =>
    have entering : error ∈ Event.errors (enter token).1 := by
      simpa [step, Event.error?] using found
    exact ⟨_, .closed, eq_misplaced_of_mem_errors_enter entering⟩
  | lost since =>
    simp only [step, search] at found
    split at found <;> cases found

/-- What a token can cause is a syntax error at its position about its text. -/
theorem eq_misplaced_of_mem_errors_step {phase : Phase} {token : Token} {error : Diagnostic}
    (found : error ∈ Event.errors (phase.step (.token token)).1) :
    ∃ cause, error = .misplaced token.position token.text cause := by
  obtain ⟨cause, -, same⟩ := exists_rejects_of_mem_errors_step found
  exact ⟨cause, same⟩

/-! ## Readings without error -/

/-- A reading of tokens that meets no error, with the statements that it reads. -/
inductive Reads : Phase → List Token → List Statement → Phase → Prop
  /-- Nothing is read. -/
  | nil (phase : Phase) : Reads phase [] [] phase
  /-- A token that is no error is read before the others. -/
  | cons {phase final : Phase} {token : Token} {others : List Token} {statements : List Statement} :
    Event.errors (phase.step (.token token)).1 = [] →
    Reads (phase.step (.token token)).2 others statements final →
    Reads phase (token :: others)
      (Event.statements (phase.step (.token token)).1 ++ statements) final

/-- An item without error is a token. -/
theorem exists_token_of_errors_step {phase : Phase} {item : Item}
    (fine : Event.errors (phase.step item).1 = []) : ∃ token, item = .token token := by
  cases item with
  | token token => exact ⟨token, rfl⟩
  | fault error => simp [events_step_fault, Event.error?] at fine

/-- A step without error does not lose the reader. -/
theorem not_isLost_step {phase : Phase} {token : Token} (onTrack : ¬phase.IsLost)
    (fine : Event.errors (phase.step (.token token)).1 = []) :
    ¬(phase.step (.token token)).2.IsLost := by
  cases phase with
  | outside =>
    simp only [step, enter] at fine ⊢
    split at fine
    · simp [*, IsLost]
    · simp [Event.error?] at fine
  | inside line place =>
    simp only [step, follow] at fine ⊢
    split at fine
    · simp [IsLost]
    · simp [IsLost]
    · simp [Event.error?] at fine
  | closed line statement =>
    simp only [step, enter] at fine ⊢
    split at fine
    · simp [*, IsLost]
    · simp [Event.error?] at fine
  | lost since => exact absurd trivial onTrack

theorem Reads.not_isLost {phase final : Phase} {tokens : List Token} {statements : List Statement}
    (reads : phase.Reads tokens statements final) (onTrack : ¬phase.IsLost) : ¬final.IsLost := by
  induction reads with
  | nil => exact onTrack
  | cons fine _ ih => exact ih (not_isLost_step onTrack fine)

/-- What the items to come cause at once: the first of them, or the end of the text. -/
def react (stop : Position) (phase : Phase) : List Item → List Event
  | [] => phase.finish stop
  | item :: _ => (phase.step item).1

/-- A parse is a reading without error up to the end of the text or up to the first error. -/
theorem exists_reads_parse (stop : Position) (phase : Phase) (items : List Item) :
    ∃ tokens statements final behind, phase.Reads tokens statements final ∧
      items = tokens.map .token ++ behind ∧
      Event.errors (phase.parse stop items).events = Event.errors (final.react stop behind) ∧
      Event.statements (phase.parse stop items).events =
        statements ++ Event.statements (final.react stop behind) ∧
      (behind = [] ∨ Event.errors (final.react stop behind) ≠ []) := by
  induction items generalizing phase with
  | nil => exact ⟨[], [], phase, [], .nil phase, rfl, rfl, rfl, .inl rfl⟩
  | cons item rest ih =>
    by_cases fine : Event.errors (phase.step item).1 = []
    · obtain ⟨token, rfl⟩ := exists_token_of_errors_step fine
      obtain ⟨tokens, statements, final, behind, reads, split, errors, read, ends⟩ :=
        ih (phase.step (.token token)).2
      refine ⟨token :: tokens, _, final, behind, .cons fine reads, by simp [split], ?_, ?_, ends⟩
      · simp [parse, fine, errors]
      · simp [parse, fine, read]
    · have stops : (phase.parse stop (item :: rest)).events = (phase.step item).1 := by
        simp [parse, fine]
      rw [stops]
      exact ⟨[], [], phase, item :: rest, .nil phase, rfl, rfl, rfl, .inr fine⟩

/-! ## What a phase wants -/

/-- The symbols that complete what a phase has begun, and the statements that they bring. -/
def Completes : Phase → List Symbol → List Statement → Prop
  | outside, symbols, statements => Statement.DeriveAll statements symbols
  | inside _ place, symbols, statements =>
    ∃ statement body others rest, place.read body = some statement ∧
      Statement.DeriveAll others rest ∧ symbols = body ++ rest ∧ statements = statement :: others
  | closed _ statement, symbols, statements =>
    ∃ others, Statement.DeriveAll others symbols ∧ statements = statement :: others
  | lost _, _, _ => False

theorem completes_closed_iff {line : Nat} {statement : Statement} {symbols : List Symbol}
    {statements : List Statement} :
    (closed line statement).Completes symbols statements ↔
      ∃ others, Statement.DeriveAll others symbols ∧ statements = statement :: others :=
  Iff.rfl

@[simp] theorem statements_enter (token : Token) : Event.statements (enter token).1 = [] := by
  rw [enter]
  split <;> rfl

/-- A derivation begins with the mark that opens a statement, and goes on inside of it. -/
theorem deriveAll_cons_iff {token : Token} {rest : List Symbol} {statements : List Statement} :
    Statement.DeriveAll statements (token.symbol :: rest) ↔
      Event.errors (enter token).1 = [] ∧ (enter token).2.Completes rest statements := by
  rw [enter]
  constructor
  · intro derived
    generalize whole : token.symbol :: rest = symbols at derived
    cases derived with
    | nil => cases whole
    | @cons statement others first later head tail =>
      obtain ⟨copula, joins, rfl⟩ := Statement.derives_iff.1 head
      obtain ⟨opens, rfl⟩ := List.cons.inj whole
      rw [if_pos opens]
      exact ⟨rfl, statement, _, others, later, Place.read_opened_iff.2 head, tail, rfl, rfl⟩
  · split
    · rename_i opens
      intro demand
      obtain ⟨-, statement, body, others, later, read, tail, rfl, rfl⟩ := demand
      rw [opens]
      exact .cons (Place.read_opened_iff.1 read) tail
    · intro demand
      obtain ⟨-, wanted⟩ := demand
      exact wanted.elim

/-- What an open statement wants is the next symbol and what the place behind it wants. -/
theorem completes_inside_cons_iff {line : Nat} {place : Place} {token : Token}
    {rest : List Symbol} {statements : List Statement} :
    (inside line place).Completes (token.symbol :: rest) statements ↔
      Event.errors (follow line place token).1 = [] ∧
        (follow line place token).2.Completes rest statements := by
  rw [follow]
  constructor
  · intro demand
    obtain ⟨statement, body, others, later, read, tail, split, rfl⟩ := demand
    cases body with
    | nil => cases read
    | cons symbol body =>
      obtain ⟨rfl, rfl⟩ := List.cons.inj split
      rw [Place.read] at read
      cases step : place.step token.symbol with
      | go next =>
        simp only [step] at read
        exact ⟨rfl, statement, body, others, later, read, tail, rfl, rfl⟩
      | close closed =>
        by_cases last : body = []
        · simp only [step, last, if_true] at read
          cases read
          rw [last]
          exact ⟨rfl, others, tail, rfl⟩
        · simp [step, last] at read
      | reject cause => simp [step] at read
  · split
    · rename_i next step
      intro demand
      obtain ⟨-, statement, body, others, later, read, tail, rfl, rfl⟩ := demand
      exact ⟨statement, token.symbol :: body, others, later,
        (Place.read_cons_of_go step).trans read, tail, rfl, rfl⟩
    · rename_i closed step
      intro demand
      obtain ⟨-, others, tail, rfl⟩ := demand
      exact ⟨closed, [token.symbol], others, rest, Place.read_singleton_of_close step, tail, rfl,
        rfl⟩
    · intro demand
      obtain ⟨wrong, -⟩ := demand
      simp [Event.error?] at wrong

@[simp] theorem statements_follow (line : Nat) (place : Place) (token : Token) :
    Event.statements (follow line place token).1 = [] := by
  rw [follow]
  split <;> rfl

/-- One symbol of a demand: it is no error, and the next phase wants the others. -/
theorem completes_cons_iff {phase : Phase} (onTrack : ¬phase.IsLost) {token : Token}
    {rest : List Symbol} {statements : List Statement} :
    phase.Completes (token.symbol :: rest) statements ↔
      Event.errors (phase.step (.token token)).1 = [] ∧
        ∃ more, statements = Event.statements (phase.step (.token token)).1 ++ more ∧
          (phase.step (.token token)).2.Completes rest more := by
  cases phase with
  | outside => simpa [Completes, step] using deriveAll_cons_iff
  | inside line place => simpa [step] using completes_inside_cons_iff
  | closed line statement =>
    have errors : Event.errors ((closed line statement).step (.token token)).1 =
        Event.errors (enter token).1 := by simp [step, Event.error?]
    have read : Event.statements ((closed line statement).step (.token token)).1 =
        [statement] := by simp [step, Event.statement?]
    rw [completes_closed_iff, errors, read]
    constructor
    · intro demand
      obtain ⟨others, derived, rfl⟩ := demand
      obtain ⟨fine, wanted⟩ := deriveAll_cons_iff.1 derived
      exact ⟨fine, others, rfl, wanted⟩
    · intro demand
      obtain ⟨fine, others, rfl, wanted⟩ := demand
      exact ⟨others, deriveAll_cons_iff.2 ⟨fine, wanted⟩, rfl⟩
  | lost since => exact absurd trivial onTrack

/-- A reading without error keeps the demand. -/
theorem completes_append_iff {phase final : Phase} {tokens : List Token}
    {read : List Statement} (reads : phase.Reads tokens read final) (onTrack : ¬phase.IsLost)
    {rest : List Symbol} {statements : List Statement} :
    phase.Completes (tokens.map Token.symbol ++ rest) statements ↔
      ∃ more, statements = read ++ more ∧ final.Completes rest more := by
  induction reads generalizing statements with
  | nil => simp
  | cons fine _ ih =>
    have later := @ih (not_isLost_step onTrack fine)
    rw [List.map_cons, List.cons_append, completes_cons_iff onTrack]
    constructor
    · intro demand
      obtain ⟨-, more, rfl, wanted⟩ := demand
      obtain ⟨others, rfl, further⟩ := later.1 wanted
      exact ⟨others, (List.append_assoc ..).symm, further⟩
    · intro demand
      obtain ⟨more, rfl, wanted⟩ := demand
      exact ⟨fine, _, List.append_assoc .., later.2 ⟨more, rfl, wanted⟩⟩

/-- A phase that wants nothing more is one at which a text may end. -/
theorem completes_nil_iff {phase : Phase} (onTrack : ¬phase.IsLost) (stop : Position)
    {statements : List Statement} :
    phase.Completes [] statements ↔
      Event.errors (phase.finish stop) = [] ∧
        statements = Event.statements (phase.finish stop) := by
  have empty {statements : List Statement} :
      Statement.DeriveAll statements [] ↔ statements = [] := by
    constructor
    · intro derived
      generalize whole : ([] : List Symbol) = symbols at derived
      cases derived with
      | nil => rfl
      | cons head =>
        obtain ⟨copula, joins, rfl⟩ := Statement.derives_iff.1 head
        cases whole
    · rintro rfl
      exact .nil
  cases phase with
  | outside => simp [Completes, finish, empty]
  | inside line place =>
    simp only [Completes, finish]
    constructor
    · intro demand
      obtain ⟨statement, body, others, rest, read, -, split, -⟩ := demand
      rw [(List.nil_eq_append_iff.1 split).1] at read
      cases read
    · intro demand
      obtain ⟨wrong, -⟩ := demand
      simp [Event.error?] at wrong
  | closed line statement => simp [Completes, finish, empty, Event.error?, Event.statement?]
  | lost since => exact absurd trivial onTrack

/-- A parse without error reads exactly what the phase wants. -/
theorem parse_iff_completes {phase : Phase} (onTrack : ¬phase.IsLost) (stop : Position)
    {items : List Item} {statements : List Statement} :
    Event.errors (phase.parse stop items).events = [] ∧
        Event.statements (phase.parse stop items).events = statements ↔
      ∃ tokens : List Token, items = tokens.map .token ∧
        phase.Completes (tokens.map Token.symbol) statements := by
  induction items generalizing phase statements with
  | nil =>
    constructor
    · intro accepted
      obtain ⟨errors, rfl⟩ := accepted
      exact ⟨[], rfl, (completes_nil_iff onTrack stop).2 ⟨errors, rfl⟩⟩
    · intro demand
      obtain ⟨tokens, none, wanted⟩ := demand
      cases tokens with
      | nil =>
        obtain ⟨errors, rfl⟩ := (completes_nil_iff onTrack stop).1 wanted
        exact ⟨errors, rfl⟩
      | cons first tokens => cases none
  | cons item rest ih =>
    by_cases fine : Event.errors (phase.step item).1 = []
    · obtain ⟨token, rfl⟩ := exists_token_of_errors_step fine
      have later := @ih _ (not_isLost_step onTrack fine)
      constructor
      · intro accepted
        obtain ⟨errors, rfl⟩ := accepted
        simp only [parse, fine, if_true, Event.errors_append, Item.errors_reading,
          List.nil_append] at errors
        obtain ⟨tokens, rfl, further⟩ := later.1 ⟨errors, rfl⟩
        refine ⟨token :: tokens, rfl, (completes_cons_iff onTrack).2 ⟨fine, _, ?_, further⟩⟩
        simp [parse, fine]
      · intro demand
        obtain ⟨tokens, split, wanted⟩ := demand
        cases tokens with
        | nil => cases split
        | cons first tokens =>
          obtain ⟨same, rfl⟩ := List.cons.inj split
          cases same
          obtain ⟨-, more, rfl, further⟩ := (completes_cons_iff onTrack).1 wanted
          obtain ⟨errors, read⟩ := later.2 ⟨tokens, rfl, further⟩
          simp [parse, fine, errors, read]
    · constructor
      · intro accepted
        obtain ⟨errors, -⟩ := accepted
        simp [parse, fine] at errors
      · intro demand
        obtain ⟨tokens, split, wanted⟩ := demand
        cases tokens with
        | nil => cases split
        | cons first tokens =>
          obtain ⟨rfl, -⟩ := List.cons.inj split
          exact absurd ((completes_cons_iff onTrack).1 wanted).1 fine

/-- Symbols that satisfy what a phase wants. -/
def closing : Phase → List Symbol
  | inside _ place => place.closing
  | _ => []

/-- From every phase but that of an error a definition can be completed. -/
theorem exists_completes_closing {phase : Phase} (onTrack : ¬phase.IsLost) :
    ∃ statements, phase.Completes phase.closing statements := by
  cases phase with
  | outside => exact ⟨[], .nil⟩
  | inside line place =>
    obtain ⟨statement, read⟩ := place.exists_read_closing
    exact ⟨[statement], statement, place.closing, [], [], read, .nil, by simp [closing], rfl⟩
  | closed line statement => exact ⟨[statement], [], .nil, rfl⟩
  | lost since => exact absurd trivial onTrack

end Phase

end Netlist

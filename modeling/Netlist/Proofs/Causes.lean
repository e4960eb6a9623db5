import Netlist.Proofs.Complaint
import Netlist.Proofs.EarliestError
import Netlist.Proofs.Survey

/-!
# What a syntax error says

The cause of a syntax error is a matter of the symbols that stand between the
last opening mark and the token at fault.  These symbols are the *window* of the
token (`Window`), and `Indicates` says by the grammar alone which cause a window
and the symbol behind it stand for.  A window that indicates no cause is that of
a statement which lacks only its closing mark (`Explains`).

The machine does not remember its window.  What it remembers is a place, and the
window behind its mark leads to it.  So a phase knows its window
(`Phase.HasRead`), and every step keeps this knowledge (`Phase.hasRead_step`),
also behind errors: a lost reader knows nothing until an opening mark begins a
new window.

The complaint of the place to which a window leads is the cause that the window
indicates (`Place.exists_reach_of_indicates`), and if none is indicated it is
that of the missing mark (`Place.indicates_complaint`).  Together with the errors
between statements and at the end of the text this is every syntax error that is
ever reported (`syntax_error_names_its_place`).
-/

namespace Netlist

/-! ## Windows -/

/-- The symbols from the last opening mark on, or all symbols if there is none. -/
inductive Window : List Symbol → List Symbol → Prop
  /-- There is no opening mark. -/
  | unopened {symbols : List Symbol} : .openParen ∉ symbols → Window symbols symbols
  /-- There is none behind this opening mark. -/
  | opened (earlier : List Symbol) {body : List Symbol} :
    .openParen ∉ body → Window (earlier ++ .openParen :: body) (.openParen :: body)

/-- Which cause the symbols since the last opening mark give to an error at the next symbol. -/
inductive Indicates : List Symbol → Symbol → SyntaxCause → Prop
  /-- Before all statements the next one has to begin. -/
  | first {symbol : Symbol} : Indicates [] symbol (.expected "'('")
  /-- Behind a complete statement the next one has to begin. -/
  | next {statement : Statement} {window : List Symbol} {symbol : Symbol} :
    statement.Derives window → Indicates window symbol (.expected "'('")
  /-- An opening mark is followed by the word for a sort of statement. -/
  | sort {symbol : Symbol} : Indicates [.openParen] symbol .unknownStatement
  /-- Such a word is followed by a name. -/
  | device {opener : Keyword} {symbol : Symbol} : opener ∈ [.device, .connect, .monitor] →
    Indicates [.openParen, .keyword opener] symbol (.expected "a device name")
  /-- The word between the ends of a connection is followed by a name. -/
  | destination {source : Terminal} {first : List Symbol} {symbol : Symbol} :
    source.Derives first →
    Indicates (.openParen :: .keyword .connect :: first ++ [.keyword .towards]) symbol
      (.expected "a device name")
  /-- Declared names are followed by a copula. -/
  | copula {names : NonemptyList String} {symbol : Symbol} :
    Indicates (.openParen :: .keyword .device :: names.toList.map .name) symbol .missingCopula
  /-- A copula is followed by a type. -/
  | type {names : NonemptyList String} {copula : Keyword} {symbol : Symbol} :
    copula = .is ∨ copula = .are →
    Indicates (.openParen :: .keyword .device :: names.toList.map .name ++ [.keyword copula])
      symbol .unknownDeviceType
  /-- Some types are followed by a number. -/
  | qualifier {names : NonemptyList String} {copula : Keyword} {type : DeviceType}
    {symbol : Symbol} : copula = .is ∨ copula = .are →
    type ∈ [.clock, .switch, .rc, .and, .nand, .or, .nor] →
    Indicates (.openParen :: .keyword .device :: names.toList.map .name
      ++ [.keyword copula, .keyword type.keyword]) symbol (.missingQualifier type)
  /-- The others are not. -/
  | noQualifier {names : NonemptyList String} {copula : Keyword} {type : DeviceType}
    {value : UInt32} : copula = .is ∨ copula = .are → type ∈ [.dtype, .xor, .not] →
    Indicates (.openParen :: .keyword .device :: names.toList.map .name
      ++ [.keyword copula, .keyword type.keyword]) (.number value) (.unexpectedQualifier type)
  /-- A dot is followed by the name of a pin. -/
  | pin {before : List Symbol} {symbol : Symbol} :
    Indicates (before ++ [.dot]) symbol .danglingDot
  /-- The source of a connection is followed by the word between its ends. -/
  | towards {source : Terminal} {first : List Symbol} {symbol : Symbol} :
    source.Derives first →
    Indicates (.openParen :: .keyword .connect :: first) symbol .missingTo

/-- The symbol of an item, if it is a token. -/
def Item.symbol? : Item → Option Symbol
  | token t => some t.symbol
  | fault _ => none

theorem Window.openParen (symbols : List Symbol) : Window (symbols ++ [.openParen]) [.openParen] :=
  .opened symbols (List.not_mem_nil)

theorem Window.concat {symbols window : List Symbol} {symbol : Symbol}
    (since : Window symbols window) (other : symbol ≠ .openParen) :
    Window (symbols ++ [symbol]) (window ++ [symbol]) := by
  cases since with
  | unopened none =>
    refine .unopened fun opens => ?_
    rcases List.mem_append.1 opens with earlier | last
    · exact none earlier
    · exact other (List.mem_singleton.1 last).symm
  | @opened earlier body none =>
    rw [List.append_assoc, List.cons_append]
    refine .opened earlier fun opens => ?_
    rcases List.mem_append.1 opens with inside | last
    · exact none inside
    · exact other (List.mem_singleton.1 last).symm

namespace Place

/-! ## What a window indicates -/

variable {place : Place} {symbol : Symbol} {body : List Symbol} {cause : SyntaxCause}

/-- What a window indicates, the place to which it leads complains about. -/
theorem exists_reach_of_indicates {window : List Symbol}
    (indicates : Indicates window symbol cause) :
    (cause = .expectedOpening ∧
        (window = [] ∨ ∃ statement : Statement, statement.Derives window)) ∨
      (cause = .danglingDot ∧ ∃ before, window = before ++ [.dot]) ∨
      ∃ body place, window = .openParen :: body ∧ opened.reach body = some place ∧
        cause = place.complaint symbol := by
  cases indicates with
  | first => exact .inl ⟨rfl, .inl rfl⟩
  | next derived => exact .inl ⟨rfl, .inr ⟨_, derived⟩⟩
  | sort => exact .inr (.inr ⟨[], opened, rfl, rfl, rfl⟩)
  | device listed =>
    simp only [List.mem_cons, List.not_mem_nil, or_false] at listed
    rcases listed with rfl | rfl | rfl
    · exact .inr (.inr ⟨_, declaring, rfl, rfl, rfl⟩)
    · exact .inr (.inr ⟨_, awaiting .source, rfl, rfl, rfl⟩)
    · exact .inr (.inr ⟨_, awaiting (.watched []), rfl, rfl, rfl⟩)
  | @destination source first _ derived =>
    refine .inr (.inr ⟨_, awaiting (.destination source), rfl, ?_, rfl⟩)
    cases derived <;> rfl
  | @copula names _ => exact .inr (.inr ⟨_, named names, rfl, reach_names names, rfl⟩)
  | @type names copula _ joins =>
    exact .inr (.inr ⟨_, joined names, rfl, reach_copula names joins, rfl⟩)
  | @qualifier names copula type _ joins listed =>
    refine .inr (.inr ⟨_, typed names type, rfl, reach_type names joins type, ?_⟩)
    simp [complaint, DeviceType.isQualified_iff.2 listed]
  | @noQualifier names copula type value joins listed =>
    refine .inr (.inr ⟨_, typed names type, rfl, reach_type names joins type, ?_⟩)
    simp [complaint, DeviceType.isQualified_eq_false_iff.2 listed, Symbol.value?]
  | @pin before _ => exact .inr (.inl ⟨rfl, before, rfl⟩)
  | @towards source first _ derived =>
    cases derived with
    | device name => exact .inr (.inr ⟨_, device .source name, rfl, rfl, rfl⟩)
    | pin name pin => exact .inr (.inr ⟨_, pinned .source name pin, rfl, rfl, rfl⟩)

/-- Symbols that lead to a place at which the statement can be closed lack only the closing mark. -/
theorem derives_of_symbols_eq {window : List Symbol} {copula : Keyword} {statement : Statement}
    (joins : copula.IsCopula) (same : window = place.symbols copula)
    (closes : place.step .closeParen = .close statement) :
    statement.Derives (window ++ [.closeParen]) := by
  rw [same, symbols_step_close closes copula]
  exact Statement.derives_iff.2 ⟨copula, joins, rfl⟩

/-- The complaint of the place to which a window leads is indicated by the window, unless it is the
one about the closing mark. -/
theorem indicates_complaint (reached : opened.reach body = some place) (symbol : Symbol) :
    Indicates (.openParen :: body) symbol (place.complaint symbol) ∨
      (place.complaint symbol = .expectedClosing ∧
        ∃ statement : Statement, statement.Derives (.openParen :: body ++ [.closeParen])) := by
  obtain ⟨copula, joins, window⟩ := symbols_of_reach reached (.inl rfl : Keyword.is.IsCopula)
  have window : .openParen :: body = place.symbols copula := window
  cases place with
  | opened =>
    rw [window]
    exact .inl .sort
  | declaring =>
    rw [window]
    exact .inl (.device (by decide))
  | named names =>
    rw [window]
    exact .inl .copula
  | joined names =>
    rw [window]
    exact .inl (.type joins)
  | typed names type =>
    by_cases qualified : type.isQualified = true
    · rw [window]
      simp only [complaint, qualified, if_true]
      exact .inl (.qualifier joins (DeviceType.isQualified_iff.1 qualified))
    · rw [Bool.not_eq_true] at qualified
      simp only [complaint, qualified]
      cases symbol with
      | number value =>
        rw [window]
        exact .inl (.noQualifier joins (DeviceType.isQualified_eq_false_iff.1 qualified))
      | _ =>
        refine .inr ⟨rfl, .device names ⟨type, none, qualified.symm⟩, ?_⟩
        refine derives_of_symbols_eq joins window ?_
        cases type with
        | dtype => rfl
        | xor => rfl
        | not => rfl
        | _ => cases qualified
  | complete statement => exact .inr ⟨rfl, _, derives_of_symbols_eq joins window rfl⟩
  | awaiting slot =>
    cases slot with
    | source =>
      rw [window]
      exact .inl (.device (by decide))
    | destination source =>
      rw [window]
      exact .inl (.destination (Terminal.derives_iff.2 rfl))
    | watched earlier =>
      obtain rfl := eq_nil_of_reach_watched reached
      rw [window]
      exact .inl (.device (by decide))
  | device slot name =>
    cases slot with
    | source =>
      rw [window]
      exact .inl (.towards (.device name))
    | destination source => exact .inr ⟨rfl, _, derives_of_symbols_eq joins window rfl⟩
    | watched earlier => exact .inr ⟨rfl, _, derives_of_symbols_eq joins window rfl⟩
  | dotted slot name =>
    have ends : slot.symbols ++ [.name name, .dot] = (slot.symbols ++ [.name name]) ++ [.dot] := by
      simp
    rw [window, symbols, ends]
    exact .inl .pin
  | pinned slot name pin =>
    cases slot with
    | source =>
      rw [window]
      exact .inl (.towards (.pin name pin))
    | destination source => exact .inr ⟨rfl, _, derives_of_symbols_eq joins window rfl⟩
    | watched earlier => exact .inr ⟨rfl, _, derives_of_symbols_eq joins window rfl⟩

end Place

/-! ## What a cause says -/

/-- The cause that a window gives to an error at the next symbol.  It is the one that is indicated,
and if none is, then the window is a statement that lacks only its closing mark. -/
structure Explains (window : List Symbol) (symbol : Symbol) (cause : SyntaxCause) : Prop where
  /-- What is indicated is the cause. -/
  indicated : ∀ {other : SyntaxCause}, Indicates window symbol other → cause = other
  /-- If nothing is indicated, the closing mark is missing. -/
  remaining : (¬∃ other, Indicates window symbol other) →
    cause = .expected "')'" ∧
      ∃ statement : Statement, statement.Derives (window ++ [.closeParen])

theorem getLast?_of_derives {statement : Statement} {window : List Symbol}
    (derived : statement.Derives window) : window.getLast? = some .closeParen := by
  obtain ⟨copula, -, rfl⟩ := Statement.derives_iff.1 derived
  exact List.getLast?_concat

theorem exists_read_of_derives {statement : Statement} {window : List Symbol}
    (derived : statement.Derives window) :
    ∃ body, window = .openParen :: body ∧ Place.opened.read body = some statement := by
  obtain ⟨copula, -, rfl⟩ := Statement.derives_iff.1 derived
  exact ⟨_, rfl, Place.read_opened_iff.2 derived⟩

/-- Before all statements and behind a complete one the next has to begin. -/
theorem explains_expectedOpening {window : List Symbol}
    (between : window = [] ∨ ∃ statement : Statement, statement.Derives window)
    (symbol : Symbol) : Explains window symbol .expectedOpening where
  indicated {other} indicates := by
    rcases Place.exists_reach_of_indicates indicates with
      ⟨same, -⟩ | ⟨-, before, ends⟩ | ⟨body, place, begins, reached, -⟩
    · exact same.symm
    · rcases between with rfl | ⟨statement, derived⟩
      · simp at ends
      · have closed := getLast?_of_derives derived
        rw [ends, List.getLast?_concat] at closed
        cases closed
    · rcases between with rfl | ⟨statement, derived⟩
      · cases begins
      · obtain ⟨inside, whole, completed⟩ := exists_read_of_derives derived
        obtain ⟨-, rfl⟩ := List.cons.inj (begins.symm.trans whole)
        rw [Place.reach_eq_none_of_read completed] at reached
        cases reached
  remaining unindicated := by
    rcases between with rfl | ⟨statement, derived⟩
    · exact absurd ⟨_, .first⟩ unindicated
    · exact absurd ⟨_, .next derived⟩ unindicated

/-- Inside of a statement the place to which the window leads complains. -/
theorem explains_complaint {body : List Symbol} {place : Place}
    (reached : Place.opened.reach body = some place) (symbol : Symbol) :
    Explains (.openParen :: body) symbol (place.complaint symbol) where
  indicated {other} indicates := by
    rcases Place.exists_reach_of_indicates indicates with
      ⟨-, nothing | ⟨statement, derived⟩⟩ | ⟨rfl, before, ends⟩ |
        ⟨inside, other, begins, leads, rfl⟩
    · cases nothing
    · obtain ⟨inside, whole, completed⟩ := exists_read_of_derives derived
      obtain ⟨-, rfl⟩ := List.cons.inj whole
      rw [Place.reach_eq_none_of_read completed] at reached
      cases reached
    · cases before with
      | nil => cases ends
      | cons first front =>
        obtain ⟨-, rfl⟩ := List.cons.inj ends
        obtain ⟨slot, name, rfl⟩ := Place.eq_dotted_of_reach reached
        rfl
    · obtain ⟨-, rfl⟩ := List.cons.inj begins
      rw [reached] at leads
      cases leads
      rfl
  remaining unindicated := by
    rcases Place.indicates_complaint reached symbol with indicates | ⟨closing, lacking⟩
    · exact absurd ⟨_, indicates⟩ unindicated
    · exact ⟨closing, lacking⟩

namespace Phase

/-! ## Phases know their window -/

/-- What a phase knows of the symbols since the last opening mark. -/
def HasRead : Phase → List Symbol → Prop
  | outside, window => window = []
  | inside _ place, window =>
    ∃ body, window = .openParen :: body ∧ Place.opened.reach body = some place
  | closed _ statement, window => statement.Derives window
  | lost _, _ => True

variable {phase : Phase} {stop : Position} {item : Item} {items : List Item}
  {before window : List Symbol}

/-- An opening mark leads from every phase to the place behind it. -/
theorem step_openParen (phase : Phase) {token : Token} (opens : token.symbol = .openParen) :
    (phase.step (.token token)).2 = inside token.position.line .opened := by
  cases phase with
  | outside => simp [step, enter, opens]
  | inside line place =>
    obtain ⟨cause, rejected⟩ := place.step_openParen
    simp [step, follow, opens, rejected]
  | closed line statement => simp [step, enter, opens]
  | lost since => simp [step, search, opens]

/-- Another symbol makes the window longer. -/
theorem hasRead_step_concat (knows : phase.HasRead window) {token : Token}
    (other : token.symbol ≠ .openParen) :
    (phase.step (.token token)).2.HasRead (window ++ [token.symbol]) := by
  cases phase with
  | outside => simp [step, enter, other, HasRead]
  | inside line place =>
    obtain ⟨body, rfl, reached⟩ := knows
    simp only [step, follow]
    split
    · rename_i next moved
      refine ⟨body ++ [token.symbol], rfl, ?_⟩
      rw [Place.reach_append_of_eq_some reached, Place.reach_cons_of_go moved, Place.reach]
    · rename_i statement closes
      have completed : Place.opened.read (body ++ [token.symbol]) = some statement := by
        rw [Place.read_append_of_reach reached, Place.read_singleton_of_close closes]
      exact Place.read_opened_iff.1 completed
    · simp [other, HasRead]
  | closed line statement => simp [step, enter, other, HasRead]
  | lost since => simp [step, search, other, HasRead]

/-- A step keeps what a phase knows of its window. -/
theorem hasRead_step (knows : phase.HasRead window) (since : Window before window) (item : Item) :
    ∃ next, Window (before ++ item.symbol?.toList) next ∧ (phase.step item).2.HasRead next := by
  cases item with
  | fault error =>
    refine ⟨window, by simpa [Item.symbol?] using since, ?_⟩
    cases phase <;> exact trivial
  | token token =>
    by_cases opens : token.symbol = .openParen
    · refine ⟨[.openParen], ?_, ?_⟩
      · show Window (before ++ [token.symbol]) _
        rw [opens]
        exact .openParen before
      · rw [step_openParen phase opens]
        exact ⟨[], rfl, rfl⟩
    · exact ⟨_, since.concat opens, hasRead_step_concat knows opens⟩

/-- So do all steps. -/
theorem hasRead_after (knows : phase.HasRead window) (since : Window before window)
    (items : List Item) :
    ∃ next, Window (before ++ items.filterMap Item.symbol?) next ∧
      (phase.after items).HasRead next := by
  induction items generalizing phase before window with
  | nil => exact ⟨window, by simpa using since, knows⟩
  | cons item rest ih =>
    obtain ⟨middle, middleSince, middleKnows⟩ := hasRead_step knows since item
    obtain ⟨next, nextSince, nextKnows⟩ := ih middleKnows middleSince
    refine ⟨next, ?_, nextKnows⟩
    rw [List.append_assoc] at nextSince
    cases read : item.symbol? <;> simpa [List.filterMap_cons, read] using nextSince

/-! ## The cause of an error -/

/-- The error that a token causes is explained by the window. -/
theorem explains_of_mem_step (knows : phase.HasRead window) {token : Token} {error : SyntaxError}
    (found : .syntactic error ∈ Event.errors (phase.step (.token token)).1) :
    Explains window token.symbol error.cause := by
  obtain ⟨cause, rejects, same⟩ := exists_rejects_of_mem_errors_step found
  cases same
  cases rejects with
  | outside => exact explains_expectedOpening (.inl knows) token.symbol
  | inside rejected =>
    obtain ⟨body, rfl, reached⟩ := knows
    rw [Place.eq_complaint_of_reject rejected]
    exact explains_complaint reached token.symbol
  | closed => exact explains_expectedOpening (.inr ⟨_, knows⟩) token.symbol

/-- An error at the end of the text is that a statement is open. -/
theorem eq_unterminated_of_mem_finish {error : Diagnostic}
    (found : error ∈ Event.errors (phase.finish stop)) :
    error = .misplaced stop "" .unterminated := by
  cases phase with
  | inside line place => exact List.mem_singleton.1 found
  | _ => cases found

end Phase

/-- Every syntax error names the position in the grammar that failed.  At the end of the text a
statement is open.  At a token the cause is the one to which the symbols since the last opening mark
lead. -/
theorem syntax_error_names_its_place (config : Config) (text : String) (error : SyntaxError)
    (reported : parse config text = .error (.syntactic error) ∨
      .syntactic error ∈ check config text) :
    ∃ (before behind : List Item) (window : List Symbol),
      (Cursor.ofText text).items config.comments = before ++ behind ∧
      Window (before.filterMap Item.symbol?) window ∧
      ((behind = [] ∧ error.position = (Cursor.ofText text).stop ∧
          error.cause = .unterminated) ∨
        ∃ token later, behind = .token token :: later ∧ error.position = token.position ∧
          Explains window token.symbol error.cause) := by
  obtain ⟨before, behind, split, found⟩ :=
    Phase.exists_react_of_mem_survey (mem_survey_of_reported reported)
  have nothing : Phase.outside.HasRead [] := rfl
  obtain ⟨window, since, knows⟩ :=
    Phase.hasRead_after nothing (.unopened List.not_mem_nil) before
  refine ⟨before, behind, window, split, since, ?_⟩
  have stands := Phase.position_of_mem_errors_react found
  rcases behind with _ | ⟨token | fault, later⟩
  · cases Phase.eq_unterminated_of_mem_finish found
    exact .inl ⟨rfl, rfl, rfl⟩
  · exact .inr ⟨token, later, rfl, stands, Phase.explains_of_mem_step knows found⟩
  · rw [Phase.react, Phase.events_step_fault] at found
    cases List.mem_singleton.1 found

/-- The number behind a type that takes none, in a statement behind a broken one. -/
theorem syntax_error_names_its_place_recovered :
    .syntactic (.make ⟨33, 2, 18⟩ "2" (.unexpectedQualifier .xor)) ∈
        check .default "(CONNECT , 007)\n(DEVICE g is XOR 2)" ∧
      ∃ (before behind : List Item) (window : List Symbol),
        (Cursor.ofText "(CONNECT , 007)\n(DEVICE g is XOR 2)").items true = before ++ behind ∧
        Window (before.filterMap Item.symbol?) window ∧
        ((behind = [] ∧ (⟨33, 2, 18⟩ : Position) =
            (Cursor.ofText "(CONNECT , 007)\n(DEVICE g is XOR 2)").stop ∧
            SyntaxCause.unexpectedQualifier .xor = .unterminated) ∨
          ∃ token later, behind = .token token :: later ∧ ⟨33, 2, 18⟩ = token.position ∧
            Explains window token.symbol (.unexpectedQualifier .xor)) := by
  have reported : .syntactic (.make ⟨33, 2, 18⟩ "2" (.unexpectedQualifier .xor)) ∈
      check .default "(CONNECT , 007)\n(DEVICE g is XOR 2)" := by decide +kernel
  exact ⟨reported, syntax_error_names_its_place _ _ _ (.inr reported)⟩

end Netlist

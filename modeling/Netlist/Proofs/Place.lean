import Netlist.Place
import Netlist.Proofs.Derivation

/-!
# Reading a statement follows the grammar

`Place.symbols` says with which symbols a place is reached, and `Place.read`
lets a place read symbols to the end of the statement.  The two are tied by one
step: a symbol that a place accepts is the next one of the place it leads to
(`symbols_step_go`), or the last one of the statement it closes
(`symbols_step_close`).  By induction a place reads only what completes a
derivation (`symbols_of_read`).

The converse runs the machine along the derivation of each sort of statement.
Together they say that the machine reads exactly the derivations
(`read_opened_iff`).  No place is a dead end: the symbols `Place.closing` lead
from it to the end of a statement.
-/

namespace Netlist

/-! ## What has been read at a place -/

/-- The symbols before a terminal. -/
def Slot.symbols : Slot → List Symbol
  | source => [.openParen, .keyword .connect]
  | destination first => .openParen :: .keyword .connect :: first.symbols ++ [.keyword .towards]
  | watched earlier => .openParen :: .keyword .monitor :: earlier.flatMap Terminal.symbols

namespace Place

/-- The symbols by which a place is reached. -/
def symbols (copula : Keyword) : Place → List Symbol
  | opened => [.openParen]
  | declaring => [.openParen, .keyword .device]
  | named names => .openParen :: .keyword .device :: names.toList.map .name
  | joined names => .openParen :: .keyword .device :: names.toList.map .name ++ [.keyword copula]
  | typed names type =>
    .openParen :: .keyword .device :: names.toList.map .name
      ++ [.keyword copula, .keyword type.keyword]
  | complete statement => .openParen :: statement.bodySymbols copula
  | awaiting slot => slot.symbols
  | device slot name => slot.symbols ++ [.name name]
  | dotted slot name => slot.symbols ++ [.name name, .dot]
  | pinned slot name pin => slot.symbols ++ [.name name, .dot, .name pin]

/-- The statement that a place reads from symbols, if they complete one and end with it. -/
def read (place : Place) : List Symbol → Option Statement
  | [] => none
  | symbol :: rest =>
    match place.step symbol with
    | .go next => next.read rest
    | .close statement => if rest = [] then some statement else none
    | .reject _ => none

/-! ## One step -/

/-- Only the closing mark ends a statement, and no other symbol goes on. -/
theorem finish_eq_close_iff {statement closed : Statement} {symbol : Symbol} :
    finish statement symbol = .close closed ↔ symbol = .closeParen ∧ statement = closed := by
  cases symbol <;> simp [finish]

theorem finish_ne_go {statement : Statement} {symbol : Symbol} {next : Place} :
    finish statement symbol ≠ .go next := by
  cases symbol <;> simp [finish]

/-- A symbol accepted behind a terminal is the next one. -/
theorem symbols_afterTerminal_go {slot : Slot} {terminal : Terminal} {symbol : Symbol}
    {next : Place} (step : afterTerminal slot terminal symbol = .go next) (copula : Keyword) :
    slot.symbols ++ terminal.symbols ++ [symbol] = next.symbols copula := by
  cases slot with
  | source =>
    simp only [afterTerminal] at step
    split at step
    · rename_i joins
      cases step
      simp [joins, symbols, Slot.symbols]
    · cases step
  | destination source => exact absurd step finish_ne_go
  | watched earlier =>
    cases symbol with
    | name word =>
      cases step
      simp [symbols, Slot.symbols]
    | _ => cases step

/-- A symbol that closes a statement behind a terminal is the last one. -/
theorem symbols_afterTerminal_close {slot : Slot} {terminal : Terminal} {symbol : Symbol}
    {statement : Statement} (step : afterTerminal slot terminal symbol = .close statement)
    (copula : Keyword) :
    slot.symbols ++ terminal.symbols ++ [symbol] = statement.symbols copula := by
  cases slot with
  | source => simp only [afterTerminal] at step; split at step <;> cases step
  | destination first =>
    obtain ⟨rfl, rfl⟩ := finish_eq_close_iff.1 step
    simp [Statement.symbols, Statement.bodySymbols_connect, Slot.symbols]
  | watched earlier =>
    cases symbol with
    | closeParen =>
      cases step
      simp [Statement.symbols, Statement.bodySymbols_monitor, Slot.symbols]
    | _ => cases step

/-- A symbol accepted behind a type is its number. -/
theorem symbols_afterType_go {names : NonemptyList String} {type : DeviceType} {symbol : Symbol}
    {next : Place} (step : afterType names type symbol = .go next) (copula : Keyword) :
    (typed names type).symbols copula ++ [symbol] = next.symbols copula := by
  rw [afterType] at step
  split at step
  · cases step
  · cases step
  · rename_i kind made
    obtain ⟨rfl, given⟩ := DeviceKind.make_eq_ok_iff.1 made
    split at step
    · cases step
      cases symbol with
      | number value =>
        simp [symbols, Statement.bodySymbols_device, DeviceKind.symbols, given, Symbol.value?]
      | _ => simp_all [Symbol.value?]
    · exact absurd step finish_ne_go

/-- A symbol that closes a statement behind a type is the last one. -/
theorem symbols_afterType_close {names : NonemptyList String} {type : DeviceType}
    {symbol : Symbol} {statement : Statement}
    (step : afterType names type symbol = .close statement) (copula : Keyword) :
    (typed names type).symbols copula ++ [symbol] = statement.symbols copula := by
  rw [afterType] at step
  split at step
  · cases step
  · cases step
  · rename_i kind made
    obtain ⟨rfl, given⟩ := DeviceKind.make_eq_ok_iff.1 made
    split at step
    · cases step
    · obtain ⟨rfl, rfl⟩ := finish_eq_close_iff.1 step
      simp [symbols, Statement.symbols, Statement.bodySymbols_device, DeviceKind.symbols, given,
        Symbol.value?]

theorem type?_eq_some {symbol : Symbol} {type : DeviceType} (known : symbol.type? = some type) :
    symbol = .keyword type.keyword := by
  cases symbol with
  | keyword word => rw [DeviceType.ofKeyword?_eq_some_iff.1 known]
  | _ => cases known

/-- A symbol that a place accepts is the next one.  It chooses the copula if it is one. -/
theorem symbols_step_go {place next : Place} {symbol : Symbol} (step : place.step symbol = .go next)
    {copula : Keyword} (joins : copula.IsCopula) :
    ∃ chosen : Keyword, chosen.IsCopula ∧
      place.symbols copula ++ [symbol] = next.symbols chosen := by
  cases place with
  | opened =>
    cases symbol with
    | keyword word => cases word <;> cases step <;> exact ⟨copula, joins, rfl⟩
    | _ => cases step
  | declaring =>
    cases symbol with
    | name word =>
      cases step
      exact ⟨copula, joins, rfl⟩
    | _ => cases step
  | named names =>
    cases symbol with
    | name word =>
      cases step
      exact ⟨copula, joins, by simp [symbols]⟩
    | keyword word =>
      cases word <;> cases step
      · exact ⟨.is, .inl rfl, by simp [symbols]⟩
      · exact ⟨.are, .inr rfl, by simp [symbols]⟩
    | _ => cases step
  | joined names =>
    simp only [Place.step] at step
    split at step
    · rename_i type known
      cases step
      exact ⟨copula, joins, by simp [symbols, type?_eq_some known]⟩
    · cases step
  | typed names type => exact ⟨copula, joins, symbols_afterType_go step copula⟩
  | complete statement => exact absurd step finish_ne_go
  | awaiting slot =>
    cases symbol with
    | name word =>
      cases step
      exact ⟨copula, joins, rfl⟩
    | _ => cases step
  | device slot name =>
    cases symbol with
    | dot =>
      cases step
      exact ⟨copula, joins, by simp [symbols]⟩
    | _ => exact ⟨copula, joins, symbols_afterTerminal_go step copula⟩
  | dotted slot name =>
    cases symbol with
    | name word =>
      cases step
      exact ⟨copula, joins, by simp [symbols]⟩
    | _ => cases step
  | pinned slot name pin => exact ⟨copula, joins, symbols_afterTerminal_go step copula⟩

/-- A symbol that closes a statement is the last one. -/
theorem symbols_step_close {place : Place} {statement : Statement} {symbol : Symbol}
    (step : place.step symbol = .close statement) (copula : Keyword) :
    place.symbols copula ++ [symbol] = statement.symbols copula := by
  cases place with
  | opened =>
    cases symbol with
    | keyword word => cases word <;> cases step
    | _ => cases step
  | named names =>
    cases symbol with
    | keyword word => cases word <;> cases step
    | _ => cases step
  | joined names =>
    simp only [Place.step] at step
    split at step <;> cases step
  | typed names type => exact symbols_afterType_close step copula
  | complete statement =>
    obtain ⟨rfl, rfl⟩ := finish_eq_close_iff.1 step
    rfl
  | device slot name =>
    cases symbol with
    | dot => cases step
    | _ => exact symbols_afterTerminal_close step copula
  | pinned slot name pin => exact symbols_afterTerminal_close step copula
  | declaring => cases symbol <;> cases step
  | awaiting slot => cases symbol <;> cases step
  | dotted slot name => cases symbol <;> cases step

/-! ## Reading to the end of a statement -/

/-- Reading goes on as the step says. -/
theorem read_cons_of_go {place next : Place} {symbol : Symbol} {rest : List Symbol}
    (step : place.step symbol = .go next) : place.read (symbol :: rest) = next.read rest := by
  rw [read, step]

theorem read_singleton_of_close {place : Place} {symbol : Symbol} {statement : Statement}
    (step : place.step symbol = .close statement) : place.read [symbol] = some statement := by
  simp [read, step]

/-- What a place reads completes a derivation that begins as the place was reached. -/
theorem symbols_of_read {place : Place} {body : List Symbol} {statement : Statement}
    (completed : place.read body = some statement) {copula : Keyword} (joins : copula.IsCopula) :
    ∃ chosen : Keyword, chosen.IsCopula ∧
      place.symbols copula ++ body = statement.symbols chosen := by
  induction body generalizing place copula with
  | nil => cases completed
  | cons symbol rest ih =>
    simp only [read] at completed
    split at completed
    · rename_i next step
      obtain ⟨kept, keptJoins, moved⟩ := symbols_step_go step joins
      obtain ⟨chosen, chosenJoins, whole⟩ := ih completed keptJoins
      refine ⟨chosen, chosenJoins, ?_⟩
      rw [← whole, ← moved, List.append_assoc, List.singleton_append]
    · rename_i closed step
      split at completed
      · rename_i last
        cases completed
        rw [last]
        exact ⟨copula, joins, symbols_step_close step copula⟩
      · cases completed
    · cases completed

/-- Names are read one after the other. -/
theorem read_named (names : NonemptyList String) (more : List String) (rest : List Symbol) :
    (named names).read (more.map .name ++ rest) =
      (named ⟨names.head, names.tail ++ more⟩).read rest := by
  induction more generalizing names with
  | nil => simp
  | cons name others ih =>
    have pushed : (named names).step (.name name) = .go (named (names.push name)) := rfl
    rw [List.map_cons, List.cons_append, read_cons_of_go pushed, ih]
    simp [NonemptyList.push]

/-- A kind is read to the end of its declaration. -/
theorem read_joined (names : NonemptyList String) (kind : DeviceKind) :
    (joined names).read (kind.symbols ++ [.closeParen]) = some (.device names kind) := by
  have known : (joined names).step (.keyword kind.type.keyword) = .go (typed names kind.type) := by
    simp [step, Symbol.type?]
  have made : DeviceKind.make kind.type kind.qualifier = .ok kind :=
    DeviceKind.make_eq_ok_iff.2 ⟨rfl, rfl⟩
  rw [DeviceKind.symbols, List.cons_append, read_cons_of_go known]
  cases given : kind.qualifier with
  | none =>
    rw [given] at made
    apply read_singleton_of_close
    simp [step, afterType, Symbol.value?, made, given, finish]
  | some n =>
    rw [given] at made
    have counted : (typed names kind.type).step (.number n) =
        .go (complete (.device names kind)) := by
      simp [step, afterType, Symbol.value?, made, given]
    exact (read_cons_of_go counted).trans (read_singleton_of_close rfl)

/-- A terminal is read up to the symbol behind it. -/
theorem read_awaiting {slot : Slot} {terminal : Terminal} {symbol : Symbol} {next : Place}
    (behind : afterTerminal slot terminal symbol = .go next) (rest : List Symbol) :
    (awaiting slot).read (terminal.symbols ++ symbol :: rest) = next.read rest := by
  obtain ⟨name, pin⟩ := terminal
  cases pin with
  | none =>
    have notDot : symbol ≠ .dot := by
      rintro rfl
      cases slot <;> cases behind
    have onward : (device slot name).step symbol = .go next := by
      rw [← behind]
      cases symbol with
      | dot => exact absurd rfl notDot
      | _ => rfl
    exact (read_cons_of_go rfl).trans (read_cons_of_go onward)
  | some pin =>
    have onward : (pinned slot name pin).step symbol = .go next := behind
    exact (read_cons_of_go rfl).trans <| (read_cons_of_go rfl).trans <|
      (read_cons_of_go rfl).trans (read_cons_of_go onward)

/-- A last terminal is read to the end of the statement. -/
theorem read_awaiting_last {slot : Slot} {terminal : Terminal} {statement : Statement}
    (behind : afterTerminal slot terminal .closeParen = .close statement) :
    (awaiting slot).read (terminal.symbols ++ [.closeParen]) = some statement := by
  obtain ⟨name, pin⟩ := terminal
  cases pin with
  | none =>
    have last : (device slot name).step .closeParen = .close statement := behind
    exact (read_cons_of_go rfl).trans (read_singleton_of_close last)
  | some pin =>
    have last : (pinned slot name pin).step .closeParen = .close statement := behind
    exact (read_cons_of_go rfl).trans <| (read_cons_of_go rfl).trans <|
      (read_cons_of_go rfl).trans (read_singleton_of_close last)

/-- Watched terminals are read to the end of the statement. -/
theorem read_watched {earlier others : List Terminal} {terminal : Terminal}
    {terminals : NonemptyList Terminal} (all : terminals.toList = earlier ++ terminal :: others) :
    (awaiting (.watched earlier)).read
      ((terminal :: others).flatMap Terminal.symbols ++ [.closeParen]) =
        some (.monitor terminals) := by
  induction others generalizing earlier terminal with
  | nil =>
    have same : terminals = .concat earlier terminal :=
      NonemptyList.toList_injective (by simpa using all)
    rw [List.flatMap_singleton, same]
    exact read_awaiting_last rfl
  | cons next others ih =>
    -- the name that begins the next terminal is also what ends this one
    obtain ⟨more, begins⟩ : ∃ more, next.symbols = .name next.device :: more := by
      obtain ⟨name, pin⟩ := next
      cases pin <;> exact ⟨_, rfl⟩
    have same : terminals.toList = (earlier ++ [terminal]) ++ next :: others := by simpa using all
    have later := ih same
    simp only [List.flatMap_cons, begins, List.append_assoc, List.cons_append] at later ⊢
    rw [read_awaiting rfl, ← later]
    exact (read_cons_of_go rfl).symm

/-- A statement is read from its symbols. -/
theorem read_bodySymbols {copula : Keyword} (joins : copula.IsCopula) (statement : Statement) :
    opened.read (statement.bodySymbols copula ++ [.closeParen]) = some statement := by
  cases statement with
  | device names kind =>
    have joined : (named names).step (.keyword copula) = .go (joined names) := by
      obtain rfl | rfl := joins <;> rfl
    rw [Statement.bodySymbols_device]
    simp only [List.append_assoc, List.cons_append]
    refine (read_cons_of_go rfl).trans ((read_cons_of_go rfl).trans ?_)
    refine (read_named (.singleton names.head) names.tail _).trans ?_
    exact (read_cons_of_go joined).trans (read_joined names kind)
  | connect source destination =>
    rw [Statement.bodySymbols_connect]
    simp only [List.append_assoc, List.cons_append]
    refine (read_cons_of_go rfl).trans ((read_awaiting rfl _).trans ?_)
    exact read_awaiting_last rfl
  | monitor terminals =>
    rw [Statement.bodySymbols_monitor]
    exact (read_cons_of_go rfl).trans (read_watched rfl)

/-- Behind its opening mark a statement is read exactly from its derivations. -/
theorem read_opened_iff {body : List Symbol} {statement : Statement} :
    opened.read body = some statement ↔ statement.Derives (.openParen :: body) := by
  rw [Statement.derives_iff]
  constructor
  · intro completed
    exact symbols_of_read completed (.inl rfl : Keyword.is.IsCopula)
  · intro derivable
    obtain ⟨copula, joins, same⟩ := derivable
    obtain rfl : body = statement.bodySymbols copula ++ [.closeParen] := by
      simpa [Statement.symbols] using same
    exact read_bodySymbols joins statement

/-! ## No place is a dead end -/

/-- Symbols behind a terminal that lead to the end of a statement. -/
def closingSlot : Slot → List Symbol
  | .source => [.keyword .towards, .name "a", .closeParen]
  | _ => [.closeParen]

/-- Symbols that lead from a place to the end of a statement. -/
def closing : Place → List Symbol
  | opened => [.keyword .monitor, .name "a", .closeParen]
  | declaring => [.name "a", .keyword .is, .keyword .not, .closeParen]
  | named _ => [.keyword .is, .keyword .not, .closeParen]
  | joined _ => [.keyword .not, .closeParen]
  | typed _ type => if type.isQualified then [.number 0, .closeParen] else [.closeParen]
  | complete _ => [.closeParen]
  | awaiting slot | dotted slot _ => .name "a" :: closingSlot slot
  | device slot _ | pinned slot _ _ => closingSlot slot

theorem exists_read_closing (place : Place) :
    ∃ statement, place.read place.closing = some statement := by
  cases place with
  | typed names type => cases type <;> exact ⟨_, rfl⟩
  | awaiting slot => cases slot <;> exact ⟨_, rfl⟩
  | device slot name => cases slot <;> exact ⟨_, rfl⟩
  | dotted slot name => cases slot <;> exact ⟨_, rfl⟩
  | pinned slot name pin => cases slot <;> exact ⟨_, rfl⟩
  | _ => exact ⟨_, rfl⟩

end Place

end Netlist

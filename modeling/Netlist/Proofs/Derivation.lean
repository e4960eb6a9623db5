import Netlist.Grammar

/-!
# The symbols of a statement

The grammar leaves one choice free, the word between the declared names and
their kind.  So a terminal, a kind and a list of terminals have one derivation
each, and a statement has one for each *copula*.  `Statement.symbols` is that
derivation, put together from *pieces*: the symbols that stand in one word of
the canonical text.  `Statement.derives_iff` says that there is no other.
-/

namespace Netlist

/-! ## The symbols of a statement -/

/-- A word between declared names and their kind. -/
def Keyword.IsCopula (keyword : Keyword) : Prop := keyword = .is ∨ keyword = .are

/-- The symbols of a terminal. -/
def Terminal.symbols (terminal : Terminal) : List Symbol :=
  match terminal.pin with
  | none => [.name terminal.device]
  | some pin => [.name terminal.device, .dot, .name pin]

/-- The symbols of a kind. -/
def DeviceKind.symbols (kind : DeviceKind) : List Symbol :=
  .keyword kind.type.keyword :: (kind.qualifier.map .number).toList

namespace Statement

/-- The symbols between the parentheses of a statement, as they stand in words. -/
def pieces (copula : Keyword) : Statement → List (List Symbol)
  | device names kind =>
    [.keyword .device] :: names.toList.map (fun name => [.name name])
      ++ [.keyword copula] :: kind.symbols.map fun symbol => [symbol]
  | connect source destination =>
    [[.keyword .connect], source.symbols, [.keyword .towards], destination.symbols]
  | monitor terminals => [.keyword .monitor] :: terminals.toList.map Terminal.symbols

/-- The symbols between the parentheses of a statement. -/
def bodySymbols (copula : Keyword) (statement : Statement) : List Symbol :=
  (statement.pieces copula).flatten

/-- The symbols of a statement. -/
def symbols (copula : Keyword) (statement : Statement) : List Symbol :=
  .openParen :: statement.bodySymbols copula ++ [.closeParen]

end Statement

/-! ## Derivations are unique up to the copula -/

theorem Terminal.derives_iff {terminal : Terminal} {symbols : List Symbol} :
    terminal.Derives symbols ↔ symbols = terminal.symbols := by
  constructor
  · intro derived
    cases derived <;> rfl
  · rintro rfl
    obtain ⟨device, pin⟩ := terminal
    cases pin with
    | none => exact .device device
    | some pin => exact .pin device pin

theorem Terminal.deriveAll_iff {terminals : List Terminal} {symbols : List Symbol} :
    Terminal.DeriveAll terminals symbols ↔ symbols = terminals.flatMap Terminal.symbols := by
  constructor
  · intro derived
    induction derived with
    | nil => rfl
    | cons first _ ih => rw [List.flatMap_cons, ← ih, Terminal.derives_iff.1 first]
  · rintro rfl
    induction terminals with
    | nil => exact .nil
    | cons terminal others ih => exact .cons (Terminal.derives_iff.2 rfl) ih

theorem DeviceKind.derives_iff {kind : DeviceKind} {symbols : List Symbol} :
    kind.Derives symbols ↔ symbols = kind.symbols := by
  obtain ⟨type, qualifier, fits⟩ := kind
  constructor
  · intro derived
    cases derived with
    | plain unqualified =>
      have absent : qualifier = none := by simpa [unqualified] using fits
      simp [DeviceKind.symbols, absent]
    | qualified _ given =>
      have given : qualifier = some _ := given
      simp [DeviceKind.symbols, given]
  · rintro rfl
    cases qualifier with
    | none => exact .plain fits.symm
    | some n => exact .qualified fits.symm rfl

/-- Words of one symbol each, one after the other. -/
theorem flatten_map_singleton {α : Type} (f : α → Symbol) (xs : List α) :
    (xs.map fun x => [f x]).flatten = xs.map f := by
  rw [← List.flatMap_def, List.map_eq_flatMap]

theorem Statement.bodySymbols_device (copula : Keyword) (names : NonemptyList String)
    (kind : DeviceKind) :
    (Statement.device names kind).bodySymbols copula =
      .keyword .device :: names.toList.map .name ++ .keyword copula :: kind.symbols := by
  have plain := flatten_map_singleton id kind.symbols
  simp only [id_eq, List.map_id_fun] at plain
  simp [bodySymbols, pieces, flatten_map_singleton, plain]

theorem Statement.bodySymbols_connect (copula : Keyword) (source destination : Terminal) :
    (Statement.connect source destination).bodySymbols copula =
      .keyword .connect :: source.symbols ++ .keyword .towards :: destination.symbols := by
  simp [bodySymbols, pieces]

theorem Statement.bodySymbols_monitor (copula : Keyword) (terminals : NonemptyList Terminal) :
    (Statement.monitor terminals).bodySymbols copula =
      .keyword .monitor :: terminals.toList.flatMap Terminal.symbols := by
  simp [bodySymbols, pieces, List.flatMap_def]

theorem Statement.derivesBody_iff {statement : Statement} {body : List Symbol} :
    statement.DerivesBody body ↔
      ∃ copula : Keyword, copula.IsCopula ∧ body = statement.bodySymbols copula := by
  constructor
  · intro derived
    cases derived with
    | @device names copula kind type joins derivedKind =>
      refine ⟨copula, joins, ?_⟩
      rw [DeviceKind.derives_iff.1 derivedKind, bodySymbols_device]
    | connect first second =>
      refine ⟨.is, .inl rfl, ?_⟩
      rw [Terminal.derives_iff.1 first, Terminal.derives_iff.1 second, bodySymbols_connect]
    | monitor watched =>
      refine ⟨.is, .inl rfl, ?_⟩
      rw [Terminal.deriveAll_iff.1 watched, bodySymbols_monitor]
  · intro derivable
    obtain ⟨copula, joins, rfl⟩ := derivable
    cases statement with
    | device names kind =>
      rw [bodySymbols_device]
      exact .device joins (DeviceKind.derives_iff.2 rfl)
    | connect source destination =>
      rw [bodySymbols_connect]
      exact .connect (Terminal.derives_iff.2 rfl) (Terminal.derives_iff.2 rfl)
    | monitor terminals =>
      rw [bodySymbols_monitor]
      exact .monitor (Terminal.deriveAll_iff.2 rfl)

/-- A statement is derived by its symbols with either copula, and by nothing else. -/
theorem Statement.derives_iff {statement : Statement} {symbols : List Symbol} :
    statement.Derives symbols ↔
      ∃ copula : Keyword, copula.IsCopula ∧ symbols = statement.symbols copula := by
  constructor
  · intro derived
    obtain ⟨body⟩ := derived
    obtain ⟨copula, joins, rfl⟩ := Statement.derivesBody_iff.1 body
    exact ⟨copula, joins, rfl⟩
  · intro derivable
    obtain ⟨copula, joins, rfl⟩ := derivable
    exact .enclosed (Statement.derivesBody_iff.2 ⟨copula, joins, rfl⟩)

end Netlist

import Netlist.Proofs.Acceptance
import Netlist.Proofs.Spelling

/-!
# Canonical text reads back

The canonical text of a statement is its *pieces* with one space between them,
in parentheses.  A piece is a single symbol or a terminal, and either is read
back from its text if its names can be read (`spells_symbol`,
`spells_terminal`).  Hence the content of a canonical text is a derivation of
the definition (`exists_content_text`), and the reader accepts it.

Nothing else reads back.  Whatever the reader accepts has only names that can
be read (`isName_of_parse_eq_ok`), so a definition with any other name is not
what its own text says, nor what any text says.  `parse_text_iff` puts the two
together.
-/

namespace Netlist

/-! ## Canonical text as symbols -/

theorem Terminal.toList_text (terminal : Terminal) :
    terminal.text.toList = Symbol.spell terminal.symbols := by
  obtain ⟨device, pin⟩ := terminal
  cases pin <;> simp [text, symbols, Symbol.spell, Symbol.text]

theorem DeviceKind.map_toList_words (kind : DeviceKind) :
    kind.words.map String.toList = (kind.symbols.map fun symbol => [symbol]).map Symbol.spell := by
  obtain ⟨type, qualifier, fits⟩ := kind
  cases qualifier <;> simp [words, symbols, Symbol.spell, Symbol.text, DeviceType.spelling]

/-- The words of a statement are its pieces, with one of the copulas. -/
theorem Statement.exists_map_toList_words (statement : Statement) :
    ∃ copula : Keyword, copula.IsCopula ∧
      statement.words.map String.toList = (statement.pieces copula).map Symbol.spell := by
  cases statement with
  | device names kind =>
    have joins : (Statement.copula names).IsCopula := by
      rw [Statement.copula]
      split
      · exact .inl rfl
      · exact .inr rfl
    have spelled : names.toList.map String.toList =
        (names.toList.map fun name => [Symbol.name name]).map Symbol.spell := by
      simp [Symbol.spell, Symbol.text]
    refine ⟨_, joins, ?_⟩
    simp only [words, pieces, List.map_append, List.map_cons, spelled,
      DeviceKind.map_toList_words]
    simp [Symbol.spell, Symbol.text]
  | connect source destination =>
    refine ⟨.is, .inl rfl, ?_⟩
    simp [words, pieces, Terminal.toList_text, Symbol.spell, Symbol.text]
  | monitor terminals =>
    refine ⟨.is, .inl rfl, ?_⟩
    simp [words, pieces, Terminal.toList_text, Symbol.spell, Symbol.text]

/-! ## Statements with names that can be read -/

variable {comments : Bool}

theorem Lexeme.spells_terminal {terminal : Terminal}
    (named : ∀ name ∈ terminal.names, IsName name) :
    Spells comments (Symbol.spell terminal.symbols) terminal.symbols := by
  obtain ⟨device, pin⟩ := terminal
  have first : (Symbol.name device).IsReadable := named device (by simp [Terminal.names])
  cases pin with
  | none => exact spells_symbol first
  | some pin =>
    intro behind stops
    have second : (Symbol.name pin).IsReadable := named pin (by simp [Terminal.names])
    have spelled : Symbol.spell (Terminal.symbols ⟨device, some pin⟩) ++ behind =
        (Symbol.name device).text.toList ++
          '.' :: ((Symbol.name pin).text.toList ++ behind) := by
      simp [Symbol.spell, Terminal.symbols, Symbol.text]
    have dot : Symbol.ofMark? '.' = some .dot := rfl
    rw [spelled, content_text first fun _ => stops_mark dot _, content_mark dot,
      content_text second fun _ => stops]
    rfl

theorem Lexeme.spells_piece {statement : Statement} {copula : Keyword} {piece : List Symbol}
    (named : ∀ name ∈ statement.names, IsName name) (member : piece ∈ statement.pieces copula) :
    Spells comments (Symbol.spell piece) piece := by
  have reserved (word : Keyword) : (Symbol.keyword word).IsReadable := trivial
  cases statement with
  | device names kind =>
    simp only [Statement.pieces, List.mem_append, List.mem_cons, List.mem_map] at member
    obtain (rfl | ⟨name, declared, rfl⟩) | rfl | ⟨symbol, written, rfl⟩ := member
    · exact spells_symbol (reserved _)
    · exact spells_symbol (named name declared)
    · exact spells_symbol (reserved _)
    · apply spells_symbol
      simp only [DeviceKind.symbols, List.mem_cons, Option.mem_toList, Option.map_eq_some_iff]
        at written
      obtain rfl | ⟨n, -, rfl⟩ := written <;> trivial
  | connect source destination =>
    simp only [Statement.pieces, List.mem_cons, List.not_mem_nil, or_false] at member
    obtain rfl | rfl | rfl | rfl := member
    · exact spells_symbol (reserved _)
    · exact spells_terminal fun name h => named name (List.mem_append_left _ h)
    · exact spells_symbol (reserved _)
    · exact spells_terminal fun name h => named name (List.mem_append_right _ h)
  | monitor terminals =>
    simp only [Statement.pieces, List.mem_cons, List.mem_map] at member
    obtain rfl | ⟨terminal, watched, rfl⟩ := member
    · exact spells_symbol (reserved _)
    · exact spells_terminal fun name h => named name (List.mem_flatMap.2 ⟨terminal, watched, h⟩)

/-- The canonical text of a statement says a derivation of it. -/
theorem Statement.exists_content_text {statement : Statement}
    (named : ∀ name ∈ statement.names, IsName name) :
    ∃ symbols, statement.Derives symbols ∧ ∀ behind,
      Lexeme.content comments (statement.text.toList ++ behind) =
        symbols.map .symbol ++ Lexeme.content comments behind := by
  obtain ⟨copula, joins, written⟩ := statement.exists_map_toList_words
  refine ⟨_, Statement.derives_iff.2 ⟨copula, joins, rfl⟩, fun behind => ?_⟩
  have spells : Lexeme.Spells comments _ (statement.pieces copula).flatten :=
    Lexeme.spells_intercalate fun piece h => Lexeme.spells_piece named h
  have spelled : statement.text.toList ++ behind =
      '(' :: ([' '].intercalate ((statement.pieces copula).map Symbol.spell)
        ++ ')' :: behind) := by
    simp [Statement.text, written]
  have opening : Symbol.ofMark? '(' = some .openParen := rfl
  have closing : Symbol.ofMark? ')' = some .closeParen := rfl
  rw [spelled, Lexeme.content_mark opening, spells _ (Lexeme.stops_mark closing _),
    Lexeme.content_mark closing]
  simp [Statement.symbols, Statement.bodySymbols]

/-- The canonical text of a definition says a derivation of it. -/
theorem Definition.exists_content_text {definition : Definition}
    (named : ∀ statement ∈ definition.statements, ∀ name ∈ statement.names, IsName name) :
    ∃ symbols, definition.Derives symbols ∧
      Lexeme.content comments definition.text.toList = symbols.map .symbol := by
  obtain ⟨statements⟩ := definition
  induction statements with
  | nil => exact ⟨[], .nil, by simp [Definition.text, Definition.lines]⟩
  | cons statement others ih =>
    obtain ⟨first, derived, here⟩ := @Statement.exists_content_text comments statement
      (named statement (by simp))
    obtain ⟨rest, further, later⟩ := ih fun s h => named s (by simp [h])
    have spelled : (Definition.text ⟨statement :: others⟩).toList =
        statement.text.toList ++ '\n' :: (Definition.text ⟨others⟩).toList := by
      simp [Definition.text, Definition.lines]
    refine ⟨first ++ rest, .cons derived further, ?_⟩
    rw [spelled, here, Lexeme.content_blank (by decide), later, List.map_append]

/-! ## Names of a definition that was read -/

theorem Terminal.name_mem_symbols {terminal : Terminal} {name : String}
    (member : name ∈ terminal.names) : .name name ∈ terminal.symbols := by
  obtain ⟨device, pin⟩ := terminal
  cases pin <;> simp_all [Terminal.names, Terminal.symbols]

theorem Statement.name_mem_of_derives {statement : Statement} {symbols : List Symbol}
    (derived : statement.Derives symbols) {name : String} (member : name ∈ statement.names) :
    .name name ∈ symbols := by
  obtain ⟨copula, -, rfl⟩ := Statement.derives_iff.1 derived
  suffices .name name ∈ statement.bodySymbols copula by simp [Statement.symbols, this]
  cases statement with
  | device names kind =>
    rw [bodySymbols_device]
    have declared : name ∈ names.toList := member
    simp [declared]
  | connect source destination =>
    rw [bodySymbols_connect]
    rcases List.mem_append.1 member with first | second
    · simp [Terminal.name_mem_symbols first]
    · simp [Terminal.name_mem_symbols second]
  | monitor terminals =>
    rw [bodySymbols_monitor]
    obtain ⟨terminal, watched, named⟩ := List.mem_flatMap.1 member
    exact .tail _ (List.mem_flatMap.2 ⟨terminal, watched, Terminal.name_mem_symbols named⟩)

theorem Statement.name_mem_of_deriveAll {statements : List Statement} {symbols : List Symbol}
    (derived : Statement.DeriveAll statements symbols) {statement : Statement}
    (written : statement ∈ statements) {name : String} (member : name ∈ statement.names) :
    .name name ∈ symbols := by
  induction derived with
  | nil => cases written
  | cons first _ ih =>
    rcases List.mem_cons.1 written with rfl | later
    · exact List.mem_append_left _ (Statement.name_mem_of_derives first member)
    · exact List.mem_append_right _ (ih later)

/-- Every name in a definition that was read can be read. -/
theorem isName_of_parse_eq_ok {config : Config} {text : String} {definition : Definition}
    (accepted : parse config text = .ok definition) :
    ∀ statement ∈ definition.statements, ∀ name ∈ statement.names, IsName name := by
  intro statement written name member
  obtain ⟨symbols, said, derived⟩ := parse_eq_ok_iff_content.1 accepted
  have mentioned := Statement.name_mem_of_deriveAll derived written member
  have inText : .symbol (.name name) ∈ Lexeme.content config.comments text.toList := by
    rw [said]
    exact List.mem_map_of_mem mentioned
  exact Lexeme.isReadable_of_mem_content inText

/-- The canonical text of a definition is read back as the definition exactly if all of its names
can be read, whether comments are layout or not. -/
theorem parse_text_iff (config : Config) (definition : Definition) :
    parse config definition.text = .ok definition ↔
      ∀ statement ∈ definition.statements, ∀ name ∈ statement.names, IsName name := by
  constructor
  · exact isName_of_parse_eq_ok
  · intro named
    obtain ⟨symbols, derived, said⟩ := Definition.exists_content_text named
    exact parse_eq_ok_iff_content.2 ⟨symbols, said, derived⟩

end Netlist

import Netlist.Proofs.RoundTrip

/-!
# What a definition keeps of its text

Reading a text forgets its layout, and the choice between `is` and `are`.  It
forgets nothing else.  A token says a *word*, its symbol and its text, in which
`are` counts as `is`.  Two texts that are accepted hold the same definition
exactly if they say the same words (`definition_eq_iff_words`).

One direction is about the symbols of a definition.  With `is` for `are` there
is only one way to write it, `Definition.symbols`
(`Definition.map_uniform_of_derives`).  The other direction says that the
grammar is not ambiguous: where one terminal, statement or list of names ends
and the next begins is decided by the symbols alone.  It is not proved on the
grammar.  The machine that reads it has one move for each symbol, so it can
read only one definition (`Definition.derives_unique`).
-/

namespace Netlist

/-! ## Words -/

/-- A symbol, with `is` for `are`. -/
def Symbol.uniform : Symbol → Symbol
  | keyword .are => keyword .is
  | symbol => symbol

/-- What a token says: its symbol and its text, with `is` for `are`. -/
def Token.word (token : Token) : Symbol × String :=
  if token.symbol = .keyword .are then (.keyword .is, "is") else (token.symbol, token.text)

theorem Token.word_eq (token : Token) :
    token.word = (token.symbol.uniform, token.symbol.uniform.text) := by
  obtain ⟨symbol, position⟩ := token
  cases symbol with
  | keyword word => cases word <;> rfl
  | _ => rfl

theorem Token.map_word_eq_iff {tokens others : List Token} :
    tokens.map word = others.map word ↔
      (tokens.map symbol).map Symbol.uniform = (others.map symbol).map Symbol.uniform := by
  have words (tokens : List Token) : tokens.map word =
      ((tokens.map symbol).map Symbol.uniform).map fun symbol => (symbol, symbol.text) := by
    rw [List.map_map, List.map_map]
    exact List.map_congr_left fun token _ => token.word_eq
  rw [words, words, List.map_inj_right fun _ _ same => congrArg Prod.fst same]

/-! ## The symbols of a definition -/

/-- The symbols of a definition, with `is` for `are`. -/
def Definition.symbols (definition : Definition) : List Symbol :=
  definition.statements.flatMap (Statement.symbols .is)

theorem Terminal.map_uniform_symbols (terminal : Terminal) :
    terminal.symbols.map Symbol.uniform = terminal.symbols := by
  obtain ⟨device, pin⟩ := terminal
  cases pin <;> rfl

theorem DeviceKind.map_uniform_symbols (kind : DeviceKind) :
    kind.symbols.map Symbol.uniform = kind.symbols := by
  obtain ⟨type, qualifier, fits⟩ := kind
  cases qualifier <;> cases type <;> rfl

theorem Statement.map_uniform_bodySymbols {copula : Keyword} (joins : copula.IsCopula)
    (statement : Statement) :
    (statement.bodySymbols copula).map Symbol.uniform = statement.bodySymbols .is := by
  cases statement with
  | device names kind =>
    have joined : (Symbol.keyword copula).uniform = .keyword .is := by
      obtain rfl | rfl := joins <;> rfl
    have named : (names.toList.map Symbol.name).map Symbol.uniform = names.toList.map .name := by
      rw [List.map_map]
      rfl
    rw [bodySymbols_device, bodySymbols_device, List.map_append, List.map_cons, List.map_cons,
      joined, named, DeviceKind.map_uniform_symbols]
    rfl
  | connect source destination =>
    rw [bodySymbols_connect, bodySymbols_connect, List.map_append, List.map_cons, List.map_cons,
      Terminal.map_uniform_symbols, Terminal.map_uniform_symbols]
    rfl
  | monitor terminals =>
    have watched : (terminals.toList.flatMap Terminal.symbols).map Symbol.uniform =
        terminals.toList.flatMap Terminal.symbols := by
      rw [List.map_flatMap, funext Terminal.map_uniform_symbols]
    rw [bodySymbols_monitor, bodySymbols_monitor, List.map_cons, watched]
    rfl

theorem Statement.map_uniform_symbols {copula : Keyword} (joins : copula.IsCopula)
    (statement : Statement) :
    (statement.symbols copula).map Symbol.uniform = statement.symbols .is := by
  rw [symbols, symbols, List.map_append, List.map_cons, map_uniform_bodySymbols joins]
  rfl

/-- With `is` for `are`, a definition is derived by its symbols and by nothing else. -/
theorem Definition.map_uniform_of_derives {definition : Definition} {symbols : List Symbol}
    (derived : definition.Derives symbols) : symbols.map Symbol.uniform = definition.symbols := by
  obtain ⟨statements⟩ := definition
  replace derived : Statement.DeriveAll statements symbols := derived
  induction derived with
  | nil => rfl
  | cons first _ ih =>
    obtain ⟨copula, joins, rfl⟩ := Statement.derives_iff.1 first
    rw [List.map_append, ih, Statement.map_uniform_symbols joins]
    rfl

theorem Definition.derives_symbols (definition : Definition) :
    definition.Derives definition.symbols := by
  obtain ⟨statements⟩ := definition
  induction statements with
  | nil => exact .nil
  | cons statement others ih =>
    exact .cons (Statement.derives_iff.2 ⟨.is, .inl rfl, rfl⟩) ih

/-! ## One definition for given symbols -/

/-- Symbols derive at most one definition, the one that the machine reads from them. -/
theorem Definition.derives_unique {first second : Definition} {symbols : List Symbol}
    (derived : first.Derives symbols) (also : second.Derives symbols) : first = second := by
  let tokens : List Token := symbols.map fun symbol => ⟨symbol, .start⟩
  have said : tokens.map Token.symbol = symbols := by
    rw [List.map_map]
    exact List.map_id' symbols
  have read {definition : Definition} (derived : definition.Derives symbols) :
      Event.statements (Phase.outside.parse .start (tokens.map .token)).events =
        definition.statements :=
    ((Phase.parse_iff_completes id .start).2 ⟨tokens, rfl, said.symm ▸ derived⟩).2
  obtain ⟨statements⟩ := first
  obtain ⟨others⟩ := second
  exact congrArg Definition.mk ((read derived).symm.trans (read also))

theorem Definition.symbols_inj {first second : Definition} :
    first.symbols = second.symbols ↔ first = second := by
  constructor
  · intro same
    exact derives_unique first.derives_symbols (same ▸ second.derives_symbols)
  · rintro rfl
    rfl

/-! ## Texts -/

/-- The tokens of an accepted text derive the definition that is read. -/
theorem exists_tokens_of_parse_eq_ok {config : Config} {text : String} {definition : Definition}
    (accepted : parse config text = .ok definition) :
    ∃ tokens, (Cursor.ofText text).tokens config.comments = .ok tokens ∧
      (tokens.map Token.symbol).map Symbol.uniform = definition.symbols := by
  obtain ⟨tokens, items, derived⟩ := parse_eq_ok_iff_items.1 accepted
  exact ⟨tokens, Cursor.tokens_eq_ok_iff.2 items, Definition.map_uniform_of_derives derived⟩

/-- The canonical text of a definition that was read has the symbols of the definition. -/
theorem exists_tokens_text {config : Config} {text : String} {definition : Definition}
    (accepted : parse config text = .ok definition) (comments : Bool) :
    ∃ tokens, (Cursor.ofText definition.text).tokens comments = .ok tokens ∧
      (tokens.map Token.symbol).map Symbol.uniform = definition.symbols := by
  obtain ⟨symbols, derived, said⟩ :=
    @Definition.exists_content_text comments definition (isName_of_parse_eq_ok accepted)
  obtain ⟨tokens, read, rfl⟩ :=
    (@Cursor.exists_tokens_iff comments (.ofText definition.text) symbols).2 said
  exact ⟨tokens, read, Definition.map_uniform_of_derives derived⟩

/-- Two texts that are accepted hold the same definition exactly if their tokens say the same
words.  The canonical text of the definition says these words as well. -/
theorem definition_eq_iff_words {config config' : Config} {text text' : String}
    {definition definition' : Definition} (accepted : parse config text = .ok definition)
    (accepted' : parse config' text' = .ok definition') :
    ∃ tokens tokens',
      (Cursor.ofText text).tokens config.comments = .ok tokens ∧
      (Cursor.ofText text').tokens config'.comments = .ok tokens' ∧
      (definition = definition' ↔ tokens.map Token.word = tokens'.map Token.word) ∧
      ∀ comments, ∃ canonical, (Cursor.ofText definition.text).tokens comments = .ok canonical ∧
        canonical.map Token.word = tokens.map Token.word := by
  obtain ⟨tokens, read, said⟩ := exists_tokens_of_parse_eq_ok accepted
  obtain ⟨tokens', read', said'⟩ := exists_tokens_of_parse_eq_ok accepted'
  refine ⟨tokens, tokens', read, read', ?_, fun comments => ?_⟩
  · rw [Token.map_word_eq_iff, said, said', Definition.symbols_inj]
  · obtain ⟨canonical, readCanonical, saidCanonical⟩ := exists_tokens_text accepted comments
    exact ⟨canonical, readCanonical, Token.map_word_eq_iff.2 (saidCanonical.trans said.symm)⟩

/-- One declaration in two layouts and with either word before its kind. -/
theorem definition_eq_iff_words_two_layouts :
    (parse .default "(DEVICE a b is CLOCK 7) // gate" =
        .ok ⟨[.device ⟨"a", ["b"]⟩ ⟨.clock, some 7, rfl⟩]⟩ ∧
      parse (.setComments .default false) "(DEVICE\ta\nb are CLOCK 7)" =
        .ok ⟨[.device ⟨"a", ["b"]⟩ ⟨.clock, some 7, rfl⟩]⟩) ∧
    ∃ tokens others,
      (Cursor.ofText "(DEVICE a b is CLOCK 7) // gate").tokens true = .ok tokens ∧
      (Cursor.ofText "(DEVICE\ta\nb are CLOCK 7)").tokens false = .ok others ∧
      tokens.map Token.word = others.map Token.word := by
  have accepted : parse .default "(DEVICE a b is CLOCK 7) // gate" =
      .ok ⟨[.device ⟨"a", ["b"]⟩ ⟨.clock, some 7, rfl⟩]⟩ :=
    parse_eq_ok_iff_events.2 (by decide +kernel)
  have alsoAccepted : parse (.setComments .default false) "(DEVICE\ta\nb are CLOCK 7)" =
      .ok ⟨[.device ⟨"a", ["b"]⟩ ⟨.clock, some 7, rfl⟩]⟩ :=
    parse_eq_ok_iff_events.2 (by decide +kernel)
  obtain ⟨tokens, others, read, readOthers, same, -⟩ :=
    definition_eq_iff_words accepted alsoAccepted
  exact ⟨⟨accepted, alsoAccepted⟩, tokens, others, read, readOthers, same.1 rfl⟩

end Netlist

import Mathlib.Data.Finset.Card
import Netlist.Proofs.Acceptance
import Netlist.Proofs.Interning

/-!
# The names of a definition are the names in its text

The table of a definition that was read has the names of the text, each one
once and in the order in which they first come (`names_in_source_order`).

The symbols of a statement hold its names in the order in which the statement
lists them, and no others (`Statement.names_symbols`).  A definition is written
with the symbols of its statements one after the other, so the names that its
statements give to the table are those in the text (`Definition.names_of_derives`).
The table leaves out what it was given before (`NameTable.toList_internAll`).
-/

namespace Netlist

/-- Whether a symbol is the name of a device or a pin. -/
def Symbol.isName : Symbol → Bool
  | name _ => true
  | _ => false

/-! ## The names among symbols -/

namespace Symbol

/-- The names among some symbols, as they are written. -/
def names (symbols : List Symbol) : List String := (symbols.filter isName).map text

@[simp] theorem names_nil : names [] = [] := rfl

@[simp] theorem names_append (first second : List Symbol) :
    names (first ++ second) = names first ++ names second := by
  rw [names, List.filter_append, List.map_append]
  rfl

@[simp] theorem names_name_cons (word : String) (symbols : List Symbol) :
    names (name word :: symbols) = word :: names symbols := rfl

/-- A symbol that is no name is passed over. -/
theorem names_cons {symbol : Symbol} (other : symbol.isName = false) (symbols : List Symbol) :
    names (symbol :: symbols) = names symbols := by
  rw [names, List.filter_cons_of_neg (Bool.not_eq_true _ ▸ other)]
  rfl

theorem names_map_name (given : List String) : names (given.map name) = given := by
  induction given with
  | nil => rfl
  | cons word others ih => rw [List.map_cons, names_name_cons, ih]

end Symbol

theorem Terminal.names_symbols (terminal : Terminal) :
    Symbol.names terminal.symbols = terminal.names := by
  obtain ⟨device, pin⟩ := terminal
  cases pin <;> rfl

theorem Terminal.names_flatMap_symbols (terminals : List Terminal) :
    Symbol.names (terminals.flatMap Terminal.symbols) = terminals.flatMap Terminal.names := by
  induction terminals with
  | nil => rfl
  | cons terminal others ih =>
    rw [List.flatMap_cons, List.flatMap_cons, Symbol.names_append, ih, names_symbols]

theorem DeviceKind.names_symbols (kind : DeviceKind) : Symbol.names kind.symbols = [] := by
  obtain ⟨type, qualifier, fits⟩ := kind
  cases qualifier <;> rfl

theorem Statement.names_bodySymbols (copula : Keyword) (statement : Statement) :
    Symbol.names (statement.bodySymbols copula) = statement.names := by
  cases statement with
  | device names kind =>
    rw [bodySymbols_device, List.cons_append, Symbol.names_cons rfl, Symbol.names_append,
      Symbol.names_map_name, Symbol.names_cons rfl, DeviceKind.names_symbols, List.append_nil]
    rfl
  | connect source destination =>
    rw [bodySymbols_connect, List.cons_append, Symbol.names_cons rfl, Symbol.names_append,
      Terminal.names_symbols, Symbol.names_cons rfl, Terminal.names_symbols]
    rfl
  | monitor terminals =>
    rw [bodySymbols_monitor, Symbol.names_cons rfl, Terminal.names_flatMap_symbols]
    rfl

/-- The symbols of a statement hold its names, in its order. -/
theorem Statement.names_symbols (copula : Keyword) (statement : Statement) :
    Symbol.names (statement.symbols copula) = statement.names := by
  rw [symbols, List.cons_append, Symbol.names_cons rfl, Symbol.names_append, names_bodySymbols,
    Symbol.names_cons rfl, Symbol.names_nil, List.append_nil]

/-- A definition is written with the names of its statements, in their order. -/
theorem Definition.names_of_derives {definition : Definition} {symbols : List Symbol}
    (derived : definition.Derives symbols) :
    Symbol.names symbols = definition.statements.flatMap Statement.names := by
  obtain ⟨statements⟩ := definition
  replace derived : Statement.DeriveAll statements symbols := derived
  induction derived with
  | nil => rfl
  | cons first _ ih =>
    obtain ⟨copula, -, rfl⟩ := Statement.derives_iff.1 first
    rw [Symbol.names_append, ih, Statement.names_symbols]
    rfl

/-! ## The table -/

theorem Definition.toList_names (definition : Definition) :
    definition.names.toList = (definition.statements.flatMap Statement.names).eraseDups :=
  @NameTable.toList_internAll .empty [] rfl _

/-- A table has no name twice. -/
theorem NameTable.nodup_toList (names : NameTable) : names.toList.Nodup := by
  rw [List.nodup_iff_injective_get]
  intro i j same
  have stands (k : Fin names.toList.length) : names.index[names.toList.get k]? = some k.val := by
    rw [names.index_iff, ← Array.getElem?_toList]
    exact List.getElem?_eq_getElem k.isLt
  have here := stands i
  rw [same] at here
  exact Fin.ext (Option.some.inj (here.symm.trans (stands j)))

/-- A table has as many names as there are different ones among those that it was given. -/
theorem NameTable.size_eq_card {names : NameTable} {given : List String}
    (held : names.toList = given.eraseDups) : names.size = given.toFinset.card := by
  have same : given.toFinset = names.toList.toFinset := by
    ext name
    rw [List.mem_toFinset, List.mem_toFinset, held, List.mem_eraseDups]
  rw [same, List.toFinset_card_of_nodup names.nodup_toList]
  rfl

/-- The table of a definition that was read has the names in the text, in the order in which they
first come.  Names that come again are left out, so there are as many as there are different ones
in the text. -/
theorem names_in_source_order {config : Config} {text : String} {definition : Definition}
    (accepted : parse config text = .ok definition) :
    ∃ tokens, (Cursor.ofText text).tokens config.comments = .ok tokens ∧
      let written := (tokens.filter fun token => token.symbol.isName).map Token.text
      (∀ i : Nat, definition.names.get? ⟨i⟩ = written.eraseDups[i]?) ∧
        definition.names.size = written.toFinset.card := by
  obtain ⟨tokens, items, derived⟩ := parse_eq_ok_iff_items.1 accepted
  have written : (tokens.filter fun token => token.symbol.isName).map Token.text =
      definition.statements.flatMap Statement.names := by
    rw [← Definition.names_of_derives derived, Symbol.names, List.filter_map, List.map_map]
    rfl
  have held := definition.toList_names
  rw [← written] at held
  refine ⟨tokens, Cursor.tokens_eq_ok_iff.2 items, fun i => ?_, NameTable.size_eq_card held⟩
  rw [NameTable.get?_eq_getElem?, held]

/-- A pin has the name of a device, a device is named again, and words of a comment and words that
are reserved are no names. -/
theorem names_in_source_order_of_repeats :
    let text := "(DEVICE q is DTYPE) // r\n(CONNECT clk to q.clk)(MONITOR q q.to2 clk)"
    ∃ definition, parse .default text = .ok definition ∧
      definition.names.get? ⟨0⟩ = some "q" ∧ definition.names.get? ⟨1⟩ = some "clk" ∧
      definition.names.get? ⟨2⟩ = some "to2" ∧ definition.names.get? ⟨3⟩ = none ∧
      definition.names.size = 3 := by
  intro text
  have accepted : parse .default text = .ok
      ⟨[.device ⟨"q", []⟩ ⟨.dtype, none, rfl⟩, .connect ⟨"clk", none⟩ ⟨"q", some "clk"⟩,
        .monitor ⟨⟨"q", none⟩, [⟨"q", some "to2"⟩, ⟨"clk", none⟩]⟩]⟩ :=
    parse_eq_ok_iff_events.2 (by decide +kernel)
  obtain ⟨tokens, read, get, size⟩ := names_in_source_order accepted
  have written : ((Cursor.ofText text).tokens true).map (fun tokens =>
      (tokens.filter fun token => token.symbol.isName).map Token.text) =
        .ok ["q", "clk", "q", "clk", "q", "q", "to2", "clk"] := by decide +kernel
  have order : ["q", "clk", "q", "clk", "q", "q", "to2", "clk"].eraseDups =
      ["q", "clk", "to2"] := by decide +kernel
  have same := Except.ok.inj ((congrArg (Except.map _) read).symm.trans written)
  rw [same] at get size
  rw [order] at get
  exact ⟨_, accepted, get 0, get 1, get 2, get 3, size.trans (by decide +kernel)⟩

end Netlist

import Mathlib.Data.List.Forall2
import Netlist.Proofs.RoundTrip
import Netlist.Proofs.Warnings
import Netlist.Proofs.Wording

/-!
# The log follows the text

The log of a run that succeeds goes through the text from its beginning to its
end.  At the highest verbosity it has one line for each token, and one for each
statement, with the line on which the statement was opened.  It makes no
difference whether the run prints the definition or lists the errors
(`log_follows_the_text`).

What such a line looks like is said without the log: `Symbol.IsCalled` lists the
words for the sorts of symbols, `Token.Told` and `Passage.Told` put the lines
together.  A line ends in the position of its token, so no line comes twice
(`Token.Told.position_eq`).

A parse reads each token as soon as it is done with the one before, and no step
reads one by itself, so a parse without error has read all of them
(`Phase.tokens_parse`).  The phase keeps the line of the statement that it is
reading.  A step without error keeps that line, or hands it to the record of the
statement, and takes the line of an opening mark (`Phase.lines_step`).  By
induction the recorded lines are those of the opening marks
(`Phase.lines_parse`).

The tokens of a definition fall into *passages*, one for each statement
(`exists_passages`).  A passage has one opening mark, its first token, so the
opening marks are those of the passages in their order.
-/

namespace Netlist

/-! ## Texts put together from lines -/

namespace Text

theorem lines_eq_singleton {line : List Char} (whole : '\n' ∉ line) : lines line = [line] := by
  induction line with
  | nil => rfl
  | cons c rest ih =>
    rw [List.mem_cons, not_or] at whole
    rw [lines, if_neg (Ne.symm whole.1), ih whole.2]

/-- Texts that are lines are the lines of the text that has each of them and a line feed. -/
theorem lines_join {texts : List String} (each : ∀ text ∈ texts, IsLine text) :
    lines (String.join (texts.map (· ++ "\n"))).toList = texts.map String.toList ++ [[]] := by
  induction texts with
  | nil => rfl
  | cons text others ih =>
    have first : IsLine text := each text (.head _)
    have joined : (String.join ((text :: others).map (· ++ "\n"))).toList =
        text.toList ++ '\n' :: (String.join (others.map (· ++ "\n"))).toList := by simp
    rw [joined, lines_append_newline, lines_eq_singleton first,
      ih fun other among => each other (.tail _ among)]
    rfl

end Text

theorem Keyword.isLine_spelling (keyword : Keyword) : IsLine keyword.spelling := by
  cases keyword <;> decide

theorem IsName.isLine {word : String} (named : IsName word) : IsLine word := by
  intro feed
  have letter := List.all_eq_true.1 named.2.1 '\n' feed
  cases letter

theorem Terminal.isLine_text {terminal : Terminal} (named : ∀ name ∈ terminal.names, IsName name) :
    IsLine terminal.text := by
  obtain ⟨device, pin⟩ := terminal
  have first : IsLine device := (named device (.head _)).isLine
  cases pin with
  | none => exact first
  | some pin =>
    have dot : IsLine "." := by decide
    exact (first.append dot).append (named pin (.tail _ (.head _))).isLine

theorem DeviceKind.isLine_of_mem_words {kind : DeviceKind} {word : String}
    (among : word ∈ kind.words) : IsLine word := by
  rcases List.mem_cons.1 among with rfl | number
  · exact kind.type.isLine_spelling
  · obtain ⟨n, -, rfl⟩ := Option.map_eq_some_iff.1 (Option.mem_toList.1 number)
    exact isLine_toString n.toNat

theorem Statement.isLine_of_mem_words {statement : Statement}
    (named : ∀ name ∈ statement.names, IsName name) : ∀ word ∈ statement.words, IsLine word := by
  cases statement with
  | device names kind =>
    intro word among
    rcases List.mem_append.1 among with front | back
    · rcases List.mem_cons.1 front with rfl | name
      · exact Keyword.isLine_spelling _
      · exact (named word name).isLine
    · rcases List.mem_cons.1 back with rfl | kind
      · exact Keyword.isLine_spelling _
      · exact DeviceKind.isLine_of_mem_words kind
  | connect source destination =>
    have first := Terminal.isLine_text fun name among => named name (List.mem_append_left _ among)
    have second := Terminal.isLine_text fun name among => named name (List.mem_append_right _ among)
    intro word among
    simp only [words, List.mem_cons, List.not_mem_nil, or_false] at among
    obtain rfl | rfl | rfl | rfl := among
    · exact Keyword.isLine_spelling _
    · exact first
    · exact Keyword.isLine_spelling _
    · exact second
  | monitor terminals =>
    intro word among
    rcases List.mem_cons.1 among with rfl | watched
    · exact Keyword.isLine_spelling _
    · obtain ⟨terminal, listed, rfl⟩ := List.mem_map.1 watched
      exact Terminal.isLine_text fun name among =>
        named name (List.mem_flatMap.2 ⟨terminal, listed, among⟩)

/-- The canonical form of a statement is a line. -/
theorem Statement.isLine_text {statement : Statement}
    (named : ∀ name ∈ statement.names, IsName name) : IsLine statement.text := by
  have opening : IsLine "(" := by decide
  have space : IsLine " " := by decide
  have closing : IsLine ")" := by decide
  exact (opening.append (isLine_intercalate space (isLine_of_mem_words named))).append closing

/-- The canonical text of a definition that was read has the statements for lines. -/
theorem Definition.lines_text {config : Config} {source : String} {definition : Definition}
    (accepted : parse config source = .ok definition) :
    Text.lines definition.text.toList =
      definition.statements.map (fun statement => statement.text.toList) ++ [[]] := by
  have each : ∀ line ∈ definition.lines, IsLine line := by
    intro line among
    obtain ⟨statement, written, rfl⟩ := List.mem_map.1 among
    exact Statement.isLine_text (isName_of_parse_eq_ok accepted statement written)
  rw [Definition.text, Text.lines_join each, Definition.lines, List.map_map]
  rfl

/-! ## The lines of the log -/

/-- The words for a symbol: its sort, with the reserved word or the number that it is. -/
inductive Symbol.IsCalled : Symbol → String → Prop
  /-- Names are all called alike. -/
  | name {word : String} : IsCalled (.name word) "Identifier"
  /-- A reserved word is called by itself, written as a title. -/
  | keyword {word : Keyword} {title : String} :
    (word, title) ∈ [(.device, "Device"), (.connect, "Connect"), (.monitor, "Monitor"),
      (.clock, "Clock"), (.switch, "Switch"), (.rc, "Rc"), (.and, "And"), (.nand, "Nand"),
      (.or, "Or"), (.nor, "Nor"), (.dtype, "Dtype"), (.xor, "Xor"), (.not, "Not"), (.is, "Is"),
      (.are, "Are"), (.towards, "To")] →
    IsCalled (.keyword word) ("Keyword(" ++ title ++ ")")
  /-- A number is called by its value. -/
  | number {value : UInt32} : IsCalled (.number value) ("Number(" ++ toString value.toNat ++ ")")
  /-- The mark that opens a statement. -/
  | openParen : IsCalled .openParen "OpenParen"
  /-- The mark that closes a statement. -/
  | closeParen : IsCalled .closeParen "CloseParen"
  /-- The mark between a device and its pin. -/
  | dot : IsCalled .dot "Dot"
  /-- The comma. -/
  | comma : IsCalled .comma "Comma"

/-- A line tells of a token: what the token is called, how it is written, and where it is. -/
def Token.Told (token : Token) (line : String) : Prop :=
  ∃ kind, token.symbol.IsCalled kind ∧
    line = "TRACE logsim_core::dsl::lexer: token kind=" ++ kind ++ " text=" ++ token.text
      ++ " line=" ++ toString token.position.line ++ " column=" ++ toString token.position.column

/-- A line tells of a statement that was opened on this line of a text. -/
def Statement.Told (opened : Nat) (statement : Statement) (line : String) : Prop :=
  line = "DEBUG logsim_core::dsl::parser: statement line=" ++ toString opened
    ++ " statement=" ++ statement.text

theorem Symbol.isCalled_label (symbol : Symbol) : symbol.IsCalled symbol.label := by
  cases symbol with
  | name word => exact .name
  | keyword word => exact .keyword (by cases word <;> decide)
  | number value => exact .number
  | openParen => exact .openParen
  | closeParen => exact .closeParen
  | dot => exact .dot
  | comma => exact .comma

/-- The digits at the end of a text that ends in a field with a number are those of the number. -/
theorem Text.takeWhile_reverse_field (front name : String) (n : Nat) :
    (front ++ (name ++ "=") ++ toString n).toList.reverse.takeWhile Char.isDigit =
      (Nat.toDigits 10 n).reverse := by
  have inside : ∀ c ∈ (Nat.toDigits 10 n).reverse, c.isDigit = true := fun c among =>
    Nat.isDigit_of_mem_toDigits (by decide) (by decide) (List.mem_reverse.1 among)
  have written : (front ++ (name ++ "=") ++ toString n).toList.reverse =
      (Nat.toDigits 10 n).reverse ++ '=' :: (front ++ name).toList.reverse := by simp
  rw [written, List.takeWhile_append_of_pos inside, List.takeWhile_cons_of_neg (by decide),
    List.append_nil]

/-- Such a field can be taken off in one way only. -/
theorem Text.append_field_inj (name : String) {first second : String} {n m : Nat}
    (same : first ++ (name ++ "=") ++ toString n = second ++ (name ++ "=") ++ toString m) :
    first = second ∧ n = m := by
  have reversed : (Nat.toDigits 10 n).reverse = (Nat.toDigits 10 m).reverse := by
    rw [← takeWhile_reverse_field first name n, same, takeWhile_reverse_field second name m]
  have number : n = m := calc
    n = Nat.ofDigitChars 10 (Nat.toDigits 10 n) 0 := Nat.ofDigitChars_ten_toDigits.symm
    _ = Nat.ofDigitChars 10 (Nat.toDigits 10 m) 0 := by rw [List.reverse_inj.1 reversed]
    _ = m := Nat.ofDigitChars_ten_toDigits
  subst number
  refine ⟨String.toList_inj.1 ?_, rfl⟩
  simpa using congrArg String.toList same

/-- A line tells the position of its token. -/
theorem Token.Told.position_eq {token other : Token} {line : String} (told : token.Told line)
    (again : other.Told line) :
    token.position.line = other.position.line ∧
      token.position.column = other.position.column := by
  obtain ⟨kind, -, rfl⟩ := told
  obtain ⟨kind', -, same⟩ := again
  obtain ⟨before, column⟩ := Text.append_field_inj " column" same
  obtain ⟨-, line⟩ := Text.append_field_inj " line" before
  exact ⟨line, column⟩

/-- Lines that tell of tokens in the order of a text are all different. -/
theorem Token.nodup_of_forall₂_told {tokens : List Token} {lines : List String}
    (told : List.Forall₂ Told tokens lines)
    (ordered : tokens.Pairwise fun token later => token.position.Precedes later.position) :
    lines.Nodup := by
  refine List.pairwise_iff_getElem.2 fun i j first second less same => ?_
  have early : i < tokens.length := told.length_eq ▸ first
  have late : j < tokens.length := told.length_eq ▸ second
  have again : Told tokens[j] lines[i] := same ▸ told.get late second
  obtain ⟨line, column⟩ := Told.position_eq (told.get early first) again
  have place := (List.pairwise_iff_getElem.1 ordered i j early late less).place
  simp only [List.get_eq_getElem] at line column
  omega

/-! ## The record of a reading -/

/-- A record is about what the first word of its message says. -/
def Record.IsAbout (word : String) (record : Record) : Prop :=
  word.toList ++ [' '] <+: record.message.toList

instance (word : String) (record : Record) : Decidable (record.IsAbout word) :=
  inferInstanceAs (Decidable (_ <+: _))

namespace Event

/-- The token that an event is about. -/
def token? : Event → Option Token
  | token t => some t
  | _ => none

/-- The statement that an event is about, with the line on which it was opened. -/
def entry? : Event → Option (Nat × Statement)
  | statement line s => some (line, s)
  | _ => none

/-- The tokens on a record. -/
def tokens (events : List Event) : List Token := events.filterMap token?

/-- The statements on a record, with the lines on which they were opened. -/
def entries (events : List Event) : List (Nat × Statement) := events.filterMap entry?

@[simp] theorem tokens_nil : tokens [] = [] := rfl

@[simp] theorem entries_nil : entries [] = [] := rfl

@[simp] theorem tokens_cons (event : Event) (events : List Event) :
    tokens (event :: events) = event.token?.toList ++ tokens events := by
  cases found : event.token? <;> simp [tokens, found]

@[simp] theorem entries_cons (event : Event) (events : List Event) :
    entries (event :: events) = event.entry?.toList ++ entries events := by
  cases found : event.entry? <;> simp [entries, found]

@[simp] theorem tokens_append (first second : List Event) :
    tokens (first ++ second) = tokens first ++ tokens second :=
  List.filterMap_append

@[simp] theorem entries_append (first second : List Event) :
    entries (first ++ second) = entries first ++ entries second :=
  List.filterMap_append

theorem map_snd_entries (events : List Event) :
    (entries events).map Prod.snd = statements events := by
  rw [entries, statements, List.map_filterMap]
  congr 1
  funext event
  cases event <;> rfl

variable {α : Type} {Tells : α → Record → Prop} {part : Event → Option α} {test : Record → Bool}

/-- If the records that pass a test tell of a part of the events, it is so for all of the log. -/
theorem forall₂_filter_record?
    (told : ∀ event, Option.Rel Tells (part event) (event.record?.filter test))
    (events : List Event) :
    List.Forall₂ Tells (events.filterMap part) ((events.filterMap record?).filter test) := by
  rw [List.filter_filterMap]
  refine List.rel_filterMap (R := (· = ·)) ?_ (List.forall₂_same.2 fun _ _ => rfl)
  rintro event _ rfl
  exact told event

end Event

/-- The log has a line for each token. -/
theorem Event.forall₂_tokens (events : List Event) :
    List.Forall₂ (fun token record => token.Told record.text) (tokens events)
      ((events.filterMap record?).filter fun record =>
        record.level = .trace ∧ record.IsAbout "token") := by
  refine forall₂_filter_record? (fun event => ?_) events
  cases event with
  | token t =>
    have passes : (record? (token t)).filter (fun record =>
        record.level = .trace ∧ record.IsAbout "token") = record? (token t) := by
      simp [record?, Record.IsAbout, Record.ofTokens, Record.field, Option.filter]
    rw [passes]
    refine .some ⟨t.symbol.label, t.symbol.isCalled_label, ?_⟩
    simp [Record.text, Record.ofTokens, Record.field, Level.spelling, ← String.toList_inj]
  | _ => exact .none

/-- The log has a line for each statement. -/
theorem Event.forall₂_entries (events : List Event) :
    List.Forall₂ (fun entry record => entry.2.Told entry.1 record.text) (entries events)
      ((events.filterMap record?).filter fun record =>
        record.level = .debug ∧ record.IsAbout "statement") := by
  refine forall₂_filter_record? (fun event => ?_) events
  cases event with
  | statement line s =>
    have passes : (record? (statement line s)).filter (fun record =>
        record.level = .debug ∧ record.IsAbout "statement") = record? (statement line s) := by
      simp [record?, Record.IsAbout, Record.ofStatements, Record.field, Option.filter]
    rw [passes]
    refine .some ?_
    simp [Statement.Told, Record.text, Record.ofStatements, Record.field, Level.spelling,
      ← String.toList_inj]
  | parsed | checked =>
    simp [record?, entry?, Record.ofStatements, Record.IsAbout, Option.filter]
  | _ => exact .none

@[simp] theorem Item.entries_reading (items : List Item) :
    Event.entries (Item.reading items) = [] := by
  rcases items with _ | ⟨_ | _, _⟩ <;> rfl

/-! ## The tokens on the record -/

namespace Phase

variable {stop : Position} {phase : Phase} {token : Token} {tokens : List Token}

theorem tokens_step (phase : Phase) (item : Item) : Event.tokens (phase.step item).1 = [] := by
  have entering (token : Token) : Event.tokens (enter token).1 = [] := by
    rw [enter]
    split <;> rfl
  cases item with
  | fault error =>
    rw [events_step_fault]
    rfl
  | token token =>
    cases phase with
    | outside => exact entering token
    | inside line place =>
      simp only [step, follow]
      split <;> rfl
    | closed line statement => simp [step, entering, Event.token?]
    | lost since =>
      simp only [step, search]
      split <;> rfl

theorem tokens_finish (stop : Position) (phase : Phase) :
    Event.tokens (phase.finish stop) = [] := by
  cases phase <;> rfl

/-- A parse without error records all tokens. -/
theorem tokens_parse (fine : Event.errors (phase.parse stop (tokens.map .token)).events = []) :
    Event.tokens (Item.reading (tokens.map .token) ++
      (phase.parse stop (tokens.map .token)).events) = tokens := by
  induction tokens generalizing phase with
  | nil => exact tokens_finish stop phase
  | cons token others ih =>
    rw [List.map_cons, parse] at fine ⊢
    split at fine
    · rename_i step
      have onward := ih (by simpa [step] using fine)
      rw [if_pos step]
      simp only [Event.tokens_append, tokens_step, List.nil_append] at onward ⊢
      rw [onward]
      rfl
    · rename_i step
      exact absurd fine step

/-! ## The lines on the record -/

/-- The line of the statement that a phase has read or is reading. -/
def line? : Phase → Option Nat
  | inside line _ | closed line _ => some line
  | _ => none

/-- Where a token begins a statement without error it is an opening mark. -/
theorem enter_of_errors_eq_nil (fine : Event.errors (enter token).1 = []) :
    token.symbol = .openParen ∧ enter token = ([], inside token.position.line .opened) := by
  rw [enter] at fine ⊢
  split at fine
  · rename_i opens
    exact ⟨opens, if_pos opens⟩
  · cases fine

/-- A step without error keeps the line, or records it, and takes the line of an opening mark. -/
theorem lines_step (onTrack : ¬phase.IsLost)
    (fine : Event.errors (phase.step (.token token)).1 = []) :
    (Event.entries (phase.step (.token token)).1).map Prod.fst ++
        (phase.step (.token token)).2.line?.toList =
      phase.line?.toList ++ if token.symbol = .openParen then [token.position.line] else [] := by
  cases phase with
  | outside =>
    obtain ⟨opens, entered⟩ := enter_of_errors_eq_nil fine
    simp [step, entered, opens, line?]
  | inside line place =>
    -- No place has a use for an opening mark, so the line does not change.
    have other : token.symbol ≠ .openParen := by
      intro opens
      obtain ⟨cause, rejected⟩ := place.step_openParen
      simp [step, follow, opens, rejected, Event.error?] at fine
    rw [if_neg other]
    simp only [step, follow] at fine ⊢
    split at fine
    · rfl
    · rfl
    · cases fine
  | closed line statement =>
    have entering : Event.errors (enter token).1 = [] := by
      simpa [step, Event.error?] using fine
    obtain ⟨opens, entered⟩ := enter_of_errors_eq_nil entering
    simp [step, entered, opens, line?, Event.entry?]
  | lost since => exact absurd trivial onTrack

/-- A parse without error records the line of the phase and those of the opening marks. -/
theorem lines_parse (onTrack : ¬phase.IsLost)
    (fine : Event.errors (phase.parse stop (tokens.map .token)).events = []) :
    (Event.entries (phase.parse stop (tokens.map .token)).events).map Prod.fst =
      phase.line?.toList ++
        (tokens.filter fun token => token.symbol = .openParen).map fun token =>
          token.position.line := by
  induction tokens generalizing phase with
  | nil =>
    cases phase with
    | outside => rfl
    | inside line place => cases fine
    | closed line statement => rfl
    | lost since => exact absurd trivial onTrack
  | cons token others ih =>
    rw [List.map_cons, parse] at fine ⊢
    split at fine
    · rename_i step
      have onward := ih (not_isLost_step onTrack step) (by simpa [step] using fine)
      have kept := lines_step onTrack step
      rw [if_pos step, Event.entries_append, Event.entries_append, Item.entries_reading,
        List.append_nil, List.map_append, onward, ← List.append_assoc, kept, List.append_assoc,
        List.filter_cons]
      by_cases opens : token.symbol = .openParen <;> simp [opens]
    · rename_i step
      exact absurd fine step

end Phase

/-! ## Passages -/

/-- The tokens of one statement. -/
structure Passage where
  /-- The mark that opens the statement. -/
  opening : Token
  /-- The tokens behind it. -/
  behind : List Token
  /-- The statement. -/
  statement : Statement
  /-- The tokens are written for the statement. -/
  derives : statement.Derives ((opening :: behind).map Token.symbol)

namespace Passage

/-- All tokens of a passage. -/
def tokens (passage : Passage) : List Token := passage.opening :: passage.behind

/-- A line tells of the statement in a passage, and of the line of its opening mark. -/
def Told (passage : Passage) (line : String) : Prop :=
  passage.statement.Told passage.opening.position.line line

end Passage

theorem Statement.openParen_not_mem_bodySymbols (copula : Keyword) (statement : Statement) :
    .openParen ∉ statement.bodySymbols copula := by
  have terminal (terminal : Terminal) : .openParen ∉ terminal.symbols := by
    obtain ⟨device, pin⟩ := terminal
    cases pin <;> simp [Terminal.symbols]
  cases statement with
  | device names kind => simp [bodySymbols_device, DeviceKind.symbols]
  | connect source destination => simp [bodySymbols_connect, terminal]
  | monitor terminals => simp [bodySymbols_monitor, terminal]

/-- The first token of a passage is its only opening mark. -/
theorem Passage.filter_tokens (passage : Passage) :
    (passage.tokens.filter fun token => token.symbol = .openParen) = [passage.opening] := by
  obtain ⟨opening, behind, statement, derives⟩ := passage
  obtain ⟨copula, -, symbols⟩ := Statement.derives_iff.1 derives
  obtain ⟨opens, body⟩ := List.cons.inj symbols
  have none : ∀ token ∈ behind, token.symbol ≠ .openParen := by
    intro token among opens
    have symbol : token.symbol ∈ behind.map Token.symbol := List.mem_map_of_mem among
    rw [body, opens] at symbol
    rcases List.mem_append.1 symbol with inside | last
    · exact statement.openParen_not_mem_bodySymbols copula inside
    · cases List.mem_singleton.1 last
  have rest : (behind.filter fun token => token.symbol = .openParen) = [] :=
    List.filter_eq_nil_iff.2 fun token among => by simpa using none token among
  show (opening :: behind).filter (fun token => token.symbol = .openParen) = [opening]
  rw [List.filter_cons, if_pos (decide_eq_true opens), rest]

/-- The opening marks are those of the passages. -/
theorem filter_flatMap_tokens (passages : List Passage) :
    ((passages.flatMap Passage.tokens).filter fun token => token.symbol = .openParen) =
      passages.map Passage.opening := by
  rw [List.filter_flatMap, List.map_eq_flatMap]
  simp only [Passage.filter_tokens]

/-- The tokens of some statements fall into a passage for each of them. -/
theorem exists_passages {statements : List Statement} {tokens : List Token}
    (derived : Statement.DeriveAll statements (tokens.map Token.symbol)) :
    ∃ passages : List Passage, passages.map Passage.statement = statements ∧
      passages.flatMap Passage.tokens = tokens := by
  generalize written : tokens.map Token.symbol = symbols at derived
  induction derived generalizing tokens with
  | nil => exact ⟨[], rfl, (List.map_eq_nil_iff.1 written).symm⟩
  | @cons statement others first rest derives _ ih =>
    obtain ⟨front, back, rfl, rfl, rfl⟩ := List.map_eq_append_iff.1 written
    obtain ⟨passages, rfl, rfl⟩ := ih rfl
    cases front with
    | nil =>
      obtain ⟨copula, -, empty⟩ := Statement.derives_iff.1 derives
      cases empty
    | cons opening behind => exact ⟨⟨opening, behind, statement, derives⟩ :: passages, rfl, rfl⟩

section Texts

variable {config : Config} {source : String} {definition : Definition}

/-- The record of a parse of an accepted text has its tokens, and its passages with their lines. -/
theorem exists_passages_of_parse_eq_ok (accepted : parse config source = .ok definition) :
    ∃ tokens, ∃ passages : List Passage,
      (Cursor.ofText source).tokens config.comments = .ok tokens ∧
      passages.map Passage.statement = definition.statements ∧
      passages.flatMap Passage.tokens = tokens ∧
      Event.tokens ((Reader.ofText config source).opening ++ parseEvents config source) = tokens ∧
      Event.entries (parseEvents config source) =
        passages.map fun passage => (passage.opening.position.line, passage.statement) := by
  obtain ⟨fine, read⟩ := parse_eq_ok_iff_events.1 accepted
  obtain ⟨tokens, items, derived⟩ := parse_eq_ok_iff_items.1 accepted
  obtain ⟨passages, statements, whole⟩ := exists_passages derived
  refine ⟨tokens, passages, Cursor.tokens_eq_ok_iff.2 items, statements, whole, ?_, ?_⟩
  · rw [parseEvents, items] at fine ⊢
    rw [Reader.opening, Reader.ofText, Reader.ofCursor, items]
    exact Phase.tokens_parse fine
  · have lines : (Event.entries (parseEvents config source)).map Prod.fst =
        passages.map fun passage => passage.opening.position.line := by
      rw [parseEvents, items] at fine ⊢
      rw [Phase.lines_parse id fine, ← whole, filter_flatMap_tokens, List.map_map]
      rfl
    have told : (Event.entries (parseEvents config source)).map Prod.snd =
        passages.map Passage.statement := by
      rw [Event.map_snd_entries, read, statements]
    rw [List.zip_of_prod lines told, List.zip_map']

/-- The tokens of a text come in the order of the text. -/
theorem Token.pairwise_precedes {comments : Bool} {tokens : List Token}
    (read : (Cursor.ofText source).tokens comments = .ok tokens) :
    tokens.Pairwise fun token later => token.position.Precedes later.position := by
  have items := Cursor.tokens_eq_ok_iff.1 read
  have exact : ∀ token ∈ tokens, token.position.IsExact source := by
    intro token among
    have item : .token token ∈ (Cursor.ofText source).items comments := by
      rw [items]
      exact List.mem_map_of_mem among
    exact Cursor.isExact_of_mem_items (Cursor.liesIn_ofText source) _ item
  have ascending := (Cursor.ascending_items comments source).1
  rw [items, List.pairwise_map] at ascending
  exact ascending.imp_of_mem fun first second less =>
    (exact _ first).precedes (exact _ second) less

/-- The record of a parse by a fresh reader that meets no error. -/
theorem events_parse_ofText (accepted : parse config source = .ok definition) :
    (Reader.ofText config source).parse.events =
      parseEvents config source ++ [.parsed definition.size] := by
  obtain ⟨fine, read⟩ := parse_eq_ok_iff_events.1 accepted
  simp only [parseEvents] at fine read
  simp [Reader.parse, Reader.ofText, Reader.ofCursor, parseEvents, fine, read, Definition.size]

/-- On an accepted text a check has the record of a parse. -/
theorem checkEvents_eq_parseEvents (limit : 1 ≤ config.maxErrors)
    (accepted : parse config source = .ok definition) :
    checkEvents config source = parseEvents config source :=
  congrArg Trail.events (Phase.check_eq_parse limit (parse_eq_ok_iff_events.1 accepted).1)

end Texts

namespace Command

/-! ## The log of a run -/

/-- The records of a level in the log of a run that are about what a word says. -/
def Run.recordsOf (run : Run) (level : Level) (word : String) : List Record :=
  run.log.filter fun record => record.level = level ∧ record.IsAbout word

/-- The lines of a level in the log of a run that are about what a word says. -/
def Run.linesOf (run : Run) (level : Level) (word : String) : List String :=
  (run.recordsOf level word).map Record.text

/-- What an output writes in the log. -/
def Output.log? : Output → Option Record
  | log record => some record
  | _ => none

theorem log_eq (success : Bool) (outputs : List Output) :
    Run.log ⟨success, outputs⟩ = outputs.filterMap Output.log? := rfl

@[simp] theorem filterMap_log_records (events : List Event) :
    (records events).filterMap Output.log? = events.filterMap Event.record? := by
  rw [records, List.filterMap_map]
  exact List.filterMap_some

variable {options : Options} {source : String} {definition : Definition}

/-- The log of an accepted text is the record of its parse, then that of an answer, and a summary
at the end. -/
theorem exists_log_runText (accepted : parse options.config source = .ok definition) :
    ∃ last summary, Event.token? last = none ∧ Event.entry? last = none ∧
      (runText options source).log =
        ((Reader.ofText options.config source).opening ++ parseEvents options.config source ++
          [last]).filterMap Event.record? ++ [⟨.info, "logsim", summary⟩] := by
  rw [runText]
  split
  · have limit := one_le_maxErrors_config options
    have none : (Reader.ofText options.config source).check.value = [] :=
      check_eq_nil_of_parse_eq_ok limit accepted
    refine ⟨.checked 0, "check finished" ++ Record.field "errors" (toString 0), rfl, rfl, ?_⟩
    rw [listErrors, log_eq, events_check_ofText source limit,
      checkEvents_eq_parseEvents limit accepted, check, none, ← List.append_assoc]
    simp only [List.filterMap_append, filterMap_log_records, List.map_nil,
      List.append_nil]
    rfl
  · have answered : (Reader.ofText options.config source).parse.value = .ok definition := accepted
    refine ⟨.parsed definition.size, "definition file is valid"
      ++ Record.field "statements" (toString definition.size)
      ++ Record.field "names" (toString definition.names.size), rfl, rfl, ?_⟩
    simp only [printDefinition, answered]
    rw [log_eq, events_parse_ofText accepted, ← List.append_assoc, List.filterMap_append,
      filterMap_log_records]
    rfl

/-- At the highest verbosity the log is written as a whole. -/
theorem filter_shows (verbose : 3 ≤ options.verbosity) (outputs : List Output) :
    outputs.filter options.shows = outputs := by
  refine List.filter_eq_self.2 fun output _ => ?_
  cases output with
  | log record =>
    have enough : record.level.verbosity ≤ 3 := by cases record.level <;> decide
    exact decide_eq_true (Nat.le_trans enough verbose)
  | _ => rfl

/-- What the log of a run that succeeds tells about a reading is the record of the parse. -/
theorem exists_recordsOf_run (verbose : 3 ≤ options.verbosity) {file : SourceFile}
    (read : file.read options.maxBytes = .ok source)
    (accepted : parse options.config source = .ok definition) :
    ∃ events,
      Event.tokens events = Event.tokens
        ((Reader.ofText options.config source).opening ++ parseEvents options.config source) ∧
      Event.entries events = Event.entries (parseEvents options.config source) ∧
      ∀ level ≠ .info, ∀ word, (run options file).recordsOf level word =
        (events.filterMap Event.record?).filter fun record =>
          record.level = level ∧ record.IsAbout word := by
  obtain ⟨last, summary, token, entry, logged⟩ := exists_log_runText accepted
  refine ⟨(Reader.ofText options.config source).opening ++ parseEvents options.config source ++
    [last], by simp [token], by simp [Reader.opening, entry], fun level other word => ?_⟩
  have own (message : String) :
      [(⟨.info, "logsim", message⟩ : Record)].filter (fun record =>
        record.level = level ∧ record.IsAbout word) = [] := by
    simp [Ne.symm other]
  have whole : ∃ message, (run options file).log =
      [⟨.info, "logsim", message⟩] ++ (runText options source).log := by
    rw [run, read]
    simp only [filter_shows verbose]
    exact ⟨_, rfl⟩
  obtain ⟨message, begins⟩ := whole
  rw [Run.recordsOf, begins, logged, List.filter_append, List.filter_append, own, own,
    List.nil_append, List.append_nil]

/-! ## The main result -/

/-- The log of a run that succeeds follows the text, whatever the run prints and however it treats
comments.  It tells of the tokens of the text, of each one once and in the order of the text.  It
tells of the statements of the definition as the lines of the canonical text have them, of each one
with the line of the token that opens it. -/
theorem log_follows_the_text (options : Options) (file : SourceFile)
    (verbose : 3 ≤ options.verbosity) (succeeds : (run options file).exitCode = 0) :
    ∃ source tokens definition, ∃ passages : List Passage,
      file.read options.maxBytes = .ok source ∧
      (Cursor.ofText source).tokens options.comments = .ok tokens ∧
      parse options.config source = .ok definition ∧
      List.Forall₂ Token.Told tokens ((run options file).linesOf .trace "token") ∧
      ((run options file).linesOf .trace "token").Nodup ∧
      (tokens.Pairwise fun token later => token.position.Precedes later.position) ∧
      passages.map Passage.statement = definition.statements ∧
      passages.flatMap Passage.tokens = tokens ∧
      (tokens.filter fun token => token.symbol = .openParen) = passages.map Passage.opening ∧
      List.Forall₂ Passage.Told passages ((run options file).linesOf .debug "statement") ∧
      Text.lines definition.text.toList =
        passages.map (fun passage => passage.statement.text.toList) ++ [[]] := by
  obtain ⟨source, definition, read, accepted⟩ :=
    (success_run_iff options file).1 ((Run.exitCode_eq_zero_iff _).1 succeeds)
  obtain ⟨tokens, passages, all, statements, whole, recorded, entries⟩ :=
    exists_passages_of_parse_eq_ok accepted
  obtain ⟨events, sameTokens, sameEntries, logged⟩ := exists_recordsOf_run verbose read accepted
  have ordered := Token.pairwise_precedes all
  have traced : List.Forall₂ Token.Told tokens ((run options file).linesOf .trace "token") := by
    have told := Event.forall₂_tokens events
    rw [← logged .trace nofun, sameTokens, recorded] at told
    exact List.forall₂_map_right_iff.2 told
  have noted : List.Forall₂ Passage.Told passages
      ((run options file).linesOf .debug "statement") := by
    have told := Event.forall₂_entries events
    rw [← logged .debug nofun, sameEntries, entries, List.forall₂_map_left_iff] at told
    exact List.forall₂_map_right_iff.2 told
  refine ⟨source, tokens, definition, passages, read, all, accepted, traced,
    Token.nodup_of_forall₂_told traced ordered, ordered, statements, whole, ?_, noted, ?_⟩
  · rw [← whole, filter_flatMap_tokens]
  · rw [Definition.lines_text accepted, ← statements, List.map_map]
    rfl

/-- A run that lists the errors of two statements and finds none.  The line feeds between words are
left out, and the second statement has the line of its opening mark. -/
theorem log_follows_the_text_of_two_statements :
    let text := "(MONITOR a) // b\n(\nMONITOR\nc.I1)"
    let tokens : List Token :=
      [⟨.openParen, ⟨0, 1, 1⟩⟩, ⟨.keyword .monitor, ⟨1, 1, 2⟩⟩, ⟨.name "a", ⟨9, 1, 10⟩⟩,
        ⟨.closeParen, ⟨10, 1, 11⟩⟩, ⟨.openParen, ⟨17, 2, 1⟩⟩, ⟨.keyword .monitor, ⟨19, 3, 1⟩⟩,
        ⟨.name "c", ⟨27, 4, 1⟩⟩, ⟨.dot, ⟨28, 4, 2⟩⟩, ⟨.name "I1", ⟨29, 4, 3⟩⟩,
        ⟨.closeParen, ⟨31, 4, 5⟩⟩]
    let lines := ["TRACE logsim_core::dsl::lexer: token kind=OpenParen text=( line=1 column=1",
      "TRACE logsim_core::dsl::lexer: token kind=Keyword(Monitor) text=MONITOR line=1 column=2",
      "TRACE logsim_core::dsl::lexer: token kind=Identifier text=a line=1 column=10",
      "TRACE logsim_core::dsl::lexer: token kind=CloseParen text=) line=1 column=11",
      "TRACE logsim_core::dsl::lexer: token kind=OpenParen text=( line=2 column=1",
      "TRACE logsim_core::dsl::lexer: token kind=Keyword(Monitor) text=MONITOR line=3 column=1",
      "TRACE logsim_core::dsl::lexer: token kind=Identifier text=c line=4 column=1",
      "TRACE logsim_core::dsl::lexer: token kind=Dot text=. line=4 column=2",
      "TRACE logsim_core::dsl::lexer: token kind=Identifier text=I1 line=4 column=3",
      "TRACE logsim_core::dsl::lexer: token kind=CloseParen text=) line=4 column=5"]
    let options : Options := { allErrors := true, verbosity := 3 }
    let file := SourceFile.ofText "q.def" text
    3 ≤ options.verbosity ∧ (run options file).exitCode = 0 ∧
      (run options file).linesOf .trace "token" = lines ∧
      (run options file).linesOf .debug "statement" =
        ["DEBUG logsim_core::dsl::parser: statement line=1 statement=(MONITOR a)",
          "DEBUG logsim_core::dsl::parser: statement line=2 statement=(MONITOR c.I1)"] ∧
      List.Forall₂ Token.Told tokens lines := by
  intro text tokens lines options file
  have given : file.read options.maxBytes = .ok text := SourceFile.read_ofText "q.def" nofun
  have words : (Cursor.ofText text).tokens options.comments = .ok tokens :=
    Cursor.tokens_eq_ok_iff.2 (by decide +kernel)
  have verbose : 3 ≤ options.verbosity := Nat.le_refl 3
  have succeeds : (run options file).exitCode = 0 := by decide +kernel
  have traced : (run options file).linesOf .trace "token" = lines := by decide +kernel
  have noted : (run options file).linesOf .debug "statement" =
      ["DEBUG logsim_core::dsl::parser: statement line=1 statement=(MONITOR a)",
        "DEBUG logsim_core::dsl::parser: statement line=2 statement=(MONITOR c.I1)"] := by
    decide +kernel
  obtain ⟨source, read, definition, passages, again, all, -, told, -⟩ :=
    log_follows_the_text options file verbose succeeds
  cases Except.ok.inj (given.symm.trans again)
  cases Except.ok.inj (words.symm.trans all)
  exact ⟨verbose, succeeds, traced, noted, traced ▸ told⟩

end Command

end Netlist

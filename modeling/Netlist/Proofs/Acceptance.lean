import Netlist.Proofs.Content
import Netlist.Proofs.Reading
import Netlist.Reader

/-!
# The reader accepts the grammar

What `parse` answers is taken from the record of one reading, `parseEvents`: it
is the first error on it, or the statements on it.  So the theory of readings
carries over.  A text is accepted exactly if its content is a list of symbols
that the grammar derives (`parse_eq_ok_iff_content`).  The content knows no
positions and no layout, and this is the form in which acceptance is used.

`parse_eq_ok_iff_derives` says the same of the tokens of the text.  Text that
is no token is in the content as a fault, so a text that has some is never
accepted, however far behind the last statement it stands
(`exists_parse_eq_error_of_fault`).
-/

namespace Netlist

/-- What happens when a text is parsed. -/
def parseEvents (config : Config) (text : String) : List Event :=
  (Phase.parse (Cursor.ofText text).stop .outside
    ((Cursor.ofText text).items config.comments)).events

variable {config : Config} {text : String}

theorem parse_eq_ok_iff_events {definition : Definition} :
    parse config text = .ok definition ↔
      Event.errors (parseEvents config text) = [] ∧
        Event.statements (parseEvents config text) = definition.statements := by
  obtain ⟨statements⟩ := definition
  simp only [parse, Reader.parse, Reader.ofText, Reader.ofCursor, parseEvents]
  split
  · rename_i none
    simp [none]
  · rename_i error others some
    simp [some]

theorem parse_eq_error_iff {error : Diagnostic} :
    parse config text = .error error ↔
      (Event.errors (parseEvents config text)).head? = some error := by
  simp only [parse, Reader.parse, Reader.ofText, Reader.ofCursor, parseEvents]
  split
  · rename_i none
    simp [none]
  · rename_i error others some
    simp [some]

/-- What a parse answers depends only on what happens. -/
theorem parse_eq_of_events {other : Config} {otherText : String}
    (same : parseEvents config text = parseEvents other otherText) :
    parse config text = parse other otherText := by
  cases answer : parse config text with
  | ok definition =>
    rw [parse_eq_ok_iff_events, same, ← parse_eq_ok_iff_events] at answer
    exact answer.symm
  | error error =>
    rw [parse_eq_error_iff, same, ← parse_eq_error_iff] at answer
    exact answer.symm

/-- A text is accepted exactly if its items are tokens that the grammar derives. -/
theorem parse_eq_ok_iff_items {definition : Definition} :
    parse config text = .ok definition ↔
      ∃ tokens : List Token, (Cursor.ofText text).items config.comments = tokens.map .token ∧
        definition.Derives (tokens.map Token.symbol) :=
  parse_eq_ok_iff_events.trans (Phase.parse_iff_completes id _)

/-- A text is accepted exactly if its content is derived by the grammar. -/
theorem parse_eq_ok_iff_content {definition : Definition} :
    parse config text = .ok definition ↔
      ∃ symbols, Lexeme.content config.comments text.toList = symbols.map .symbol ∧
        definition.Derives symbols := by
  rw [parse_eq_ok_iff_items]
  have reads {symbols : List Symbol} :=
    @Cursor.exists_tokens_iff config.comments (.ofText text) symbols
  constructor
  · intro accepted
    obtain ⟨tokens, all, derived⟩ := accepted
    exact ⟨_, reads.1 ⟨tokens, Cursor.tokens_eq_ok_iff.2 all, rfl⟩, derived⟩
  · intro derivable
    obtain ⟨symbols, said, derived⟩ := derivable
    obtain ⟨tokens, read, rfl⟩ := reads.2 said
    exact ⟨tokens, Cursor.tokens_eq_ok_iff.1 read, derived⟩

/-- A text that holds a lexical error anywhere is not accepted. -/
theorem exists_parse_eq_error_of_fault {error : LexicalError}
    (holds : .fault error ∈ (Cursor.ofText text).items config.comments) :
    ∃ diagnostic, parse config text = .error diagnostic := by
  cases answer : parse config text with
  | error diagnostic => exact ⟨diagnostic, rfl⟩
  | ok definition =>
    obtain ⟨tokens, all, -⟩ := parse_eq_ok_iff_items.1 answer
    rw [all] at holds
    simp at holds

end Netlist

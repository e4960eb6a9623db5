import Netlist.Proofs.Acceptance
import Netlist.Proofs.Cut
import Netlist.Proofs.Spelling

/-!
# The first error is reported as early as possible

A parse that answers an error has read some tokens without error, and what
comes next causes the error (`exists_reads_of_parse_eq_error`).  The phase that
the tokens lead to still wants something, and both halves of the result are
about that demand.

The tokens are the beginning of a definition.  The text can be cut off behind
them, at the position of the error, and go on on a new line with the symbols
that the phase wants; then it is accepted (`exists_parse_eq_ok_of_reads`).  The
line feed ends a line comment that the cut has left open.

What comes next is wanted by no phase that rejects it.  So no definition begins
with the tokens and the one that is a syntax error, and if it is the end of the
text that is one, then the tokens are no definition (`not_derives_of_reads`).
-/

namespace Netlist

/-! ## Where an error stands -/

namespace Phase

/-- An error that an item causes stands where the item stands. -/
theorem position_of_mem_errors_step {phase : Phase} {item : Item} {error : Diagnostic}
    (found : error ∈ Event.errors (phase.step item).1) : error.position = item.position := by
  cases item with
  | fault fault =>
    rw [events_step_fault] at found
    rw [List.mem_singleton.1 found]
    rfl
  | token token =>
    obtain ⟨cause, rfl⟩ := eq_misplaced_of_mem_errors_step found
    rfl

/-- An error stands at the first of the items to come, or at the end of the text. -/
theorem position_of_mem_errors_react {stop : Position} {phase : Phase} {behind : List Item}
    {error : Diagnostic} (found : error ∈ Event.errors (phase.react stop behind)) :
    error.position = Item.firstPosition stop behind := by
  cases behind with
  | cons item rest => exact position_of_mem_errors_step found
  | nil =>
    cases phase with
    | inside line place =>
      rw [List.mem_singleton.1 found]
      rfl
    | _ => cases found

end Phase

/-! ## What a phase wants can be written -/

theorem isName_a : IsName "a" := by decide

theorem Place.isReadable_closingSlot (slot : Slot) :
    ∀ symbol ∈ closingSlot slot, symbol.IsReadable := by
  cases slot <;> simp [closingSlot, Symbol.IsReadable, isName_a]

theorem Place.isReadable_closing (place : Place) :
    ∀ symbol ∈ place.closing, symbol.IsReadable := by
  cases place with
  | typed names type =>
    cases qualified : type.isQualified <;> simp [closing, qualified, Symbol.IsReadable]
  | awaiting slot | dotted slot name =>
    exact List.forall_mem_cons.2 ⟨isName_a, isReadable_closingSlot slot⟩
  | device slot name | pinned slot name pin => exact isReadable_closingSlot slot
  | _ => simp [closing, Symbol.IsReadable, isName_a]

theorem Phase.isReadable_closing (phase : Phase) :
    ∀ symbol ∈ phase.closing, symbol.IsReadable := by
  cases phase with
  | inside line place => exact place.isReadable_closing
  | _ => nofun

/-! ## The error of a parse -/

variable {config : Config} {text : String}

/-- What a parse that answers an error has read before it: tokens without error, and behind them
something that causes the error. -/
theorem exists_reads_of_parse_eq_error {error : Diagnostic}
    (rejected : parse config text = .error error) :
    ∃ tokens statements final behind,
      (Cursor.ofText text).items config.comments = tokens.map .token ++ behind ∧
      Phase.outside.Reads tokens statements final ∧
      error ∈ Event.errors (final.react (Cursor.ofText text).stop behind) := by
  have found := parse_eq_error_iff.1 rejected
  obtain ⟨tokens, statements, final, behind, reads, split, errors, -, -⟩ :=
    Phase.exists_reads_parse (Cursor.ofText text).stop .outside
      ((Cursor.ofText text).items config.comments)
  rw [parseEvents, errors] at found
  exact ⟨tokens, statements, final, behind, split, reads, List.mem_of_head? found⟩

/-- Tokens that were read without error are the beginning of a definition. -/
theorem exists_parse_eq_ok_of_reads {tokens : List Token} {statements : List Statement}
    {final : Phase} {behind : List Item}
    (split : (Cursor.ofText text).items config.comments = tokens.map .token ++ behind)
    (reads : Phase.outside.Reads tokens statements final) :
    ∃ before after more : String, text = before ++ after ∧
      before.utf8ByteSize = (Item.firstPosition (Cursor.ofText text).stop behind).offset ∧
      ∃ definition, parse config (before ++ more) = .ok definition := by
  obtain ⟨before, after, whole, size, said⟩ := Cursor.exists_content_cut split
  obtain ⟨ends, written⟩ := Lexeme.exists_content_eq final.isReadable_closing config.comments
  obtain ⟨others, wanted⟩ := Phase.exists_completes_closing (reads.not_isLost id)
  have derived : Phase.outside.Completes (tokens.map Token.symbol ++ final.closing)
      (statements ++ others) :=
    (Phase.completes_append_iff reads id).2 ⟨others, rfl, wanted⟩
  have content : Lexeme.content config.comments (before ++ .ofList ('\n' :: ends)).toList =
      (tokens.map Token.symbol ++ final.closing).map .symbol := by
    rw [String.toList_append, String.toList_ofList, said, Lexeme.content_blank (by decide),
      written, List.map_append]
  exact ⟨before, after, .ofList ('\n' :: ends), whole, size, ⟨statements ++ others⟩,
    parse_eq_ok_iff_content.2 ⟨_, content, derived⟩⟩

/-- Behind tokens that were read without error, no token that is a syntax error continues a
definition, and if the end of the text is one then the tokens are none. -/
theorem not_derives_of_reads {tokens : List Token} {statements : List Statement} {final : Phase}
    {stop : Position} {behind : List Item} {error : SyntaxError}
    (reads : Phase.outside.Reads tokens statements final)
    (found : .syntactic error ∈ Event.errors (final.react stop behind)) :
    (behind = [] ∧ ∀ definition : Definition, ¬definition.Derives (tokens.map Token.symbol)) ∨
      ∃ token later, behind = .token token :: later ∧
        ∀ (more : List Symbol) (definition : Definition),
          ¬definition.Derives (tokens.map Token.symbol ++ token.symbol :: more) := by
  have onTrack : ¬final.IsLost := reads.not_isLost id
  have wrong : Event.errors (final.react stop behind) ≠ [] := List.ne_nil_of_mem found
  cases behind with
  | nil =>
    refine .inl ⟨rfl, fun definition derived => ?_⟩
    rw [← List.append_nil (tokens.map Token.symbol)] at derived
    obtain ⟨others, -, wanted⟩ := (Phase.completes_append_iff reads id).1 derived
    exact wrong ((Phase.completes_nil_iff onTrack stop).1 wanted).1
  | cons item later =>
    cases item with
    | fault fault =>
      rw [Phase.react, Phase.events_step_fault] at found
      cases List.mem_singleton.1 found
    | token token =>
      refine .inr ⟨token, later, rfl, fun more definition derived => ?_⟩
      obtain ⟨others, -, wanted⟩ := (Phase.completes_append_iff reads id).1 derived
      exact wrong ((Phase.completes_cons_iff onTrack).1 wanted).1

/-- A parse answers the earliest error.  The text before it can be completed to one that is
accepted.  And if it is a syntax error, no definition begins with the tokens before it and the
token at it; at the end of the text, the tokens before it are no definition. -/
theorem parse_error_is_earliest (config : Config) (text : String) (error : Diagnostic)
    (rejected : parse config text = .error error) :
    (∃ before after more : String, text = before ++ after ∧
      before.utf8ByteSize = error.position.offset ∧
      ∃ definition, parse config (before ++ more) = .ok definition) ∧
    ∀ syntactic, error = .syntactic syntactic →
      ∃ (tokens : List Token) (behind : List Item),
        (Cursor.ofText text).items config.comments = tokens.map .token ++ behind ∧
        (∀ token ∈ tokens, token.position.offset < error.position.offset) ∧
        ((behind = [] ∧ error.position = (Cursor.ofText text).stop ∧
            ∀ definition : Definition, ¬definition.Derives (tokens.map Token.symbol)) ∨
          ∃ token later, behind = .token token :: later ∧ token.position = error.position ∧
            ∀ (more : List Symbol) (definition : Definition),
              ¬definition.Derives (tokens.map Token.symbol ++ token.symbol :: more)) := by
  obtain ⟨tokens, statements, final, behind, split, reads, found⟩ :=
    exists_reads_of_parse_eq_error rejected
  have stands := Phase.position_of_mem_errors_react found
  constructor
  · rw [stands]
    exact exists_parse_eq_ok_of_reads split reads
  · rintro syntactic rfl
    refine ⟨tokens, behind, split, fun token h => ?_, ?_⟩
    · rw [stands]
      exact Cursor.offset_lt_of_items_eq_append split (List.mem_map_of_mem h)
    · rcases not_derives_of_reads reads found with ⟨rfl, never⟩ | ⟨token, later, rfl, never⟩
      · exact .inl ⟨rfl, stands, never⟩
      · exact .inr ⟨token, later, rfl, stands.symm, never⟩

/-- The text breaks off in a line comment inside of a declaration. -/
theorem parse_error_is_earliest_in_comment :
    parse .default "(DEVICE g // gate" = .error (.misplaced ⟨17, 1, 18⟩ "" .unterminated) ∧
      ∃ before after more : String, "(DEVICE g // gate" = before ++ after ∧
        before.utf8ByteSize = 17 ∧
        ∃ definition, parse .default (before ++ more) = .ok definition := by
  have rejected : parse .default "(DEVICE g // gate" =
      .error (.misplaced ⟨17, 1, 18⟩ "" .unterminated) :=
    parse_eq_error_iff.2 (by decide +kernel)
  exact ⟨rejected, (parse_error_is_earliest _ _ _ rejected).1⟩

end Netlist

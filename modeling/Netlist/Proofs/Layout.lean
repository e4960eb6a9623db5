import Netlist.Proofs.Fitting

/-!
# Layout in front of a token

A *filler* is a text of blanks and comments in which every comment is closed.
Unlike a gap, it can stand in front of any text: it says nothing there, and no
letter or digit before it is prolonged by it.

Between two tokens of a text there is room for a filler, also where the tokens
touch.  It changes what the text says neither before nor behind it
(`content_filler`), so the same tokens are read at other positions.  Positions
have no part in which errors are found (`map_unplaced_survey`), so these are the
same as well (`filler_is_insignificant`).
-/

namespace Netlist

/-! ## Fillers -/

/-- A text of blanks, closed block comments, and line comments that end with their line feed. -/
inductive Filler : List Char → Prop
  /-- Nothing. -/
  | nil : Filler []
  /-- A blank character. -/
  | blank {c : Char} {more : List Char} : c ∈ blanks → Filler more → Filler (c :: more)
  /-- A line comment through its line feed. -/
  | line {body more : List Char} : '\n' ∉ body → Filler more →
    Filler ('/' :: '/' :: body ++ '\n' :: more)
  /-- A block comment through the first `*/` behind its two opening characters. -/
  | block {body more : List Char} : ¬['*', '/'] <:+: body ++ ['*'] → Filler more →
    Filler ('/' :: '*' :: body ++ '*' :: '/' :: more)

/-- A filler is a gap, whatever stands behind it. -/
theorem Filler.gap {filler : List Char} (fills : Filler filler) (behind : List Char) :
    Gap true behind filler := by
  induction fills with
  | nil => exact .nil
  | blank blank _ ih => exact .blank blank ih
  | line body _ ih => exact .line rfl body (by simp) (.blank (by simp [blanks]) ih)
  | block unended _ ih => exact .block rfl unended ih

/-- No letter and no digit begins a filler. -/
theorem Filler.stops {filler : List Char} (fills : Filler filler) (some : filler ≠ [])
    (behind : List Char) : Lexeme.Stops (filler ++ behind) := by
  have head (c : Char) (rest : List Char) (apart : c.isAlphanum = false) :
      Lexeme.Stops (c :: rest) := by
    intro d h
    cases h
    exact apart
  cases fills with
  | nil => exact absurd rfl some
  | @blank c more blank _ =>
    refine head c (more ++ behind) (Bool.eq_false_iff.2 fun alphanum => ?_)
    have notBlank := Lexeme.isBlank_eq_false_of_isAlphanum alphanum
    rw [isBlank_iff.2 blank] at notBlank
    cases notBlank
  | line _ _ => exact head '/' _ (by decide)
  | block _ _ => exact head '/' _ (by decide)

/-! ## A filler in front of a token -/

/-- A text is split in one way only with a given size of the first part. -/
theorem append_inj_of_utf8ByteSize {first second third fourth : List Char}
    (same : first ++ second = third ++ fourth)
    (size : (String.ofList first).utf8ByteSize = (String.ofList third).utf8ByteSize) :
    first = third ∧ second = fourth := by
  have empty {front more : List Char}
      (size : (String.ofList (front ++ more)).utf8ByteSize = (String.ofList front).utf8ByteSize) :
      more = [] := by
    rw [String.ofList_append, String.utf8ByteSize_append, Nat.add_eq_left,
      String.utf8ByteSize_eq_zero_iff, String.ofList_eq_empty_iff] at size
    exact size
  rcases List.append_eq_append_iff.1 same with ⟨more, rfl, rfl⟩ | ⟨more, rfl, rfl⟩
  · obtain rfl := empty size.symm
    simp
  · obtain rfl := empty size
    simp

/-- The text of a token does not begin with a line feed. -/
theorem exists_head?_ne_newline {comments : Bool} {text : List Char} {token : Token}
    {later : List Item}
    (items : Item.ofLexemes token.position (Lexeme.lexemes comments text) =
      .token token :: later) : ∃ d ∈ text.head?, d ≠ '\n' := by
  cases text with
  | nil => simp [Item.ofLexemes] at items
  | cons c rest =>
    refine ⟨c, rfl, ?_⟩
    rintro rfl
    have among : .token token ∈ Item.ofLexemes (token.position.after ['\n'])
        (Lexeme.lexemes comments rest) := by
      rw [Lexeme.lexemes_cons, Lexeme.first_blank (by decide)] at items
      have later : Item.ofLexemes (token.position.after ['\n']) _ = _ := items
      rw [later]
      exact .head _
    have behind := Item.le_offset_of_mem_ofLexemes among
    have step : (token.position.after ['\n']).offset = token.position.offset + 1 := rfl
    have stands : (Item.token token).position.offset = token.position.offset := rfl
    omega

/-- A text of tokens is cut in front of each of them. -/
theorem Cursor.exists_cut_of_mem {comments : Bool} {before behind : String} {tokens : List Token}
    {token : Token} (read : (ofText (before ++ behind)).items comments = tokens.map .token)
    (among : token ∈ tokens) (stands : token.position.offset = before.utf8ByteSize) :
    ∃ front, front.flatMap Lexeme.text = before.toList ∧
      Lexeme.lexemes comments (before ++ behind).toList =
        front ++ Lexeme.lexemes comments behind.toList ∧
      (∀ lexeme ∈ front, ∀ cause, lexeme.meaning ≠ .fault cause) ∧
      ∃ d ∈ behind.toList.head?, d ≠ '\n' := by
  obtain ⟨earlier, later, rfl⟩ := List.append_of_mem among
  rw [List.map_append, List.map_cons] at read
  obtain ⟨front, back, cut, items, there⟩ := exists_cut read
  -- The cut is behind the text before the token, because as many bytes are before it.
  have whole := Lexeme.flatMap_text_lexemes comments (before ++ behind).toList
  rw [cut, List.flatMap_append, String.toList_append] at whole
  have size : (String.ofList (front.flatMap Lexeme.text)).utf8ByteSize =
      (String.ofList before.toList).utf8ByteSize := by
    have offset := Position.offset_after .start (front.flatMap Lexeme.text)
    rw [there] at offset
    rw [String.ofList_toList, ← stands]
    exact ((Nat.zero_add _).symm.trans offset.symm)
  obtain ⟨first, second⟩ := append_inj_of_utf8ByteSize whole size
  have followed : Lexeme.lexemes comments behind.toList = back :=
    second ▸ Lexeme.lexemes_back cut
  rw [← followed] at cut
  have next : Item.ofLexemes token.position (Lexeme.lexemes comments behind.toList) =
      .token token :: later.map .token := by
    have all : Item.ofLexemes .start (Lexeme.lexemes comments (before ++ behind).toList) = _ := read
    rw [cut, Item.ofLexemes_append, items, there] at all
    exact List.append_cancel_left all
  exact ⟨front, first, cut, Item.meaning_ne_fault_of_ofLexemes items, exists_head?_ne_newline next⟩

/-- A filler in front of a token changes nothing of what a text of tokens says. -/
theorem content_filler {before behind : String} {filler : List Char} {tokens : List Token}
    (read : (Cursor.ofText (before ++ behind)).items true = tokens.map .token)
    (begins : ∃ token ∈ tokens, token.position.offset = before.utf8ByteSize)
    (fills : Filler filler) :
    Lexeme.content true (before.toList ++ (filler ++ behind.toList)) =
      Lexeme.content true (before ++ behind).toList := by
  obtain ⟨token, among, stands⟩ := begins
  obtain ⟨front, written, cut, sound, onLine⟩ := Cursor.exists_cut_of_mem read among stands
  rw [← Lexeme.flatMap_text_lexemes true behind.toList] at onLine
  by_cases nothing : filler = []
  · rw [nothing, List.nil_append, ← String.toList_append]
  · have here := Lexeme.content_append_of_stops cut sound onLine (fills.stops nothing behind.toList)
    rw [← written, here, (fills.gap _).content_append, Lexeme.content, Lexeme.content, cut,
      List.map_append, List.filter_append]

/-! ## Errors wherever they stand -/

/-- An item wherever it stands. -/
def Item.unplaced (item : Item) : Item := item.move fun _ => .start

/-- A diagnostic wherever it stands. -/
def Diagnostic.unplaced (diagnostic : Diagnostic) : Diagnostic := diagnostic.move fun _ => .start

theorem Item.map_unplaced_token (tokens : List Token) :
    (tokens.map token).map unplaced =
      (tokens.map Token.symbol).map fun symbol => .token ⟨symbol, .start⟩ := by
  rw [List.map_map, List.map_map]
  rfl

/-- Positions have no part in which errors are found. -/
theorem map_unplaced_survey (comments : Bool) (text : String) :
    (survey comments text).map Diagnostic.unplaced =
      Event.errors (Phase.outside.survey .start
        (((Cursor.ofText text).items comments).map Item.unplaced)) :=
  (Phase.errors_survey_move .outside (fun _ => .start) _ _).symm

/-- Texts of the same tokens have the same errors, apart from positions. -/
theorem map_unplaced_survey_eq {comments : Bool} {text text' : String} {tokens tokens' : List Token}
    (read : (Cursor.ofText text).tokens comments = .ok tokens)
    (read' : (Cursor.ofText text').tokens comments = .ok tokens')
    (same : tokens'.map Token.symbol = tokens.map Token.symbol) :
    (survey comments text').map Diagnostic.unplaced =
      (survey comments text).map Diagnostic.unplaced := by
  rw [map_unplaced_survey, map_unplaced_survey, Cursor.tokens_eq_ok_iff.1 read,
    Cursor.tokens_eq_ok_iff.1 read', Item.map_unplaced_token, Item.map_unplaced_token, same]

theorem exists_parse_eq_error_of_unplaced {config : Config} {text text' : String}
    (same : (survey config.comments text').map Diagnostic.unplaced =
      (survey config.comments text).map Diagnostic.unplaced) {error : Diagnostic}
    (rejected : parse config text = .error error) :
    ∃ error', parse config text' = .error error' ∧ error'.unplaced = error.unplaced := by
  rw [parse_eq_error_iff_survey] at rejected
  have first := congrArg List.head? same
  rw [List.head?_map, List.head?_map, rejected] at first
  obtain ⟨error', found, moved⟩ := Option.map_eq_some_iff.1 first
  exact ⟨error', parse_eq_error_iff_survey.2 found, moved⟩

/-! ## The main result -/

/-- A filler in front of a token makes no difference to the tokens, to the definition that is read
or to the errors that are found, apart from positions. -/
theorem filler_is_insignificant (maxErrors : Nat) {before behind filler : String}
    {tokens : List Token} (read : (Cursor.ofText (before ++ behind)).tokens true = .ok tokens)
    (begins : ∃ token ∈ tokens, token.position.offset = before.utf8ByteSize)
    (fills : Filler filler.toList) :
    (∃ others, (Cursor.ofText (before ++ filler ++ behind)).tokens true = .ok others ∧
      others.map Token.symbol = tokens.map Token.symbol ∧
      others.map Token.text = tokens.map Token.text) ∧
    (∀ definition, parse ⟨true, maxErrors⟩ (before ++ behind) = .ok definition →
      parse ⟨true, maxErrors⟩ (before ++ filler ++ behind) = .ok definition) ∧
    (∀ error, parse ⟨true, maxErrors⟩ (before ++ behind) = .error error →
      ∃ moved, parse ⟨true, maxErrors⟩ (before ++ filler ++ behind) = .error moved ∧
        moved.unplaced = error.unplaced) ∧
    (check ⟨true, maxErrors⟩ (before ++ filler ++ behind)).map Diagnostic.unplaced =
      (check ⟨true, maxErrors⟩ (before ++ behind)).map Diagnostic.unplaced := by
  have content : Lexeme.content true (before ++ filler ++ behind).toList =
      Lexeme.content true (before ++ behind).toList := by
    rw [String.toList_append, String.toList_append, List.append_assoc]
    exact content_filler (Cursor.tokens_eq_ok_iff.1 read) begins fills
  have said : Lexeme.content true (before ++ behind).toList =
      (tokens.map Token.symbol).map .symbol := Cursor.exists_tokens_iff.1 ⟨tokens, read, rfl⟩
  obtain ⟨others, readOthers, same⟩ : ∃ others,
      (Cursor.ofText (before ++ filler ++ behind)).tokens true = .ok others ∧
      others.map Token.symbol = tokens.map Token.symbol :=
    Cursor.exists_tokens_iff.2 (content.trans said)
  have blind := map_unplaced_survey_eq read readOthers same
  refine ⟨⟨others, readOthers, same, ?_⟩, fun definition accepted => ?_,
    fun error rejected => exists_parse_eq_error_of_unplaced blind rejected, ?_⟩
  · have texts (tokens : List Token) :
        tokens.map Token.text = (tokens.map Token.symbol).map Symbol.text := by
      rw [List.map_map]
      rfl
    rw [texts, texts, same]
  · rw [parse_eq_ok_iff_content] at accepted ⊢
    rwa [content]
  · rw [check_eq_take_survey, check_eq_take_survey, List.map_take, List.map_take, blind]

/-- Three kinds of filler between two statements that touch, of which the second has an error.  The
line feed at the end of the comment takes the error to the second line. -/
theorem filler_is_insignificant_between_statements :
    (Cursor.ofText ("(MONITOR a)" ++ "(CONECT 2b)")).tokens true =
        .ok [⟨.openParen, ⟨0, 1, 1⟩⟩, ⟨.keyword .monitor, ⟨1, 1, 2⟩⟩, ⟨.name "a", ⟨9, 1, 10⟩⟩,
          ⟨.closeParen, ⟨10, 1, 11⟩⟩, ⟨.openParen, ⟨11, 1, 12⟩⟩, ⟨.name "CONECT", ⟨12, 1, 13⟩⟩,
          ⟨.number 2, ⟨19, 1, 20⟩⟩, ⟨.name "b", ⟨20, 1, 21⟩⟩, ⟨.closeParen, ⟨21, 1, 22⟩⟩] ∧
      "(MONITOR a)".utf8ByteSize = 11 ∧ Filler "/**/ // é\n".toList ∧
      parse ⟨true, 5⟩ ("(MONITOR a)" ++ "(CONECT 2b)") =
        .error (.misplaced ⟨12, 1, 13⟩ "CONECT" .unknownStatement) ∧
      (∃ moved, parse ⟨true, 5⟩ ("(MONITOR a)" ++ "/**/ // é\n" ++ "(CONECT 2b)") = .error moved ∧
        moved.unplaced = .misplaced .start "CONECT" .unknownStatement ∧
        moved.position = ⟨23, 2, 2⟩) ∧
      (check ⟨true, 5⟩ ("(MONITOR a)" ++ "/**/ // é\n" ++ "(CONECT 2b)")).map
          Diagnostic.unplaced =
        [.misplaced .start "CONECT" .unknownStatement] := by
  have read : (Cursor.ofText ("(MONITOR a)" ++ "(CONECT 2b)")).tokens true =
      .ok [⟨.openParen, ⟨0, 1, 1⟩⟩, ⟨.keyword .monitor, ⟨1, 1, 2⟩⟩, ⟨.name "a", ⟨9, 1, 10⟩⟩,
        ⟨.closeParen, ⟨10, 1, 11⟩⟩, ⟨.openParen, ⟨11, 1, 12⟩⟩, ⟨.name "CONECT", ⟨12, 1, 13⟩⟩,
        ⟨.number 2, ⟨19, 1, 20⟩⟩, ⟨.name "b", ⟨20, 1, 21⟩⟩, ⟨.closeParen, ⟨21, 1, 22⟩⟩] :=
    Cursor.tokens_eq_ok_iff.2 (by decide +kernel)
  have size : "(MONITOR a)".utf8ByteSize = 11 := by decide
  have fills : Filler "/**/ // é\n".toList := by
    have written : "/**/ // é\n".toList =
        '/' :: '*' :: [] ++ '*' :: '/' :: ' ' :: ('/' :: '/' :: [' ', 'é'] ++ ['\n']) := by
      decide +kernel
    rw [written]
    exact .block (by decide) (.blank (by decide) (.line (by decide) .nil))
  obtain ⟨-, -, refused, checked⟩ :=
    filler_is_insignificant 5 read ⟨⟨.openParen, ⟨11, 1, 12⟩⟩, by decide, size.symm⟩ fills
  have rejected : parse ⟨true, 5⟩ ("(MONITOR a)" ++ "(CONECT 2b)") =
      .error (.misplaced ⟨12, 1, 13⟩ "CONECT" .unknownStatement) :=
    parse_eq_error_iff.2 (by decide +kernel)
  have place : parse ⟨true, 5⟩ ("(MONITOR a)" ++ "/**/ // é\n" ++ "(CONECT 2b)") =
      .error (.misplaced ⟨23, 2, 2⟩ "CONECT" .unknownStatement) :=
    parse_eq_error_iff.2 (by decide +kernel)
  obtain ⟨moved, again, same⟩ := refused _ rejected
  refine ⟨read, size, fills, rejected,
    ⟨moved, again, same, ?_⟩, ?_⟩
  · cases Except.error.inj (again.symm.trans place)
    rfl
  · rw [checked]
    decide +kernel

end Netlist

import Netlist.Proofs.Translation

/-!
# Texts without comments

Whether comments are layout makes a difference only from the first slash on
(`comments_off_restricts`).  Up to there a text is cut in the same way
(`Lexeme.exists_lexemes_append_slash`).  If comments are layout and the text is
accepted, then the slash begins a comment.  If they are not, then it is a stray
character.

What stands before the slash is the beginning of a definition, so a reader that
does not know comments has found no error in it, and the slash is the first
one (`Phase.errors_parse_of_completes`).
-/

namespace Netlist

/-! ## Text before the first slash -/

/-- Only a comment has a slash behind its first character. -/
theorem Item.Spans.slash_not_mem {comments : Bool} {item : Item} {c : Char}
    {more behind : List Char} (spans : item.Spans comments (c :: more) behind) (other : c ≠ '/') :
    '/' ∉ c :: more := by
  intro slash
  cases spans with
  | name _ run _ => cases run.inside _ slash
  | keyword _ run _ => cases run.inside _ slash
  | number run _ _ => cases run.inside _ slash
  | mark _ => exact other (List.mem_singleton.1 slash).symm
  | leadingZero run _ => cases run.inside _ slash
  | numberTooLarge run _ _ => cases run.inside _ slash
  | strayCharacter _ _ _ _ => exact other (List.mem_singleton.1 slash).symm
  | openComment _ _ => exact other rfl

namespace Lexeme

theorem Fits.slash_not_mem {comments : Bool} {lexeme : Lexeme} {c : Char}
    {more behind : List Char} (fits : Fits comments lexeme behind)
    (begins : lexeme.text = c :: more) (other : c ≠ '/') : '/' ∉ lexeme.text := by
  cases fits with
  | blank _ =>
    cases begins
    exact fun slash => other (List.mem_singleton.1 slash).symm
  | line _ _ _ =>
    cases begins
    exact absurd rfl other
  | block _ _ =>
    cases begins
    exact absurd rfl other
  | item spanned =>
    obtain ⟨item, -, -, spans⟩ := spanned .start
    rw [begins] at spans ⊢
    exact spans.slash_not_mem other

/-- Whether comments are layout makes no difference to a lexeme that does not begin with a slash. -/
theorem first_of_ne_slash {c : Char} (other : c ≠ '/') (comments : Bool) (rest : List Char) :
    first comments c rest = first false c rest := by
  simp [first, other]

/-- The first lexeme of a text without a slash does not reach into what stands behind the text, if
that begins with a slash. -/
theorem exists_first_append_slash {c : Char} {rest behind : List Char} (clean : '/' ∉ c :: rest)
    (begins : ∀ d ∈ behind.head?, d = '/') :
    ∃ lexeme later, c :: rest = lexeme.text ++ later ∧ later.length < (c :: rest).length ∧
      ∀ comments, first comments c (rest ++ behind) = (lexeme, later ++ behind) := by
  have other : c ≠ '/' := fun slash => clean (slash ▸ .head _)
  obtain ⟨more, starts⟩ := exists_text_first false c (rest ++ behind)
  have spared := (fits_first false c (rest ++ behind)).slash_not_mem starts other
  have whole := text_append_first false c (rest ++ behind)
  have cut (comments : Bool) := first_of_ne_slash other comments (rest ++ behind)
  generalize first false c (rest ++ behind) = found at starts spared whole cut
  obtain ⟨lexeme, remains⟩ := found
  have within : ∃ later, c :: rest = lexeme.text ++ later ∧ remains = later ++ behind := by
    rw [← List.cons_append] at whole
    rcases List.append_eq_append_iff.1 whole with inside | ⟨beyond, reaches, behindAll⟩
    · exact inside
    · cases beyond with
      | nil => exact ⟨[], by simpa using reaches.symm, behindAll.symm⟩
      | cons d beyond =>
        rw [behindAll] at begins
        have slash : '/' ∈ lexeme.text := by
          rw [show lexeme.text = c :: rest ++ d :: beyond from reaches, begins d rfl]
          simp
        exact absurd slash spared
  obtain ⟨later, front, rfl⟩ := within
  refine ⟨lexeme, later, front, ?_, cut⟩
  rw [front, starts, List.length_append, List.length_cons]
  omega

/-- A text without a slash is cut in one way, at the end of a text or in front of a slash. -/
theorem exists_lexemes_append_slash {before behind : List Char} (clean : '/' ∉ before)
    (begins : ∀ c ∈ behind.head?, c = '/') :
    ∃ front : List Lexeme, front.flatMap Lexeme.text = before ∧
      ∀ comments, lexemes comments (before ++ behind) = front ++ lexemes comments behind := by
  induction size : before.length using Nat.strongRecOn generalizing before with
  | ind n ih =>
    cases before with
    | nil => exact ⟨[], rfl, fun _ => rfl⟩
    | cons c rest =>
      obtain ⟨lexeme, later, split, shorter, cut⟩ := exists_first_append_slash clean begins
      have cleanLater : '/' ∉ later :=
        fun slash => clean (split ▸ List.mem_append_right _ slash)
      obtain ⟨front, written, lexemes⟩ := ih later.length (size ▸ shorter) cleanLater rfl
      refine ⟨lexeme :: front, by rw [List.flatMap_cons, written, split], fun comments => ?_⟩
      rw [List.cons_append, lexemes_cons, cut, lexemes]
      rfl

/-- In a text without a slash it makes no difference whether comments are layout. -/
theorem lexemes_of_slash_not_mem {text : List Char} (clean : '/' ∉ text) (comments : Bool) :
    lexemes comments text = lexemes false text := by
  have ends : ∀ c ∈ ([] : List Char).head?, c = '/' := nofun
  obtain ⟨front, -, cut⟩ := exists_lexemes_append_slash clean ends
  simp only [List.append_nil, lexemes_nil] at cut
  rw [cut, cut]

end Lexeme

/-- If comments are not layout, a slash is a stray character. -/
theorem Item.ofLexemes_slash (position : Position) (behind : List Char) :
    ofLexemes position (Lexeme.lexemes false ('/' :: behind)) =
      .fault ⟨.strayCharacter '/', "/", position⟩ ::
        ofLexemes (position.after ['/']) (Lexeme.lexemes false behind) := by
  have single : Lexeme.first false '/' behind = (⟨['/'], .fault (.strayCharacter '/')⟩, behind) :=
    Lexeme.first_single (by decide) (by decide) fun on => absurd on Bool.false_ne_true
  rw [Lexeme.lexemes_cons, single]
  rfl

namespace Cursor

theorem items_of_slash_not_mem {text : String} (clean : '/' ∉ text.toList) (comments : Bool) :
    (ofText text).items comments = (ofText text).items false := by
  have cut := Lexeme.lexemes_of_slash_not_mem clean comments
  rw [items, items, ofText, cut]

/-- Before the first slash of a text the items are the same whether comments are layout or not.  If
they are not, then the slash is the next item. -/
theorem exists_items_slash {before : String} (clean : '/' ∉ before.toList) (behind : String) :
    ∃ front withComments without,
      (ofText (before ++ "/" ++ behind)).items true = front ++ withComments ∧
      (ofText (before ++ "/" ++ behind)).items false =
        front ++ .fault ⟨.strayCharacter '/', "/", .behind before.toList⟩ :: without := by
  have written : (before ++ "/" ++ behind).toList = before.toList ++ '/' :: behind.toList := by
    simp
  have slash : ∀ c ∈ ('/' :: behind.toList).head?, c = '/' := by simp
  obtain ⟨front, texts, cut⟩ := Lexeme.exists_lexemes_append_slash clean slash
  have split (comments : Bool) : (ofText (before ++ "/" ++ behind)).items comments =
      Item.ofLexemes .start front ++ Item.ofLexemes (.behind before.toList)
        (Lexeme.lexemes comments ('/' :: behind.toList)) := by
    rw [items, ofText, written, cut, Item.ofLexemes_append, texts, Position.after_start]
  have stray := split false
  rw [Item.ofLexemes_slash] at stray
  exact ⟨_, _, _, split true, stray⟩

end Cursor

/-! ## The slash is the first error -/

/-- Behind tokens that begin what a phase wants, a fault is the first error. -/
theorem Phase.errors_parse_of_completes {phase : Phase} (onTrack : ¬phase.IsLost)
    {stop : Position} {tokens : List Token} {more : List Symbol} {statements : List Statement}
    (demand : phase.Completes (tokens.map Token.symbol ++ more) statements) (error : LexicalError)
    (rest : List Item) :
    Event.errors (phase.parse stop (tokens.map .token ++ .fault error :: rest)).events =
      [.lexical error] := by
  induction tokens generalizing phase statements with
  | nil =>
    have found : Event.errors (phase.step (.fault error)).1 = [.lexical error] := by
      rw [events_step_fault]
      rfl
    simp [parse, found]
  | cons token others ih =>
    obtain ⟨fine, later, -, further⟩ := (completes_cons_iff onTrack).1 demand
    have onward := ih (not_isLost_step onTrack fine) further
    simp [parse, fine, onward]

/-- If a text is accepted with comments, then its first slash is the first error without. -/
theorem parse_eq_error_of_slash {maxErrors : Nat} {before behind : String}
    {definition : Definition} (clean : '/' ∉ before.toList)
    (accepted : parse ⟨true, maxErrors⟩ (before ++ "/" ++ behind) = .ok definition) :
    parse ⟨false, maxErrors⟩ (before ++ "/" ++ behind) =
      .error (.lexical ⟨.strayCharacter '/', "/", .behind before.toList⟩) := by
  obtain ⟨front, _, later, withComments, without⟩ := Cursor.exists_items_slash clean behind
  obtain ⟨tokens, items, derived⟩ := parse_eq_ok_iff_items.1 accepted
  -- What stands before the slash are the first tokens of the text.
  rw [withComments] at items
  obtain ⟨earlier, others, rfl, rfl, -⟩ := List.append_eq_map_iff.1 items
  rw [List.map_append] at derived
  have onTrack : ¬Phase.outside.IsLost := id
  rw [parse_eq_error_iff, parseEvents, without,
    Phase.errors_parse_of_completes onTrack derived]
  rfl

/-- A text without a slash is read in the same way whether comments are layout or not.  A text that
is accepted with comments and has a slash fails without them, at the first slash. -/
theorem comments_off_restricts (maxErrors : Nat) (text : String) :
    ('/' ∉ text.toList →
      (Cursor.ofText text).tokens true = (Cursor.ofText text).tokens false ∧
      parse ⟨true, maxErrors⟩ text = parse ⟨false, maxErrors⟩ text ∧
      check ⟨true, maxErrors⟩ text = check ⟨false, maxErrors⟩ text) ∧
    ∀ definition, parse ⟨true, maxErrors⟩ text = .ok definition →
      ('/' ∉ text.toList → parse ⟨false, maxErrors⟩ text = .ok definition) ∧
      ('/' ∈ text.toList → ∃ before behind : String, text = before ++ "/" ++ behind ∧
        '/' ∉ before.toList ∧ parse ⟨false, maxErrors⟩ text =
          .error (.lexical ⟨.strayCharacter '/', "/", .behind before.toList⟩)) := by
  have same (clean : '/' ∉ text.toList) :
      parse ⟨true, maxErrors⟩ text = parse ⟨false, maxErrors⟩ text := by
    apply parse_eq_of_events
    rw [parseEvents, parseEvents, Cursor.items_of_slash_not_mem clean]
  refine ⟨fun clean => ⟨?_, same clean, ?_⟩, fun definition accepted =>
    ⟨fun clean => (same clean).symm.trans accepted, fun slash => ?_⟩⟩
  · rw [Cursor.tokens, Cursor.items_of_slash_not_mem clean, Cursor.tokens]
  · rw [check_eq_take_survey, check_eq_take_survey, survey, survey,
      Cursor.items_of_slash_not_mem clean]
  · obtain ⟨before, behind, split, clean⟩ := List.eq_append_cons_of_mem slash
    have whole : text = String.ofList before ++ "/" ++ String.ofList behind := by
      apply String.toList_injective
      simpa using split
    refine ⟨.ofList before, .ofList behind, whole, by simpa using clean, ?_⟩
    rw [whole] at accepted ⊢
    exact parse_eq_error_of_slash (by simpa using clean) accepted

/-- The first slash begins a comment inside of a statement, on the second line. -/
theorem comments_off_restricts_inside :
    parse ⟨true, 3⟩ "(MONITOR\n a /* é / */ b)" = .ok ⟨[.monitor ⟨⟨"a", none⟩, [⟨"b", none⟩]⟩]⟩ ∧
      '/' ∈ "(MONITOR\n a /* é / */ b)".toList ∧
      ∃ before behind : String, "(MONITOR\n a /* é / */ b)" = before ++ "/" ++ behind ∧
        '/' ∉ before.toList ∧ parse ⟨false, 3⟩ "(MONITOR\n a /* é / */ b)" =
          .error (.lexical ⟨.strayCharacter '/', "/", .behind before.toList⟩) := by
  have accepted : parse ⟨true, 3⟩ "(MONITOR\n a /* é / */ b)" =
      .ok ⟨[.monitor ⟨⟨"a", none⟩, [⟨"b", none⟩]⟩]⟩ :=
    parse_eq_ok_iff_events.2 (by decide +kernel)
  have slash : '/' ∈ "(MONITOR\n a /* é / */ b)".toList := by decide +kernel
  exact ⟨accepted, slash, ((comments_off_restricts 3 _).2 _ accepted).2 slash⟩

end Netlist

import Netlist.Proofs.Translation

/-!
# A lexeme that fits is cut off

`Lexeme.Fits` says where a lexeme can stand, without the cutting.  Here is the
converse of `Lexeme.fits_first`: if a lexeme fits in front of a text, then it is
the first lexeme there (`Lexeme.Fits.first_eq`).  To know how a text is cut it
is enough to find lexemes that fit.

Two kinds of text are cut in this way.  A gap says nothing, whatever it is made
of (`Gap.content_append`).  A text that ends with a lexeme without fault says
the same in front of every text that does not begin with a letter or a digit,
because the lexeme fits there too (`Lexeme.content_append_of_stops`).
-/

namespace Netlist

/-! ## The first lexeme is the one that fits -/

namespace Lexeme

variable {comments : Bool} {c : Char} {behind : List Char}

theorem first_letters {more : List Char} (letter : c.isAlpha = true)
    (run : IsRun Char.isAlphanum (c :: more) behind) :
    first comments c (more ++ behind) = (⟨c :: more, Meaning.ofLetters (c :: more)⟩, behind) := by
  rw [first_letter letter, run_append (fun d h => run.inside d (.tail _ h)) run.stops]

theorem first_digits {more : List Char} (run : IsRun Char.isDigit (c :: more) behind) :
    first comments c (more ++ behind) = (⟨c :: more, Meaning.ofDigits (c :: more)⟩, behind) := by
  rw [first_digit (run.inside c (.head _)),
    run_append (fun d h => run.inside d (.tail _ h)) run.stops]

/-- The text that an item spans is cut off as the lexeme of the item. -/
theorem first_of_spans {item : Item} {more : List Char}
    (spans : item.Spans comments (c :: more) behind)
    (shows : item.text = String.ofList (c :: more) ∨ item.IsOpenComment) :
    first comments c (more ++ behind) = (⟨c :: more, item.meaning⟩, behind) := by
  cases spans with
  | @name _ _ _ word _ letter run fresh =>
    obtain rfl : word = String.ofList (c :: more) := shows.resolve_right id
    rw [first_letters letter run, Meaning.ofLetters, Symbol.ofWord,
      Keyword.ofWord?_eq_none_iff.2 fresh]
    rfl
  | @keyword _ _ _ word _ letter run reserved =>
    have spelled : word.spelling = String.ofList (c :: more) := shows.resolve_right id
    rw [first_letters letter run, Meaning.ofLetters, ← spelled, Symbol.ofWord_spelling]
    rfl
  | @number _ _ value _ run noZero same =>
    have fits : Nat.ofDigitChars 10 (c :: more) 0 < UInt32.size := same ▸ value.toNat_lt
    have means : Meaning.ofDigits (c :: more) =
        .symbol (.number (UInt32.ofNat (Nat.ofDigitChars 10 (c :: more) 0))) :=
      (if_neg noZero).trans (if_pos fits)
    rw [first_digits run, means, ← same, UInt32.ofNat_toNat]
    rfl
  | mark listed => exact first_mark (ofMark?_eq_some_iff.2 listed) behind
  | leadingZero run zero =>
    have means : Meaning.ofDigits (c :: more) = .fault .leadingZero := if_pos zero
    rw [first_digits run, means]
    rfl
  | numberTooLarge run noZero large =>
    have means : Meaning.ofDigits (c :: more) = .fault .numberTooLarge :=
      (if_neg noZero).trans (if_neg (Nat.not_lt.2 large))
    rw [first_digits run, means]
    rfl
  | strayCharacter stray notAlphanum unlisted noComment =>
    have notBlank : isBlank c = false := by
      rw [Bool.eq_false_iff, ne_eq, isBlank_iff]
      exact stray
    rw [List.nil_append, first_single notBlank notAlphanum noComment, Meaning.ofMark,
      ofMark?_eq_none_iff.2 unlisted]
    rfl
  | openComment on unended =>
    rw [List.append_nil, first_block on rfl, block_of_unended unended]
    rfl

theorem meaning_of_item? {lexeme : Lexeme} {position : Position} {item : Item}
    (found : lexeme.item? position = some item) : lexeme.meaning = item.meaning := by
  unfold item? at found
  split at found <;> cases found <;> assumption

/-- A lexeme that fits is cut off. -/
theorem Fits.first_eq {lexeme : Lexeme} {more : List Char} (fits : Fits comments lexeme behind)
    (begins : lexeme.text = c :: more) : first comments c (more ++ behind) = (lexeme, behind) := by
  cases fits with
  | blank blank =>
    cases begins
    exact first_blank (isBlank_iff.2 blank)
  | @line body _ on feedless ends =>
    cases begins
    have inside : ∀ d ∈ '/' :: body, decide (d ≠ '\n') = true := by
      intro d h
      refine decide_eq_true fun feed => ?_
      subst feed
      cases h with
      | tail _ later => exact feedless later
    rw [first_line on rfl]
    exact run_append inside fun d h => by simp [ends d h]
  | block on unended =>
    cases begins
    rw [first_block on rfl, ← block_append unended behind]
    simp
  | item spanned =>
    obtain ⟨item, found, shows, spans⟩ := spanned .start
    obtain ⟨text, meaning⟩ := lexeme
    obtain rfl : text = c :: more := begins
    rw [first_of_spans spans shows, ← meaning_of_item? found]

theorem Fits.text_ne_nil {lexeme : Lexeme} (fits : Fits comments lexeme behind) :
    lexeme.text ≠ [] := by
  cases fits with
  | item spanned =>
    obtain ⟨item, -, -, spans⟩ := spanned .start
    exact spans.ne_nil
  | _ => exact List.cons_ne_nil _ _

/-- What a text says that begins with a lexeme that fits. -/
theorem Fits.content_append {lexeme : Lexeme} (fits : Fits comments lexeme behind) :
    content comments (lexeme.text ++ behind) =
      [lexeme.meaning].filter (· ≠ .layout) ++ content comments behind := by
  obtain ⟨c, more, begins⟩ := List.exists_cons_of_ne_nil fits.text_ne_nil
  rw [begins, List.cons_append, content_cons, fits.first_eq begins]

/-- What stands behind some lexemes of a text is cut as it is in the text. -/
theorem lexemes_back {text : List Char} {front back : List Lexeme}
    (cut : lexemes comments text = front ++ back) :
    lexemes comments (back.flatMap Lexeme.text) = back := by
  fun_induction lexemes comments text generalizing front with
  | case1 =>
    obtain ⟨rfl, rfl⟩ := List.nil_eq_append_iff.1 cut
    exact lexemes_nil comments
  | case2 c rest ih =>
    cases front with
    | nil =>
      rw [List.nil_append] at cut
      rw [← cut, List.flatMap_cons, flatMap_text_lexemes, text_append_first, lexemes_cons]
    | cons first front => exact ih (List.cons.inj cut).2

/-- Every lexeme of a text fits in front of what follows it. -/
theorem fits_of_lexemes {text : List Char} {front back : List Lexeme} {lexeme : Lexeme}
    (cut : lexemes comments text = front ++ lexeme :: back) :
    Fits comments lexeme (back.flatMap Lexeme.text) := by
  have whole := lexemes_back cut
  generalize written : (lexeme :: back).flatMap Lexeme.text = rest at whole
  cases rest with
  | nil => simp at whole
  | cons c rest =>
    rw [lexemes_cons] at whole
    obtain ⟨rfl, rfl⟩ := List.cons.inj whole
    rw [flatMap_text_lexemes]
    exact fits_first comments c rest

end Lexeme

/-! ## Gaps -/

theorem Gap.content_append {comments : Bool} {gap behind : List Char}
    (follows : Gap comments behind gap) :
    Lexeme.content comments (gap ++ behind) = Lexeme.content comments behind := by
  induction follows with
  | nil => rfl
  | blank blank _ ih => exact (Lexeme.Fits.blank blank).content_append.trans ih
  | line on body ends _ ih =>
    rw [List.append_assoc]
    exact (Lexeme.Fits.line on body ends).content_append.trans ih
  | @block body more on unended _ ih =>
    have cut : '/' :: '*' :: body ++ '*' :: '/' :: more ++ behind =
        ('/' :: '*' :: body ++ ['*', '/']) ++ (more ++ behind) := by simp
    rw [cut]
    exact (Lexeme.Fits.block on unended).content_append.trans ih

/-! ## Another text behind a lexeme -/

/-- A token spans the same text in front of every text that does not begin with a letter or a
digit. -/
theorem Item.Spans.replace {comments : Bool} {token : Token} {text behind other : List Char}
    (spans : Item.Spans comments (.token token) text behind) (stops : Lexeme.Stops other) :
    Item.Spans comments (.token token) text other := by
  cases spans with
  | name letter run fresh => exact .name letter ⟨run.nonempty, run.inside, stops⟩ fresh
  | keyword letter run reserved => exact .keyword letter ⟨run.nonempty, run.inside, stops⟩ reserved
  | number run noZero same =>
    have noDigit : ∀ d ∈ other.head?, d.isDigit = false := by
      intro d h
      have apart := stops d h
      rw [Char.isAlphanum, Bool.or_eq_false_iff] at apart
      exact apart.2
    exact .number ⟨run.nonempty, run.inside, noDigit⟩ noZero same
  | mark listed => exact .mark listed

namespace Lexeme

variable {comments : Bool} {behind other : List Char}

/-- A lexeme without fault fits in front of every text that does not begin with a letter or a
digit, unless it is a line comment up to the end of its line. -/
theorem Fits.replace {lexeme : Lexeme} (fits : Fits comments lexeme behind)
    (sound : ∀ cause, lexeme.meaning ≠ .fault cause) (onLine : ∃ d ∈ behind.head?, d ≠ '\n')
    (stops : Stops other) : Fits comments lexeme other := by
  cases fits with
  | blank blank => exact .blank blank
  | line _ _ ends =>
    obtain ⟨d, first, apart⟩ := onLine
    exact absurd (ends d first) apart
  | block on unended => exact .block on unended
  | item spanned =>
    refine .item fun position => ?_
    obtain ⟨item, found, shows, spans⟩ := spanned position
    cases item with
    | token token => exact ⟨_, found, shows, spans.replace stops⟩
    | fault error => exact absurd (meaning_of_item? found) (sound error.cause)

/-- What a text says that is cut behind lexemes without fault, inside of a line, and goes on in
another way. -/
theorem content_append_of_stops {text : List Char} {front back : List Lexeme}
    (cut : lexemes comments text = front ++ back)
    (sound : ∀ lexeme ∈ front, ∀ cause, lexeme.meaning ≠ .fault cause)
    (onLine : ∃ d ∈ (back.flatMap Lexeme.text).head?, d ≠ '\n') (stops : Stops other) :
    content comments (front.flatMap Lexeme.text ++ other) =
      (front.map meaning).filter (· ≠ .layout) ++ content comments other := by
  rcases List.eq_nil_or_concat front with rfl | ⟨earlier, last, rfl⟩
  · rfl
  · rw [List.concat_eq_append] at cut sound ⊢
    rw [List.append_assoc, List.singleton_append] at cut
    have fits := fits_of_lexemes cut
    obtain ⟨c, more, begins⟩ := List.exists_cons_of_ne_nil fits.text_ne_nil
    have meets : Replaces (last.text ++ other) ((last :: back).flatMap Lexeme.text) := by
      intro d h
      rw [begins] at h
      rw [List.flatMap_cons, begins]
      exact .inr h
    have ended : ∀ lexeme ∈ earlier, lexeme.meaning ≠ .fault .openComment :=
      fun lexeme h => sound lexeme (List.mem_append_left _ h) _
    have here := (fits.replace (sound last (by simp)) onLine stops).content_append
    rw [List.flatMap_append, List.flatMap_singleton, List.append_assoc,
      content_append cut ended meets, here, List.map_append, List.filter_append,
      List.append_assoc]
    rfl

end Lexeme

end Netlist

import Netlist.Cursor

/-!
# What a text says

The *content* of a text is what remains of it when positions and layout are
forgotten: the meanings of its lexemes, in order.  The items of a text say its
content (`map_meaning_items`), and a text has tokens exactly if its content is
a list of symbols (`exists_tokens_iff`).  Whatever a reader does that does not
depend on positions can be said of the content alone.

The equations of `first` say which lexeme a character begins.  They are the
only place where the order of the tests in it matters.
-/

namespace Netlist

/-- What an item says, wherever it stands. -/
def Item.meaning : Item → Meaning
  | token t => .symbol t.symbol
  | fault e => .fault e.cause

namespace Lexeme

/-- What a text says: the meanings of its lexemes, without the layout. -/
def content (comments : Bool) (text : List Char) : List Meaning :=
  ((lexemes comments text).map meaning).filter (· ≠ .layout)

@[simp] theorem content_nil (comments : Bool) : content comments [] = [] := by
  simp [content]

theorem content_cons (comments : Bool) (c : Char) (rest : List Char) :
    content comments (c :: rest) =
      [(first comments c rest).1.meaning].filter (· ≠ .layout) ++
        content comments (first comments c rest).2 := by
  rw [content, lexemes_cons, List.map_cons, ← List.singleton_append, List.filter_append]
  rfl

/-! ## The lexeme that a character begins -/

theorem not_slash_of_isAlphanum {c : Char} (h : c.isAlphanum = true) : c ≠ '/' := by
  rintro rfl
  exact absurd h (by decide)

theorem isBlank_eq_false_of_isAlphanum {c : Char} (h : c.isAlphanum = true) :
    isBlank c = false := by
  rw [Bool.eq_false_iff]
  intro blank
  simp only [isBlank, Bool.or_eq_true, beq_iff_eq] at blank
  rcases blank with (((rfl | rfl) | rfl) | rfl) | rfl <;> exact absurd h (by decide)

theorem isDigit_eq_false_of_isAlpha {c : Char} (h : c.isAlpha = true) : c.isDigit = false := by
  have letter : (decide (65 ≤ c.toNat ∧ c.toNat ≤ 90) ||
      (decide (97 ≤ c.toNat) && decide (c.toNat ≤ 122))) = true := h
  show (decide (48 ≤ c.toNat) && decide (c.toNat ≤ 57)) = false
  simp only [Bool.or_eq_true, Bool.and_eq_true, decide_eq_true_eq] at letter
  simp only [Bool.and_eq_false_iff, decide_eq_false_iff_not]
  omega

variable {comments : Bool} {c : Char} {rest : List Char}

theorem first_blank (h : isBlank c = true) : first comments c rest = (⟨[c], .layout⟩, rest) := by
  rw [first, if_pos h]

theorem first_digit (h : c.isDigit = true) :
    first comments c rest = run c rest Char.isDigit Meaning.ofDigits := by
  have alphanum : c.isAlphanum = true := by simp [Char.isAlphanum, h]
  simp [first, isBlank_eq_false_of_isAlphanum alphanum, not_slash_of_isAlphanum alphanum, h]

theorem first_letter (h : c.isAlpha = true) :
    first comments c rest = run c rest Char.isAlphanum Meaning.ofLetters := by
  have alphanum : c.isAlphanum = true := by simp [Char.isAlphanum, h]
  simp [first, isBlank_eq_false_of_isAlphanum alphanum, not_slash_of_isAlphanum alphanum,
    isDigit_eq_false_of_isAlpha h, h]

theorem first_line (on : comments = true) (slash : rest.head? = some '/') :
    first comments '/' rest = run '/' rest (· ≠ '\n') fun _ => .layout := by
  simp [first, on, slash, isBlank]

theorem first_block (on : comments = true) (star : rest.head? = some '*') :
    first comments '/' rest = block rest := by
  simp [first, on, star, isBlank]

/-- A character that begins neither layout nor a run is a lexeme by itself, unless it is a slash
that begins a comment. -/
theorem first_single (notBlank : isBlank c = false) (notAlphanum : c.isAlphanum = false)
    (noComment : comments = true → c = '/' → rest.head? ≠ some '/' ∧ rest.head? ≠ some '*') :
    first comments c rest = (⟨[c], Meaning.ofMark c⟩, rest) := by
  have noLetter : c.isDigit = false ∧ c.isAlpha = false := by
    simpa [Char.isAlphanum, and_comm] using notAlphanum
  have noLine : ¬(comments = true ∧ c = '/' ∧ rest.head? = some '/') :=
    fun h => (noComment h.1 h.2.1).1 h.2.2
  have noBlock : ¬(comments = true ∧ c = '/' ∧ rest.head? = some '*') :=
    fun h => (noComment h.1 h.2.1).2 h.2.2
  simp [first, notBlank, noLetter, noLine, noBlock]

/-- A run takes all characters up to the first that fails the test. -/
theorem run_append {test : Char → Bool} {more behind : List Char} {meaning : List Char → Meaning}
    (inside : ∀ d ∈ more, test d = true) (stops : ∀ d ∈ behind.head?, test d = false) :
    run c (more ++ behind) test meaning = (⟨c :: more, meaning (c :: more)⟩, behind) := by
  have taken : behind.takeWhile test = [] ∧ behind.dropWhile test = behind := by
    cases behind with
    | nil => exact ⟨rfl, rfl⟩
    | cons d others => simp [stops d (by simp)]
  simp [run, List.takeWhile_append_of_pos inside, List.dropWhile_append_of_pos inside, taken]

end Lexeme

/-! ## Items and tokens -/

theorem Item.map_meaning_ofLexemes (position : Position) (lexemes : List Lexeme) :
    (ofLexemes position lexemes).map meaning =
      (lexemes.map Lexeme.meaning).filter (· ≠ .layout) := by
  induction lexemes generalizing position with
  | nil => rfl
  | cons lexeme rest ih =>
    rw [ofLexemes, List.map_append, ih, List.map_cons, ← List.singleton_append,
      List.filter_append]
    congr 1
    cases said : lexeme.meaning <;> simp [Lexeme.item?, said, Item.meaning]

/-- Items that say symbols are tokens. -/
theorem Item.exists_tokens_of_map_meaning {items : List Item} {symbols : List Symbol}
    (said : items.map meaning = symbols.map .symbol) :
    ∃ tokens : List Token, items = tokens.map .token ∧ tokens.map Token.symbol = symbols := by
  induction items generalizing symbols with
  | nil => exact ⟨[], rfl, by simpa using said⟩
  | cons item rest ih =>
    cases symbols with
    | nil => cases said
    | cons symbol others =>
      obtain ⟨first, said⟩ := List.cons.inj said
      obtain ⟨tokens, rfl, rfl⟩ := ih said
      cases item with
      | token token =>
        cases first
        exact ⟨token :: tokens, rfl, rfl⟩
      | fault error => cases first

namespace Cursor

/-- The items of a text say its content. -/
theorem map_meaning_items (comments : Bool) (cursor : Cursor) :
    (cursor.items comments).map Item.meaning = Lexeme.content comments cursor.rest :=
  Item.map_meaning_ofLexemes _ _

/-- A text has tokens exactly if all of its items are tokens. -/
theorem tokens_eq_ok_iff {comments : Bool} {cursor : Cursor} {tokens : List Token} :
    cursor.tokens comments = .ok tokens ↔ cursor.items comments = tokens.map .token := by
  rw [Cursor.tokens]
  generalize cursor.items comments = items
  constructor
  · intro read
    induction items generalizing tokens with
    | nil =>
      cases read
      rfl
    | cons item rest ih =>
      rw [List.mapM_cons] at read
      cases item with
      | fault error => cases read
      | token token =>
        simp only [bind, Except.bind] at read
        split at read
        · cases read
        · rename_i others readRest
          cases read
          rw [ih readRest, List.map_cons]
  · rintro rfl
    induction tokens with
    | nil => rfl
    | cons token others ih =>
      rw [List.map_cons, List.mapM_cons]
      simp only [ih]
      rfl

/-- A text has tokens with given symbols exactly if it says these symbols. -/
theorem exists_tokens_iff {comments : Bool} {cursor : Cursor} {symbols : List Symbol} :
    (∃ tokens, cursor.tokens comments = .ok tokens ∧ tokens.map Token.symbol = symbols) ↔
      Lexeme.content comments cursor.rest = symbols.map .symbol := by
  rw [← map_meaning_items]
  constructor
  · intro read
    obtain ⟨tokens, read, rfl⟩ := read
    rw [tokens_eq_ok_iff.1 read, List.map_map, List.map_map]
    rfl
  · intro said
    obtain ⟨tokens, all, same⟩ := Item.exists_tokens_of_map_meaning said
    exact ⟨tokens, tokens_eq_ok_iff.2 all, same⟩

end Cursor

end Netlist

import Netlist.Diagnostic
import Netlist.Symbol

/-!
# Lexemes

A text is cut into *lexemes* from left to right: every character belongs to
exactly one.  What a lexeme means is one of three things.  *Layout* separates
symbols and has no other meaning: a blank character, a line comment without the
line feed that ends it, or a block comment.  A *symbol* is a word of the
language.  A *fault* is text that is neither, and the cut goes on behind it.

Runs are as long as they can be: a number takes all digits that follow, and a
word all letters and digits.  A block comment ends with the first `*/` after
its opening mark, so `/*/` is still open; one that never ends takes all of the
remaining text.  Comments can be turned off, and then a slash begins nothing.

`first` cuts one lexeme off a text and `lexemes` all of them.  The cut loses
nothing (`flatMap_text_lexemes`), and each lexeme takes at least one character
(`length_first_lt`), which is why `lexemes` ends.
-/

namespace Netlist

/-- Whether a character is a space, a tab, a line feed, a form feed or a carriage return. -/
def isBlank (c : Char) : Bool :=
  c == ' ' || c == '\t' || c == '\n' || c == '\x0c' || c == '\r'

/-- What a lexeme means. -/
inductive Meaning
  /-- It separates symbols. -/
  | layout
  /-- It is a word of the language. -/
  | symbol (symbol : Symbol)
  /-- It is no word of the language. -/
  | fault (cause : LexicalCause)
deriving DecidableEq

/-- What a run of digits means: a number that fits into 32 bits, written without a leading zero. -/
def Meaning.ofDigits (digits : List Char) : Meaning :=
  let value := Nat.ofDigitChars 10 digits 0
  if 1 < digits.length ∧ digits.head? = some '0' then
    fault .leadingZero
  else if value < UInt32.size then
    symbol (.number (UInt32.ofNat value))
  else
    fault .numberTooLarge

/-- What a run of letters and digits means. -/
def Meaning.ofLetters (letters : List Char) : Meaning :=
  symbol (.ofWord (String.ofList letters))

/-- What a character that begins neither layout, a number nor a word means. -/
def Meaning.ofMark (c : Char) : Meaning :=
  match Symbol.ofMark? c with
  | some mark => symbol mark
  | none => fault (.strayCharacter c)

/-- A piece of text with its meaning. -/
structure Lexeme where
  /-- The characters. -/
  text : List Char
  /-- What they mean. -/
  meaning : Meaning
deriving DecidableEq

namespace Lexeme

/-! ## Cutting off one lexeme -/

/-- The number of characters through the first `*/`. -/
def commentLength? : List Char → Option Nat
  | '*' :: '/' :: _ => some 2
  | _ :: rest => (commentLength? rest).map (· + 1)
  | [] => none

/-- The lexeme of a character and the run behind it that satisfies a test, and what follows. -/
def run (c : Char) (rest : List Char) (test : Char → Bool) (meaning : List Char → Meaning) :
    Lexeme × List Char :=
  let text := c :: rest.takeWhile test
  (⟨text, meaning text⟩, rest.dropWhile test)

/-- The block comment whose opening slash is followed by `rest`, and what follows it. -/
def block (rest : List Char) : Lexeme × List Char :=
  match commentLength? rest.tail with
  | some n => (⟨'/' :: rest.take (n + 1), .layout⟩, rest.drop (n + 1))
  | none => (⟨'/' :: rest, .fault .openComment⟩, [])

/-- The first lexeme of a text that begins with `c`, and what follows it. -/
def first (comments : Bool) (c : Char) (rest : List Char) : Lexeme × List Char :=
  if isBlank c then
    (⟨[c], .layout⟩, rest)
  else if comments ∧ c = '/' ∧ rest.head? = some '/' then
    run c rest (· ≠ '\n') fun _ => .layout
  else if comments ∧ c = '/' ∧ rest.head? = some '*' then
    block rest
  else if c.isDigit then
    run c rest Char.isDigit Meaning.ofDigits
  else if c.isAlpha then
    run c rest Char.isAlphanum Meaning.ofLetters
  else
    (⟨[c], Meaning.ofMark c⟩, rest)

/-- The first lexeme and what follows it are the text. -/
theorem text_append_first (comments : Bool) (c : Char) (rest : List Char) :
    (first comments c rest).1.text ++ (first comments c rest).2 = c :: rest := by
  unfold first
  split
  · rfl
  split
  · simp [run]
  split
  · rename_i slash
    rw [slash.2.1]
    unfold block
    split <;> simp
  split
  · simp [run]
  split
  · simp [run]
  · rfl

/-- A lexeme begins with the first character of the text. -/
theorem exists_text_first (comments : Bool) (c : Char) (rest : List Char) :
    ∃ more, (first comments c rest).1.text = c :: more := by
  unfold first
  split
  · exact ⟨_, rfl⟩
  split
  · exact ⟨_, rfl⟩
  split
  · rename_i slash
    rw [slash.2.1]
    unfold block
    split <;> exact ⟨_, rfl⟩
  split
  · exact ⟨_, rfl⟩
  split
  · exact ⟨_, rfl⟩
  · exact ⟨_, rfl⟩

/-- What follows a lexeme is shorter than the text. -/
theorem length_first_lt (comments : Bool) (c : Char) (rest : List Char) :
    (first comments c rest).2.length < (c :: rest).length := by
  obtain ⟨more, begins⟩ := exists_text_first comments c rest
  have whole := congrArg List.length (text_append_first comments c rest)
  rw [begins] at whole
  simp only [List.length_append, List.length_cons] at whole ⊢
  omega

/-! ## Cutting a whole text -/

/-- The lexemes of a text. -/
def lexemes (comments : Bool) : List Char → List Lexeme
  | [] => []
  | c :: rest => (first comments c rest).1 :: lexemes comments (first comments c rest).2
termination_by text => text.length
decreasing_by exact length_first_lt comments c rest

@[simp] theorem lexemes_nil (comments : Bool) : lexemes comments [] = [] := by
  rw [lexemes]

theorem lexemes_cons (comments : Bool) (c : Char) (rest : List Char) :
    lexemes comments (c :: rest) =
      (first comments c rest).1 :: lexemes comments (first comments c rest).2 := by
  rw [lexemes]

/-- The lexemes one after the other are the text. -/
theorem flatMap_text_lexemes (comments : Bool) (text : List Char) :
    (lexemes comments text).flatMap Lexeme.text = text := by
  fun_induction lexemes comments text with
  | case1 => rfl
  | case2 c rest ih => rw [List.flatMap_cons, ih, text_append_first]

end Lexeme

end Netlist

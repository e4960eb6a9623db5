import Netlist.Proofs.Content

/-!
# Which symbols a text can say

A text can say every mark, every number and every reserved word, but not every
name: a name has to begin with a letter, to go on with letters and digits, and
not to be reserved (`IsName`).  The symbols in the content of any text are of
this sort (`isReadable_of_mem_content`).

Conversely a symbol of this sort is read back from its text, if the text does
not go on with a letter or a digit that would become part of it
(`content_text`).  So symbols can be written one after the other with a space
between them (`spells_intercalate`), and every list of them is the content of
some text (`exists_content_eq`).
-/

namespace Netlist

/-- A word that can be a name: it begins with a letter, has only letters and digits, and is not
reserved. -/
def IsName (word : String) : Prop :=
  word.toList.head?.any Char.isAlpha ∧ word.toList.all Char.isAlphanum ∧
    word ∉ Keyword.all.map Keyword.spelling

instance : DecidablePred IsName := fun _ => inferInstanceAs (Decidable (_ ∧ _ ∧ _))

/-- A symbol that a text can say. -/
def Symbol.IsReadable : Symbol → Prop
  | name word => IsName word
  | _ => True

/-- Symbols written without a space. -/
def Symbol.spell (symbols : List Symbol) : List Char :=
  symbols.flatMap fun symbol => symbol.text.toList

/-- A symbol to which a letter or a digit behind it would belong. -/
def Symbol.IsWord : Symbol → Prop
  | name _ | keyword _ | number _ => True
  | _ => False

theorem Keyword.ofWord?_eq_none_iff {word : String} :
    ofWord? word = none ↔ word ∉ all.map spelling := by
  rw [Option.eq_none_iff_forall_ne_some, List.mem_map]
  constructor
  · rintro fresh ⟨keyword, -, spelled⟩
    exact fresh keyword (ofWord?_eq_some_iff.2 spelled)
  · intro fresh keyword known
    exact fresh ⟨keyword, mem_all keyword, ofWord?_eq_some_iff.1 known⟩

theorem Symbol.ofWord_of_isName {word : String} (named : IsName word) :
    ofWord word = name word := by
  rw [ofWord, Keyword.ofWord?_eq_none_iff.2 named.2.2]

@[simp] theorem Symbol.ofWord_spelling (word : Keyword) : ofWord word.spelling = keyword word := by
  rw [ofWord, Keyword.ofWord?_spelling]

/-! ## Every symbol of a text is readable -/

/-- Letters and digits are a reserved word or a name. -/
theorem isReadable_ofWord {c : Char} {more : List Char} (letter : c.isAlpha = true)
    (inside : ∀ d ∈ more, d.isAlphanum = true) :
    (Symbol.ofWord (String.ofList (c :: more))).IsReadable := by
  rw [Symbol.ofWord]
  split
  · trivial
  · rename_i fresh
    have alphanum : c.isAlphanum = true := by simp [Char.isAlphanum, letter]
    exact ⟨by simpa using letter, by simpa [alphanum] using inside,
      Keyword.ofWord?_eq_none_iff.1 fresh⟩

namespace Lexeme

variable {comments : Bool}

theorem isReadable_first {c : Char} {rest : List Char} {symbol : Symbol}
    (said : (first comments c rest).1.meaning = .symbol symbol) : symbol.IsReadable := by
  rw [first] at said
  split at said
  · cases said
  split at said
  · cases said
  split at said
  · rw [block] at said
    split at said <;> cases said
  split at said
  · simp only [run, Meaning.ofDigits] at said
    split at said
    · cases said
    split at said <;> cases said
    trivial
  split at said
  · rename_i letter
    cases said
    exact isReadable_ofWord letter fun d => List.all_eq_true.1 List.all_takeWhile d
  · simp only [Meaning.ofMark] at said
    split at said
    · rename_i mark known
      cases said
      unfold Symbol.ofMark? at known
      split at known <;> cases known <;> trivial
    · cases said

/-- A text says only readable symbols. -/
theorem isReadable_of_mem_content {text : List Char} {symbol : Symbol}
    (said : .symbol symbol ∈ content comments text) : symbol.IsReadable := by
  fun_induction lexemes comments text with
  | case1 => simp at said
  | case2 c rest ih =>
    rw [content_cons, List.mem_append, List.mem_filter, List.mem_singleton] at said
    rcases said with ⟨here, -⟩ | later
    · exact isReadable_first here.symm
    · exact ih later

/-! ## Every readable symbol is read back -/

/-- The text goes on with no letter and no digit. -/
def Stops (behind : List Char) : Prop := ∀ c ∈ behind.head?, c.isAlphanum = false

theorem content_blank {c : Char} (blank : isBlank c = true) (behind : List Char) :
    content comments (c :: behind) = content comments behind := by
  simp [content_cons, first_blank blank]

theorem first_mark {c : Char} {symbol : Symbol} (mark : Symbol.ofMark? c = some symbol)
    (behind : List Char) : first comments c behind = (⟨[c], .symbol symbol⟩, behind) := by
  unfold Symbol.ofMark? at mark
  split at mark <;> cases mark <;> simp [first, isBlank, Meaning.ofMark, Symbol.ofMark?]

theorem content_mark {c : Char} {symbol : Symbol} (mark : Symbol.ofMark? c = some symbol)
    (behind : List Char) :
    content comments (c :: behind) = .symbol symbol :: content comments behind := by
  simp [content_cons, first_mark mark]

theorem content_letters {c : Char} {more behind : List Char} (letter : c.isAlpha = true)
    (inside : ∀ d ∈ more, d.isAlphanum = true) (stops : Stops behind) :
    content comments (c :: more ++ behind) =
      .symbol (.ofWord (String.ofList (c :: more))) :: content comments behind := by
  rw [List.cons_append, content_cons, first_letter letter, run_append inside stops]
  rfl

/-- A positive number is not written with a leading zero. -/
theorem head?_toDigits_ne_zero {n : Nat} (positive : 0 < n) :
    (Nat.toDigits 10 n).head? ≠ some '0' := by
  induction n using Nat.strongRecOn with
  | ind n ih =>
    rw [Nat.toDigits_eq_if (by decide)]
    split
    · rename_i small
      have single : ∀ m < 10, 0 < m → Nat.digitChar m ≠ '0' := by decide
      simpa using single n small positive
    · have fewer := ih (n / 10) (by omega) (by omega)
      rw [List.head?_eq_some_head Nat.toDigits_ne_nil] at fewer
      rw [List.head?_append, List.head?_eq_some_head Nat.toDigits_ne_nil]
      exact fewer

theorem ofDigits_toDigits (n : UInt32) :
    Meaning.ofDigits (Nat.toDigits 10 n.toNat) = .symbol (.number n) := by
  have fits : n.toNat < UInt32.size := n.toNat_lt
  have noZero : ¬(1 < (Nat.toDigits 10 n.toNat).length ∧
      (Nat.toDigits 10 n.toNat).head? = some '0') := by
    intro leading
    obtain ⟨several, zero⟩ := leading
    rcases Nat.eq_zero_or_pos n.toNat with none | positive
    · rw [none] at several
      exact absurd several (by decide)
    · exact head?_toDigits_ne_zero positive zero
  simp [Meaning.ofDigits, noZero, Nat.ofDigitChars_ten_toDigits, fits]

theorem content_digits (n : UInt32) {behind : List Char} (stops : Stops behind) :
    content comments (Nat.toDigits 10 n.toNat ++ behind) =
      .symbol (.number n) :: content comments behind := by
  have digits (c : Char) (h : c ∈ Nat.toDigits 10 n.toNat) : c.isDigit = true :=
    Nat.isDigit_of_mem_toDigits (by decide) (by decide) h
  have meaning := ofDigits_toDigits n
  cases written : Nat.toDigits 10 n.toNat with
  | nil => exact absurd written Nat.toDigits_ne_nil
  | cons c more =>
    rw [written] at digits meaning
    have stop (d : Char) (h : d ∈ behind.head?) : d.isDigit = false := by
      have := stops d h
      simp only [Char.isAlphanum, Bool.or_eq_false_iff] at this
      exact this.2
    rw [List.cons_append, content_cons, first_digit (digits c (by simp)),
      run_append (fun d h => digits d (by simp [h])) stop, meaning]
    rfl

theorem content_word {word : String} (letter : word.toList.head?.any Char.isAlpha = true)
    (inside : word.toList.all Char.isAlphanum = true) {behind : List Char}
    (stops : Stops behind) :
    content comments (word.toList ++ behind) =
      .symbol (.ofWord word) :: content comments behind := by
  cases letters : word.toList with
  | nil => simp [letters] at letter
  | cons c more =>
    rw [letters] at letter inside
    have same : word = String.ofList (c :: more) := by rw [← letters, String.ofList_toList]
    have alphanum : ∀ d ∈ more, d.isAlphanum = true := fun d h =>
      List.all_eq_true.1 inside d (by simp [h])
    rw [content_letters (by simpa using letter) alphanum stops, same]

/-- A readable symbol is read back from its text. -/
theorem content_text {symbol : Symbol} (readable : symbol.IsReadable) {behind : List Char}
    (stops : symbol.IsWord → Stops behind) :
    content comments (symbol.text.toList ++ behind) =
      .symbol symbol :: content comments behind := by
  cases symbol with
  | name word =>
    have read : content comments (word.toList ++ behind) = _ :=
      content_word readable.1 readable.2.1 (stops trivial)
    rwa [Symbol.ofWord_of_isName readable] at read
  | keyword word =>
    have letter : word.spelling.toList.head?.any Char.isAlpha = true := by
      cases word <;> decide
    have inside : word.spelling.toList.all Char.isAlphanum = true := by
      cases word <;> decide
    have read : content comments (word.spelling.toList ++ behind) = _ :=
      content_word letter inside (stops trivial)
    rwa [Symbol.ofWord_spelling] at read
  | number n =>
    have written : (Symbol.number n).text.toList = Nat.toDigits 10 n.toNat := by
      simp [Symbol.text]
    rw [written]
    exact content_digits n (stops trivial)
  | _ => exact content_mark rfl behind

/-! ## Several symbols -/

/-- A text reads as symbols wherever no letter and no digit follows it. -/
def Spells (comments : Bool) (text : List Char) (symbols : List Symbol) : Prop :=
  ∀ behind, Stops behind →
    content comments (text ++ behind) = symbols.map .symbol ++ content comments behind

theorem stops_nil : Stops [] := nofun

theorem stops_space (behind : List Char) : Stops (' ' :: behind) := by
  intro c h
  cases h
  decide

theorem stops_mark {c : Char} {symbol : Symbol} (mark : Symbol.ofMark? c = some symbol)
    (behind : List Char) : Stops (c :: behind) := by
  intro d h
  cases h
  unfold Symbol.ofMark? at mark
  split at mark <;> cases mark <;> decide

theorem Spells.content_eq {text : List Char} {symbols : List Symbol}
    (spells : Spells comments text symbols) : content comments text = symbols.map .symbol := by
  simpa using spells [] stops_nil

theorem spells_symbol {symbol : Symbol} (readable : symbol.IsReadable) :
    Spells comments (Symbol.spell [symbol]) [symbol] := by
  intro behind stops
  simpa [Symbol.spell] using content_text readable fun _ => stops

/-- Pieces with a space between them read one after the other. -/
theorem spells_intercalate {pieces : List (List Symbol)}
    (spells : ∀ piece ∈ pieces, Spells comments (Symbol.spell piece) piece) :
    Spells comments ([' '].intercalate (pieces.map Symbol.spell)) pieces.flatten := by
  induction pieces with
  | nil => exact fun _ _ => rfl
  | cons piece others ih =>
    have first : Spells comments (Symbol.spell piece) piece := spells piece (by simp)
    have later := ih fun other h => spells other (by simp [h])
    cases others with
    | nil => simpa [List.intercalate] using first
    | cons second more =>
      intro behind stops
      have spaced : [' '].intercalate ((piece :: second :: more).map Symbol.spell) =
          Symbol.spell piece ++
            ' ' :: [' '].intercalate ((second :: more).map Symbol.spell) := by
        simp [List.intercalate]
      rw [spaced, List.append_assoc, List.cons_append, first _ (stops_space _),
        content_blank (by decide), later behind stops]
      simp

/-- There is a text for every list of readable symbols. -/
theorem exists_content_eq {symbols : List Symbol}
    (readable : ∀ symbol ∈ symbols, symbol.IsReadable) (comments : Bool) :
    ∃ text, content comments text = symbols.map .symbol := by
  have apart : ∀ piece ∈ symbols.map ([·]), Spells comments (Symbol.spell piece) piece := by
    intro piece h
    obtain ⟨symbol, among, rfl⟩ := List.mem_map.1 h
    exact spells_symbol (readable symbol among)
  have together : (symbols.map ([·])).flatten = symbols := by
    rw [← List.flatMap_def, List.flatMap_singleton']
  have spells := spells_intercalate apart
  rw [together] at spells
  exact ⟨_, spells.content_eq⟩

end Lexeme

end Netlist

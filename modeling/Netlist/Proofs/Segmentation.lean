import Netlist.Proofs.Spelling
import Netlist.Proofs.Succession

/-!
# How a text is cut into items

What a text may be cut into is said here without the cutting.  A *gap* is a
text of blanks and comments (`Gap`).  An item *spans* the text that it is about
(`Item.Spans`): a word or a number as long a run as there is, a mark or a stray
character by itself, and a block comment without end all that is left.  A text
*splits* into items if it is gaps and spanned texts in turn, with nothing lost
and nothing taken twice, and each item has the offset of its text (`Splits`).

Every text splits into the items that a cursor yields from its beginning to its
end (`text_splits_into_items`).  It is enough to look at the first lexeme: it is
layout or the text that its item spans (`Lexeme.fits_first`), and it can stand
in front of any text that splits (`Lexeme.Fits.splits`).
-/

namespace Netlist

/-! ## Gaps and spans -/

/-- The blank characters: space, tab, line feed, form feed and carriage return. -/
def blanks : List Char := [' ', '\t', '\n', '\x0c', '\r']

/-- The characters that are symbols by themselves. -/
def marks : List (Char × Symbol) :=
  [('(', .openParen), (')', .closeParen), ('.', .dot), (',', .comma)]

/-- A text of blanks and comments that stands in front of the text `behind`. -/
inductive Gap (comments : Bool) (behind : List Char) : List Char → Prop
  /-- Nothing. -/
  | nil : Gap comments behind []
  /-- A blank character. -/
  | blank {c : Char} {more : List Char} :
    c ∈ blanks → Gap comments behind more → Gap comments behind (c :: more)
  /-- A line comment up to the next line feed, which is not part of it, or to the end. -/
  | line {body more : List Char} :
    comments = true → '\n' ∉ body → (∀ c ∈ (more ++ behind).head?, c = '\n') →
    Gap comments behind more → Gap comments behind ('/' :: '/' :: body ++ more)
  /-- A block comment through the first `*/` behind its two opening characters. -/
  | block {body more : List Char} :
    comments = true → ¬['*', '/'] <:+: body ++ ['*'] →
    Gap comments behind more → Gap comments behind ('/' :: '*' :: body ++ '*' :: '/' :: more)

/-- The text is a run of characters that pass a test, and the text behind does not prolong it. -/
structure IsRun (test : Char → Bool) (text behind : List Char) : Prop where
  /-- There is a character. -/
  nonempty : text ≠ []
  /-- All characters pass. -/
  inside : ∀ c ∈ text, test c = true
  /-- The next one does not. -/
  stops : ∀ c ∈ behind.head?, test c = false

/-- Digits of which the first is a zero that the number does not need. -/
def HasLeadingZero (digits : List Char) : Prop := 1 < digits.length ∧ digits.head? = some '0'

/-- The text that an item shows. -/
def Item.text : Item → String
  | token t => t.text
  | fault e => e.text

/-- The item is a block comment without end. -/
def Item.IsOpenComment : Item → Prop
  | token _ => False
  | fault e => e.cause = .openComment

/-- How far the text of an item reaches, in front of the text behind it. -/
inductive Item.Spans (comments : Bool) : Item → List Char → List Char → Prop
  /-- A name begins with a letter, takes all letters and digits, and is not reserved. -/
  | name {c : Char} {more behind : List Char} {word : String} {position : Position} :
    c.isAlpha = true → IsRun Char.isAlphanum (c :: more) behind →
    String.ofList (c :: more) ∉ Keyword.all.map Keyword.spelling →
    Spans comments (.token ⟨.name word, position⟩) (c :: more) behind
  /-- A reserved word is cut off like a name, and is reserved. -/
  | keyword {c : Char} {more behind : List Char} {word : Keyword} {position : Position} :
    c.isAlpha = true → IsRun Char.isAlphanum (c :: more) behind →
    String.ofList (c :: more) ∈ Keyword.all.map Keyword.spelling →
    Spans comments (.token ⟨.keyword word, position⟩) (c :: more) behind
  /-- A number takes all digits. -/
  | number {digits behind : List Char} {value : UInt32} {position : Position} :
    IsRun Char.isDigit digits behind → ¬HasLeadingZero digits →
    value.toNat = Nat.ofDigitChars 10 digits 0 →
    Spans comments (.token ⟨.number value, position⟩) digits behind
  /-- A mark stands by itself. -/
  | mark {c : Char} {symbol : Symbol} {behind : List Char} {position : Position} :
    (c, symbol) ∈ marks → Spans comments (.token ⟨symbol, position⟩) [c] behind
  /-- A number with a leading zero takes all digits. -/
  | leadingZero {digits behind : List Char} {shown : String} {position : Position} :
    IsRun Char.isDigit digits behind → HasLeadingZero digits →
    Spans comments (.fault ⟨.leadingZero, shown, position⟩) digits behind
  /-- A number that does not fit into 32 bits takes all digits. -/
  | numberTooLarge {digits behind : List Char} {shown : String} {position : Position} :
    IsRun Char.isDigit digits behind → ¬HasLeadingZero digits →
    UInt32.size ≤ Nat.ofDigitChars 10 digits 0 →
    Spans comments (.fault ⟨.numberTooLarge, shown, position⟩) digits behind
  /-- A character that begins nothing else stands by itself. -/
  | strayCharacter {c : Char} {behind : List Char} {shown : String} {position : Position} :
    c ∉ blanks → c.isAlphanum = false → c ∉ marks.map Prod.fst →
    (comments = true → c = '/' → behind.head? ≠ some '/' ∧ behind.head? ≠ some '*') →
    Spans comments (.fault ⟨.strayCharacter c, shown, position⟩) [c] behind
  /-- A block comment without end takes all that is left, and shows only how it begins. -/
  | openComment {body : List Char} {position : Position} :
    comments = true → ¬['*', '/'] <:+: body →
    Spans comments (.fault ⟨.openComment, "/*", position⟩) ('/' :: '*' :: body) []

/-- Behind a text that was already cut, a text is gaps and the texts of some items in turn. -/
inductive Splits (comments : Bool) : List Char → List Char → List Item → Prop
  /-- Behind the last item there is a gap up to the end. -/
  | last {before gap : List Char} : Gap comments [] gap → Splits comments before gap []
  /-- In front of an item there is a gap.  The item has the offset at which its text begins, and
  shows that text unless it is a comment without end. -/
  | item {before gap text behind : List Char} {item : Item} {items : List Item} :
    Gap comments (text ++ behind) gap →
    item.position.offset = (String.ofList (before ++ gap)).utf8ByteSize →
    item.text = String.ofList text ∨ item.IsOpenComment → item.Spans comments text behind →
    Splits comments (before ++ gap ++ text) behind items →
    Splits comments before (gap ++ text ++ behind) (item :: items)

theorem isBlank_iff {c : Char} : isBlank c = true ↔ c ∈ blanks := by
  simp [isBlank, blanks, or_assoc]

theorem ofMark?_eq_some_iff {c : Char} {symbol : Symbol} :
    Symbol.ofMark? c = some symbol ↔ (c, symbol) ∈ marks := by
  constructor
  · intro known
    unfold Symbol.ofMark? at known
    split at known <;> cases known <;> decide
  · intro listed
    simp only [marks, List.mem_cons, Prod.mk.injEq, List.not_mem_nil, or_false] at listed
    rcases listed with ⟨rfl, rfl⟩ | ⟨rfl, rfl⟩ | ⟨rfl, rfl⟩ | ⟨rfl, rfl⟩ <;> rfl

theorem ofMark?_eq_none_iff {c : Char} : Symbol.ofMark? c = none ↔ c ∉ marks.map Prod.fst := by
  rw [Option.eq_none_iff_forall_ne_some, List.mem_map]
  constructor
  · rintro unknown ⟨⟨d, symbol⟩, listed, rfl⟩
    exact unknown symbol (ofMark?_eq_some_iff.2 listed)
  · intro unlisted symbol known
    exact unlisted ⟨(c, symbol), ofMark?_eq_some_iff.1 known, rfl⟩

/-! ## Numbers -/

theorem digitChar_toNat_sub {d : Char} (digit : d.isDigit = true) :
    d.toNat - '0'.toNat < 10 ∧ Nat.digitChar (d.toNat - '0'.toNat) = d := by
  have range : 48 ≤ d.toNat ∧ d.toNat ≤ 57 := by
    have both : (decide (48 ≤ d.toNat) && decide (d.toNat ≤ 57)) = true := digit
    simpa using both
  have small : d.toNat - '0'.toNat < 10 := by
    show d.toNat - 48 < 10
    omega
  have written : ∀ n < 10, (Nat.digitChar n).toNat = 48 + n := by decide
  refine ⟨small, Char.toNat_inj.1 ?_⟩
  rw [written _ small]
  show 48 + (d.toNat - 48) = d.toNat
  omega

/-- Digits behind the digits of a positive number write a longer number. -/
theorem toDigits_append {digits : List Char} (inside : ∀ d ∈ digits, d.isDigit = true) {n : Nat}
    (positive : 0 < n) :
    Nat.toDigits 10 n ++ digits = Nat.toDigits 10 (Nat.ofDigitChars 10 digits n) := by
  induction digits generalizing n with
  | nil => rw [List.append_nil, Nat.ofDigitChars_nil]
  | cons d rest ih =>
    obtain ⟨small, written⟩ := digitChar_toNat_sub (inside d (by simp))
    have single : Nat.toDigits 10 (d.toNat - '0'.toNat) = [d] := by
      rw [Nat.toDigits_of_lt_base small, written]
    have more := ih (fun e h => inside e (by simp [h]))
      (n := 10 * n + (d.toNat - '0'.toNat)) (by omega)
    calc
      Nat.toDigits 10 n ++ d :: rest = (Nat.toDigits 10 n ++ [d]) ++ rest := by simp
      _ = Nat.toDigits 10 (10 * n + (d.toNat - '0'.toNat)) ++ rest := by
        rw [← single, Nat.toDigits_append_toDigits (by decide) positive small]
      _ = Nat.toDigits 10 (Nat.ofDigitChars 10 (d :: rest) n) := by
        rw [more, Nat.ofDigitChars_cons]

/-- Digits without a leading zero are the way to write their value. -/
theorem toDigits_ofDigitChars {digits : List Char} (nonempty : digits ≠ [])
    (inside : ∀ d ∈ digits, d.isDigit = true) (noZero : ¬HasLeadingZero digits) :
    Nat.toDigits 10 (Nat.ofDigitChars 10 digits 0) = digits := by
  obtain ⟨d, rest, rfl⟩ := List.exists_cons_of_ne_nil nonempty
  obtain ⟨small, written⟩ := digitChar_toNat_sub (inside d (by simp))
  have single : Nat.toDigits 10 (d.toNat - '0'.toNat) = [d] := by
    rw [Nat.toDigits_of_lt_base small, written]
  rw [Nat.ofDigitChars_cons, Nat.mul_zero, Nat.zero_add]
  rcases Nat.eq_zero_or_pos (d.toNat - '0'.toNat) with zero | positive
  · have leads : d = '0' := by
      rw [zero] at written
      exact written.symm
    have alone : rest = [] := by
      rcases rest with _ | ⟨e, more⟩
      · rfl
      · exact absurd ⟨by simp, by rw [leads]; rfl⟩ noZero
    rw [alone, Nat.ofDigitChars_nil, single]
  · rw [← toDigits_append (fun e h => inside e (by simp [h])) positive, single,
      List.singleton_append]

namespace Lexeme

variable {comments : Bool} {c : Char} {rest : List Char}

/-! ## Block comments -/

/-- The end of a block comment is the first `*/`. -/
theorem commentLength?_eq_some {text : List Char} {n : Nat} (found : commentLength? text = some n) :
    ∃ body behind, text = body ++ '*' :: '/' :: behind ∧ ¬['*', '/'] <:+: body ++ ['*'] := by
  fun_induction commentLength? text generalizing n with
  | case1 behind => exact ⟨[], behind, rfl, fun within => by simpa using within.length_le⟩
  | case2 d rest notEnd ih =>
    obtain ⟨m, later, rfl⟩ := Option.map_eq_some_iff.1 found
    obtain ⟨body, behind, rfl, first⟩ := ih later
    refine ⟨d :: body, behind, rfl, fun within => ?_⟩
    rcases List.infix_cons_iff.1 within with ⟨after, here⟩ | inBody
    -- A `*/` at the beginning is excluded by the case, one further on by the hypothesis.
    · obtain ⟨star, slash⟩ := List.cons.inj here
      cases body with
      | nil => cases slash
      | cons e more =>
        obtain ⟨rfl, -⟩ := List.cons.inj slash
        exact notEnd _ star.symm rfl
    · exact first inBody
  | case3 => cases found

/-- A block comment has no end exactly if there is no `*/`. -/
theorem commentLength?_eq_none_iff {text : List Char} :
    commentLength? text = none ↔ ¬['*', '/'] <:+: text := by
  constructor
  · intro unended
    fun_induction commentLength? text with
    | case1 behind => cases unended
    | case2 d rest notEnd ih =>
      rintro within
      rcases List.infix_cons_iff.1 within with ⟨after, here⟩ | later
      · obtain ⟨rfl, rfl⟩ := List.cons.inj here
        exact notEnd after rfl rfl
      · exact ih (Option.map_eq_none_iff.1 unended) later
    | case3 => exact fun within => by simpa using within.length_le
  · intro unended
    rw [Option.eq_none_iff_forall_ne_some]
    intro n found
    obtain ⟨body, behind, rfl, -⟩ := commentLength?_eq_some found
    exact unended ⟨body, behind, by simp⟩

/-- The first `*/` is the end of a block comment. -/
theorem commentLength?_append {body : List Char} (unended : ¬['*', '/'] <:+: body ++ ['*'])
    (behind : List Char) :
    commentLength? (body ++ '*' :: '/' :: behind) = some (body.length + 2) := by
  induction body with
  | nil => rfl
  | cons d more ih =>
    have later : ¬['*', '/'] <:+: more ++ ['*'] :=
      fun within => unended (within.trans (List.suffix_cons d _).isInfix)
    have notEnd : ∀ rest, d = '*' → more ++ '*' :: '/' :: behind = '/' :: rest → False := by
      rintro rest rfl slash
      cases more with
      | nil => cases slash
      | cons e more =>
        obtain ⟨rfl, -⟩ := List.cons.inj slash
        exact unended ⟨[], more ++ ['*'], rfl⟩
    rw [List.cons_append, commentLength?.eq_2 _ _ notEnd, ih later]
    rfl

theorem block_append {body : List Char} (unended : ¬['*', '/'] <:+: body ++ ['*'])
    (behind : List Char) :
    block ('*' :: (body ++ '*' :: '/' :: behind)) =
      (⟨'/' :: '*' :: body ++ ['*', '/'], .layout⟩, behind) := by
  have taken : (body ++ '*' :: '/' :: behind).take (body.length + 2) = body ++ ['*', '/'] := by
    simp [List.take_append, List.take_of_length_le]
  simp [block, commentLength?_append unended, taken]

theorem block_of_unended {body : List Char} (unended : ¬['*', '/'] <:+: body) :
    block ('*' :: body) = (⟨'/' :: '*' :: body, .fault .openComment⟩, []) := by
  simp [block, commentLength?_eq_none_iff.2 unended]

/-! ## One lexeme -/

/-- What the first lexeme of a text can be, in front of the text behind it. -/
inductive Fits (comments : Bool) : Lexeme → List Char → Prop
  /-- A blank character. -/
  | blank {c : Char} {behind : List Char} : c ∈ blanks → Fits comments ⟨[c], .layout⟩ behind
  /-- A line comment. -/
  | line {body behind : List Char} : comments = true → '\n' ∉ body →
    (∀ c ∈ behind.head?, c = '\n') → Fits comments ⟨'/' :: '/' :: body, .layout⟩ behind
  /-- A block comment. -/
  | block {body behind : List Char} : comments = true → ¬['*', '/'] <:+: body ++ ['*'] →
    Fits comments ⟨'/' :: '*' :: body ++ ['*', '/'], .layout⟩ behind
  /-- The text of an item. -/
  | item {lexeme : Lexeme} {behind : List Char} :
    (∀ position, ∃ item, lexeme.item? position = some item ∧
      (item.text = String.ofList lexeme.text ∨ item.IsOpenComment) ∧
      item.Spans comments lexeme.text behind) → Fits comments lexeme behind

theorem isRun_takeWhile (test : Char → Bool) (first : test c = true) (rest : List Char) :
    IsRun test (c :: rest.takeWhile test) (rest.dropWhile test) where
  nonempty := List.cons_ne_nil _ _
  inside := List.forall_mem_cons.2 ⟨first, fun _ => List.all_eq_true.1 List.all_takeWhile _⟩
  stops := fun d h => by
    have ends := List.head?_dropWhile_not test rest
    rw [h] at ends
    simpa using ends

theorem fits_line (on : comments = true) (more : List Char) :
    Fits comments (run '/' ('/' :: more) (· ≠ '\n') fun _ => .layout).1
      (run '/' ('/' :: more) (· ≠ '\n') fun _ => .layout).2 := by
  obtain ⟨-, inside, stops⟩ := isRun_takeWhile (c := '/') (· ≠ '\n') (by decide) more
  have cut : (run '/' ('/' :: more) (· ≠ '\n') fun _ => .layout) =
      (⟨'/' :: '/' :: more.takeWhile (· ≠ '\n'), .layout⟩, more.dropWhile (· ≠ '\n')) := by
    simp [run]
  rw [cut]
  refine .line on (fun feed => ?_) (fun c h => ?_)
  · have other := inside '\n' (List.mem_cons_of_mem _ feed)
    cases other
  · have ends := stops c h
    simpa using ends

theorem fits_block (on : comments = true) (more : List Char) :
    Fits comments (block ('*' :: more)).1 (block ('*' :: more)).2 := by
  cases found : commentLength? more with
  | some n =>
    obtain ⟨body, behind, rfl, first⟩ := commentLength?_eq_some found
    rw [block_append first]
    exact .block on first
  | none =>
    have unended := commentLength?_eq_none_iff.1 found
    rw [block_of_unended unended]
    exact .item fun position => ⟨_, rfl, .inr rfl, .openComment on unended⟩

theorem fits_digits (digit : c.isDigit = true) (rest : List Char) :
    Fits comments (run c rest Char.isDigit Meaning.ofDigits).1
      (run c rest Char.isDigit Meaning.ofDigits).2 := by
  have digits := isRun_takeWhile Char.isDigit digit rest
  refine .item fun position => ?_
  simp only [run]
  generalize c :: rest.takeWhile Char.isDigit = text at digits ⊢
  by_cases zero : HasLeadingZero text
  · have means : Meaning.ofDigits text = .fault .leadingZero := if_pos zero
    rw [item?, means]
    exact ⟨_, rfl, .inl rfl, .leadingZero digits zero⟩
  by_cases fits : Nat.ofDigitChars 10 text 0 < UInt32.size
  · have means : Meaning.ofDigits text =
        .symbol (.number (UInt32.ofNat (Nat.ofDigitChars 10 text 0))) :=
      (if_neg zero).trans (if_pos fits)
    rw [item?, means]
    have value := UInt32.toNat_ofNat_of_lt' fits
    refine ⟨_, rfl, .inl ?_, .number digits zero value⟩
    rw [Item.text, Token.text, Symbol.text, value, Nat.toString_eq_ofList_toDigits,
      toDigits_ofDigitChars digits.nonempty digits.inside zero]
  · have means : Meaning.ofDigits text = .fault .numberTooLarge :=
      (if_neg zero).trans (if_neg fits)
    rw [item?, means]
    exact ⟨_, rfl, .inl rfl, .numberTooLarge digits zero (Nat.le_of_not_lt fits)⟩

theorem fits_letters (letter : c.isAlpha = true) (rest : List Char) :
    Fits comments (run c rest Char.isAlphanum Meaning.ofLetters).1
      (run c rest Char.isAlphanum Meaning.ofLetters).2 := by
  have alphanum : c.isAlphanum = true := by simp [Char.isAlphanum, letter]
  have letters := isRun_takeWhile Char.isAlphanum alphanum rest
  refine .item fun position => ?_
  simp only [run, item?, Meaning.ofLetters, Symbol.ofWord]
  split
  · rename_i word known
    have spelled := Keyword.ofWord?_eq_some_iff.1 known
    have reserved := List.mem_map_of_mem (f := Keyword.spelling) (Keyword.mem_all word)
    rw [spelled] at reserved
    exact ⟨_, rfl, .inl spelled, .keyword letter letters reserved⟩
  · rename_i unknown
    exact ⟨_, rfl, .inl rfl, .name letter letters (Keyword.ofWord?_eq_none_iff.1 unknown)⟩

theorem fits_mark (notBlank : isBlank c = false) (notAlphanum : c.isAlphanum = false)
    (noComment : comments = true → c = '/' → rest.head? ≠ some '/' ∧ rest.head? ≠ some '*') :
    Fits comments ⟨[c], Meaning.ofMark c⟩ rest := by
  refine .item fun position => ?_
  cases mark : Symbol.ofMark? c with
  | some symbol =>
    simp only [item?, Meaning.ofMark, mark]
    exact ⟨_, rfl, .inl (Symbol.text_ofMark? mark), .mark (ofMark?_eq_some_iff.1 mark)⟩
  | none =>
    have stray : c ∉ blanks := by
      rw [← isBlank_iff, notBlank]
      exact Bool.false_ne_true
    simp only [item?, Meaning.ofMark, mark]
    exact ⟨_, rfl, .inl rfl,
      .strayCharacter stray notAlphanum (ofMark?_eq_none_iff.1 mark) noComment⟩

/-- The first lexeme of a text is layout or spanned by its item. -/
theorem fits_first (comments : Bool) (c : Char) (rest : List Char) :
    Fits comments (first comments c rest).1 (first comments c rest).2 := by
  by_cases blank : isBlank c = true
  · rw [first_blank blank]
    exact .blank (isBlank_iff.1 blank)
  by_cases digit : c.isDigit = true
  · rw [first_digit digit]
    exact fits_digits digit rest
  by_cases letter : c.isAlpha = true
  · rw [first_letter letter]
    exact fits_letters letter rest
  by_cases line : comments = true ∧ c = '/' ∧ rest.head? = some '/'
  · obtain ⟨on, rfl, slash⟩ := line
    obtain ⟨more, rfl⟩ := List.head?_eq_some_iff.1 slash
    rw [first_line on rfl]
    exact fits_line on more
  by_cases block : comments = true ∧ c = '/' ∧ rest.head? = some '*'
  · obtain ⟨on, rfl, star⟩ := block
    obtain ⟨more, rfl⟩ := List.head?_eq_some_iff.1 star
    rw [first_block on rfl]
    exact fits_block on more
  have notBlank : isBlank c = false := by simpa using blank
  have notAlphanum : c.isAlphanum = false := by simp [Char.isAlphanum, digit, letter]
  have noComment : comments = true → c = '/' → rest.head? ≠ some '/' ∧ rest.head? ≠ some '*' :=
    fun on slash => ⟨fun h => line ⟨on, slash, h⟩, fun h => block ⟨on, slash, h⟩⟩
  rw [first_single notBlank notAlphanum noComment]
  exact fits_mark notBlank notAlphanum noComment

end Lexeme

/-! ## A whole text -/

/-- A lexeme without item in front of a text that splits is part of its first gap. -/
theorem Splits.append_layout {comments : Bool} {before behind : List Char} {lexeme : Lexeme}
    {items : List Item} (layout : ∀ gap after, behind = gap ++ after → Gap comments after gap →
      Gap comments after (lexeme.text ++ gap))
    (splits : Splits comments (before ++ lexeme.text) behind items) :
    Splits comments before (lexeme.text ++ behind) items := by
  cases splits with
  | last gap => exact .last (layout _ [] (List.append_nil _).symm gap)
  | @item _ gap word behind item items follows offset shows spans rest =>
    have longer := layout gap (word ++ behind) (List.append_assoc ..) follows
    rw [← List.append_assoc, ← List.append_assoc]
    refine .item longer ?_ shows spans ?_
    · rw [offset, List.append_assoc]
    · rwa [List.append_assoc before lexeme.text gap] at rest

/-- A lexeme in front of a text that splits. -/
theorem Lexeme.Fits.splits {comments : Bool} {before behind : List Char} {lexeme : Lexeme}
    {items : List Item} (fits : Fits comments lexeme behind)
    (splits : Splits comments (before ++ lexeme.text) behind items) :
    Splits comments before (lexeme.text ++ behind)
      ((lexeme.item? (Position.start.after before)).toList ++ items) := by
  cases fits with
  | blank blank => exact splits.append_layout fun gap after _ follows => .blank blank follows
  | line on body ends =>
    exact splits.append_layout fun gap after split follows => .line on body (split ▸ ends) follows
  | @block body _ on first =>
    refine splits.append_layout fun gap after _ follows => ?_
    have whole := Gap.block on first follows
    simpa using whole
  | item spanned =>
    obtain ⟨item, found, shows, spans⟩ := spanned (Position.start.after before)
    have offset : item.position.offset = (String.ofList (before ++ [])).utf8ByteSize := by
      rw [Lexeme.position_of_item? found, Position.offset_after, List.append_nil]
      exact Nat.zero_add _
    rw [found]
    exact .item .nil offset shows spans (by simpa using splits)

theorem splits_ofLexemes (comments : Bool) (before text : List Char) :
    Splits comments before text
      (Item.ofLexemes (Position.start.after before) (Lexeme.lexemes comments text)) := by
  fun_induction Lexeme.lexemes comments text generalizing before with
  | case1 => exact .last .nil
  | case2 c rest ih =>
    have later := ih (before ++ (Lexeme.first comments c rest).1.text)
    rw [Position.after_append] at later
    rw [← Lexeme.text_append_first comments c rest, Item.ofLexemes]
    exact (Lexeme.fits_first comments c rest).splits later

theorem Item.Spans.ne_nil {comments : Bool} {item : Item} {text behind : List Char}
    (spans : item.Spans comments text behind) : text ≠ [] := by
  cases spans with
  | number digits _ _ => exact digits.nonempty
  | leadingZero digits _ => exact digits.nonempty
  | numberTooLarge digits _ _ => exact digits.nonempty
  | _ => exact List.cons_ne_nil _ _

theorem Splits.eq_nil_of_nil {comments : Bool} {before : List Char} {items : List Item}
    (splits : Splits comments before [] items) : items = [] := by
  generalize nothing : ([] : List Char) = text at splits
  cases splits with
  | last => rfl
  | item _ _ _ spans _ =>
    obtain ⟨front, -⟩ := List.append_eq_nil_iff.1 nothing.symm
    exact absurd (List.append_eq_nil_iff.1 front).2 spans.ne_nil

/-- A block comment without end is the last item. -/
theorem Splits.eq_nil_of_openComment {comments : Bool} {before text : List Char}
    {front back : List Item} {error : LexicalError}
    (splits : Splits comments before text (front ++ .fault error :: back))
    (unended : error.cause = .openComment) : back = [] := by
  induction front generalizing before text with
  | nil =>
    cases splits with
    | item _ _ _ spans rest =>
      cases spans with
      | openComment _ _ => exact rest.eq_nil_of_nil
      | _ => cases unended
  | cons first front ih =>
    cases splits with
    | item _ _ _ _ rest => exact ih rest

/-- Every text splits into the items that a cursor yields from its beginning to its end, and only
the last of them can be a block comment without end. -/
theorem text_splits_into_items (comments : Bool) (text : String) :
    ∃ items, (Cursor.ofText text).Yields comments items ∧
      Splits comments [] text.toList items ∧
      ∀ front error back, items = front ++ .fault error :: back →
        error.cause = .openComment → back = [] := by
  have splits := splits_ofLexemes comments [] text.toList
  refine ⟨_, Cursor.yields_items _ _, splits, ?_⟩
  intro front error back whole unended
  rw [Cursor.items, Cursor.ofText] at whole
  exact (whole ▸ splits : Splits comments [] text.toList _).eq_nil_of_openComment unended

end Netlist

import Mathlib.Algebra.Group.Nat.Defs
import Netlist.Proofs.Advance
import Netlist.Proofs.RoundTrip

/-!
# Numbers are the decimals of 32 bits

A run of digits is a number exactly if it is the decimal text of one that fits
into 32 bits (`digits_mean_numbers`).  A decimal text has no leading zero, and it
is the only one of its value (`toString_eq_iff`).  Of the other runs those with
a leading zero are one fault, whatever their value, and those of a larger value
are the other, however long they are.

The value of a run is what its digits count at their places (`decimalValue`).
It can be found in 32 bits, digit by digit, if no step is taken whose result
does not fit (`appendDigit?`).  A value never becomes smaller by another digit,
so a step that fails has passed the limit for good, and the last value is there
exactly if it fits (`foldlM_appendDigit?`).
-/

namespace Netlist

instance (digits : List Char) : Decidable (HasLeadingZero digits) :=
  inferInstanceAs (Decidable (_ ∧ _))

/-! ## Values -/

/-- The value of some digits, each of which counts by its place. -/
def decimalValue : List Char → Nat
  | [] => 0
  | d :: rest => (d.toNat - '0'.toNat) * 10 ^ rest.length + decimalValue rest

theorem ofDigitChars_eq (digits : List Char) (n : Nat) :
    Nat.ofDigitChars 10 digits n = n * 10 ^ digits.length + decimalValue digits := by
  induction digits generalizing n with
  | nil => simp [decimalValue]
  | cons d rest ih =>
    rw [Nat.ofDigitChars_cons, ih, decimalValue, List.length_cons, Nat.pow_succ, Nat.add_mul,
      Nat.add_assoc]
    congr 1
    rw [Nat.mul_comm 10 n, Nat.mul_assoc, Nat.mul_comm 10]

theorem ofDigitChars_zero (digits : List Char) :
    Nat.ofDigitChars 10 digits 0 = decimalValue digits := by
  rw [ofDigitChars_eq, Nat.zero_mul, Nat.zero_add]

theorem le_ofDigitChars (digits : List Char) (n : Nat) : n ≤ Nat.ofDigitChars 10 digits n := by
  rw [ofDigitChars_eq]
  exact Nat.le_add_right_of_le (Nat.le_mul_of_pos_right n (Nat.pow_pos (by decide)))

theorem not_hasLeadingZero_toDigits (n : Nat) : ¬HasLeadingZero (Nat.toDigits 10 n) := by
  intro leading
  obtain ⟨several, zero⟩ := leading
  rcases Nat.eq_zero_or_pos n with rfl | positive
  · exact absurd several (by decide)
  · exact Lexeme.head?_toDigits_ne_zero positive zero

/-- Digits are the decimal text of a number exactly if they have its value and no zero to spare. -/
theorem toString_eq_iff {digits : List Char} (nonempty : digits ≠ [])
    (inside : ∀ d ∈ digits, d.isDigit = true) {n : Nat} :
    toString n = String.ofList digits ↔ ¬HasLeadingZero digits ∧ decimalValue digits = n := by
  rw [Nat.toString_eq_ofList_toDigits, String.ofList_inj, ← ofDigitChars_zero]
  constructor
  · rintro rfl
    exact ⟨not_hasLeadingZero_toDigits n, Nat.ofDigitChars_ten_toDigits⟩
  · rintro ⟨noZero, rfl⟩
    exact toDigits_ofDigitChars nonempty inside noZero

/-! ## Values in 32 bits -/

/-- A value with one more digit behind it, unless that is more than 32 bits can hold.  Either of the
two operations tells by its result whether it has gone around. -/
def appendDigit? (value : UInt32) (digit : Char) : Option UInt32 :=
  let tens := value * 10
  let sum := tens + UInt32.ofNat (digit.toNat - '0'.toNat)
  if tens / 10 = value ∧ tens ≤ sum then some sum else none

theorem appendDigit?_eq (value : UInt32) {d : Char} (digit : d.isDigit = true) :
    appendDigit? value d =
      if 10 * value.toNat + (d.toNat - '0'.toNat) < UInt32.size then
        some (UInt32.ofNat (10 * value.toNat + (d.toNat - '0'.toNat)))
      else none := by
  obtain ⟨small, -⟩ := digitChar_toNat_sub digit
  unfold appendDigit?
  generalize d.toNat - '0'.toNat = last at small
  have tens : (value * 10).toNat = value.toNat * 10 % UInt32.size := UInt32.toNat_mul ..
  have lastWord : (UInt32.ofNat last).toNat = last :=
    UInt32.toNat_ofNat_of_lt' (Nat.lt_trans small (by decide))
  have sum : (value * 10 + UInt32.ofNat last).toNat =
      (value.toNat * 10 % UInt32.size + last) % UInt32.size := by
    rw [UInt32.toNat_add, tens, lastWord]
  have fits : (value * 10 / 10 = value ∧ value * 10 ≤ value * 10 + UInt32.ofNat last) ↔
      10 * value.toNat + last < UInt32.size := by
    rw [← UInt32.toNat_inj, UInt32.toNat_div, UInt32.le_iff_toNat_le, tens, sum]
    have ten : (10 : UInt32).toNat = 10 := rfl
    have bound := value.toNat_lt
    rw [ten]
    simp only [UInt32.size]
    omega
  simp only [fits]
  split
  · rename_i less
    congr 1
    rw [← UInt32.toNat_inj, sum, UInt32.toNat_ofNat_of_lt' less]
    simp only [UInt32.size] at less ⊢
    omega
  · rfl

/-- Digit by digit the value is found exactly if it fits into 32 bits. -/
theorem foldlM_appendDigit? {digits : List Char} (inside : ∀ d ∈ digits, d.isDigit = true)
    (value : UInt32) :
    digits.foldlM appendDigit? value =
      if Nat.ofDigitChars 10 digits value.toNat < UInt32.size then
        some (UInt32.ofNat (Nat.ofDigitChars 10 digits value.toNat))
      else none := by
  induction digits generalizing value with
  | nil =>
    rw [Nat.ofDigitChars_nil, if_pos value.toNat_lt, UInt32.ofNat_toNat]
    rfl
  | cons d rest ih =>
    rw [List.foldlM_cons, appendDigit?_eq value (inside d (.head _)), Nat.ofDigitChars_cons]
    generalize 10 * value.toNat + (d.toNat - '0'.toNat) = next
    by_cases fits : next < UInt32.size
    · rw [if_pos fits]
      have later := ih (fun e among => inside e (.tail _ among)) (UInt32.ofNat next)
      rwa [UInt32.toNat_ofNat_of_lt' fits] at later
    -- Once a value does not fit, no further digit makes it smaller.
    · have grows := le_ofDigitChars rest next
      rw [if_neg fits, if_neg (by omega)]
      rfl

/-! ## What digits mean -/

namespace Meaning

variable {digits : List Char}

theorem ofDigits_eq (digits : List Char) :
    ofDigits digits =
      if 1 < digits.length ∧ digits.head? = some '0' then fault .leadingZero
      else if decimalValue digits < UInt32.size then
        symbol (.number (UInt32.ofNat (decimalValue digits)))
      else fault .numberTooLarge := by
  rw [ofDigits, ofDigitChars_zero]

/-- Digits are a number, or wrong in one of two ways. -/
theorem ofDigits_cases (digits : List Char) :
    (∃ value, ofDigits digits = symbol (.number value)) ∨
      ofDigits digits = fault .leadingZero ∨ ofDigits digits = fault .numberTooLarge := by
  rw [ofDigits_eq]
  split
  · exact .inr (.inl rfl)
  · split
    · exact .inl ⟨_, rfl⟩
    · exact .inr (.inr rfl)

theorem ofDigits_eq_number_iff {value : UInt32} :
    ofDigits digits = symbol (.number value) ↔
      ¬HasLeadingZero digits ∧ decimalValue digits = value.toNat := by
  rw [ofDigits_eq]
  split
  · rename_i zero
    exact ⟨nofun, fun named => absurd zero named.1⟩
  · rename_i noZero
    split
    · rename_i fits
      rw [symbol.injEq, Symbol.number.injEq, ← UInt32.toNat_inj, UInt32.toNat_ofNat_of_lt' fits]
      exact (and_iff_right noZero).symm
    · rename_i large
      refine ⟨nofun, fun named => absurd ?_ large⟩
      rw [named.2]
      exact value.toNat_lt

theorem ofDigits_eq_leadingZero_iff :
    ofDigits digits = fault .leadingZero ↔ HasLeadingZero digits := by
  rw [ofDigits_eq]
  split
  · rename_i zero
    exact iff_of_true rfl zero
  · rename_i noZero
    refine iff_of_false ?_ noZero
    split <;> nofun

theorem ofDigits_eq_numberTooLarge_iff :
    ofDigits digits = fault .numberTooLarge ↔
      ¬HasLeadingZero digits ∧ UInt32.size ≤ decimalValue digits := by
  rw [ofDigits_eq]
  split
  · rename_i zero
    exact ⟨nofun, fun large => absurd zero large.1⟩
  · rename_i noZero
    split
    · rename_i fits
      exact ⟨nofun, fun large => absurd fits (Nat.not_lt.2 large.2)⟩
    · rename_i large
      exact iff_of_true rfl ⟨noZero, Nat.le_of_not_lt large⟩

/-- Digits mean the number that is found in 32 bits, if they have no leading zero. -/
theorem ofDigits_eq_number_iff_foldlM (inside : ∀ d ∈ digits, d.isDigit = true) {value : UInt32} :
    ofDigits digits = symbol (.number value) ↔
      ¬HasLeadingZero digits ∧ digits.foldlM appendDigit? 0 = some value := by
  have zero : (0 : UInt32).toNat = 0 := rfl
  rw [ofDigits_eq_number_iff, foldlM_appendDigit? inside, zero, ofDigitChars_zero]
  refine and_congr_right fun _ => ?_
  split
  · rename_i fits
    rw [Option.some.injEq, ← UInt32.toNat_inj, UInt32.toNat_ofNat_of_lt' fits]
  · rename_i large
    refine iff_of_false (fun same => large ?_) nofun
    rw [same]
    exact value.toNat_lt

end Meaning

/-! ## Runs of digits in a text -/

/-- The item is about a run of digits. -/
def Item.IsNumeral : Item → Prop
  | token t => t.symbol.value?.isSome
  | fault e => e.cause = .leadingZero ∨ e.cause = .numberTooLarge

variable {comments : Bool}

/-- Behind a gap the next item takes a run of digits, and says what they mean. -/
theorem Gap.next_digits {gap digits behind : List Char}
    (gaps : Gap comments (digits ++ behind) gap) (run : IsRun Char.isDigit digits behind)
    (position : Position) :
    ∃ item, (⟨position, gap ++ (digits ++ behind)⟩ : Cursor).next comments =
        (some item, ⟨(position.after gap).after digits, behind⟩) ∧
      item.position = position.after gap ∧ item.text = String.ofList digits ∧
      item.meaning = .ofDigits digits := by
  have fits : Lexeme.Fits comments ⟨digits, .ofDigits digits⟩ behind := by
    obtain ⟨c, more, rfl⟩ := List.exists_cons_of_ne_nil run.nonempty
    have cut := Lexeme.fits_first comments c (more ++ behind)
    rwa [Lexeme.first_digits run] at cut
  have known := Meaning.ofDigits_cases digits
  obtain ⟨item, found⟩ : ∃ item, Lexeme.item? ⟨digits, .ofDigits digits⟩ (position.after gap) =
      some item := by
    rcases known with ⟨value, means⟩ | means | means <;> simp [Lexeme.item?, means]
  have next := (gaps.next_append position).trans (fits.next_append (position.after gap))
  rw [found] at next
  have meaning : item.meaning = .ofDigits digits := (Lexeme.meaning_of_item? found).symm
  refine ⟨item, next, Lexeme.position_of_item? found, ?_, meaning⟩
  refine (fits.spans found).2.resolve_right fun unended => ?_
  cases item with
  | token token => exact unended
  | fault error =>
    rw [← meaning, Item.meaning, unended] at known
    rcases known with ⟨value, means⟩ | means | means <;> cases means

/-- An item about digits spans a run of them. -/
theorem Item.Spans.isRun {item : Item} {text behind : List Char}
    (spans : item.Spans comments text behind) (numeral : item.IsNumeral) :
    IsRun Char.isDigit text behind := by
  cases spans with
  | number run _ _ => exact run
  | leadingZero run _ => exact run
  | numberTooLarge run _ _ => exact run
  | mark listed =>
    have mark := ofMark?_eq_some_iff.2 listed
    unfold Symbol.ofMark? at mark
    split at mark <;> cases mark <;> cases numeral
  | name _ _ _ => cases numeral
  | keyword _ _ _ => cases numeral
  | strayCharacter _ _ _ _ => simp [IsNumeral] at numeral
  | openComment _ _ => simp [IsNumeral] at numeral

theorem Item.eq_token_of_meaning {item : Item} {symbol : Symbol}
    (means : item.meaning = .symbol symbol) : item = .token ⟨symbol, item.position⟩ := by
  cases item with
  | token token =>
    cases means
    rfl
  | fault error => cases means

/-- A printed number is read back. -/
theorem next_toString (comments : Bool) (n : UInt32) :
    ∃ behind, (Cursor.ofText (toString n.toNat)).next comments =
      (some (.token ⟨.number n, .start⟩), behind) ∧ behind.rest = [] := by
  have run : IsRun Char.isDigit (Nat.toDigits 10 n.toNat) [] :=
    ⟨Nat.toDigits_ne_nil, fun _ => Nat.isDigit_of_mem_toDigits (by decide) (by decide), nofun⟩
  obtain ⟨item, next, place, -, meaning⟩ := (Gap.nil : Gap comments _ []).next_digits run .start
  have token := Item.eq_token_of_meaning (meaning.trans (Lexeme.ofDigits_toDigits n))
  have written : (toString n.toNat).toList = [] ++ (Nat.toDigits 10 n.toNat ++ []) := by simp
  rw [Cursor.ofText, written, next, token, place]
  exact ⟨_, rfl, rfl⟩

/-- A printed kind is read back as its symbols. -/
theorem DeviceKind.exists_tokens_text (comments : Bool) (kind : DeviceKind) :
    ∃ tokens, (Cursor.ofText kind.text).tokens comments = .ok tokens ∧
      tokens.map Token.symbol = kind.symbols := by
  have readable : ∀ piece ∈ kind.symbols.map fun symbol => [symbol],
      Lexeme.Spells comments (Symbol.spell piece) piece := by
    intro piece among
    obtain ⟨symbol, written, rfl⟩ := List.mem_map.1 among
    apply Lexeme.spells_symbol
    rcases List.mem_cons.1 written with rfl | number
    · trivial
    · obtain ⟨n, -, rfl⟩ := Option.map_eq_some_iff.1 (Option.mem_toList.1 number)
      trivial
  have spelled : kind.text.toList =
      [' '].intercalate ((kind.symbols.map fun symbol => [symbol]).map Symbol.spell) := by
    rw [← kind.map_toList_words]
    simp [DeviceKind.text]
  have whole : (kind.symbols.map fun symbol => [symbol]).flatten = kind.symbols := by
    rw [← List.flatMap_def, List.flatMap_singleton']
  have said := (Lexeme.spells_intercalate readable).content_eq
  rw [← spelled, whole] at said
  exact Cursor.exists_tokens_iff.2 said

/-- The next item is about digits exactly where a run of them stands behind a gap.  It takes the
whole run and shows it as its text.  It is a number exactly if the run is the decimal text of one
that 32 bits can hold, and this number can be found in 32 bits; otherwise the run has a leading
zero, or its value is too large.  So every number is read back from its decimal text, and from the
text of a kind. -/
theorem digits_mean_numbers (comments : Bool) :
    (∀ position gap digits behind, Gap comments (digits ++ behind) gap →
      IsRun Char.isDigit digits behind →
      ∃ item, (⟨position, gap ++ (digits ++ behind)⟩ : Cursor).next comments =
          (some item, ⟨(position.after gap).after digits, behind⟩) ∧
        item.position = position.after gap ∧ item.text = String.ofList digits ∧
        (∀ n : Nat, (∃ value : UInt32, value.toNat = n ∧ item.meaning = .symbol (.number value)) ↔
          toString n = String.ofList digits ∧ n ≤ 2 ^ 32 - 1) ∧
        (∀ n : Nat, toString n = String.ofList digits ↔
          ¬HasLeadingZero digits ∧ decimalValue digits = n) ∧
        (item.meaning = .fault .leadingZero ↔ HasLeadingZero digits) ∧
        (item.meaning = .fault .numberTooLarge ↔
          ¬HasLeadingZero digits ∧ 2 ^ 32 ≤ decimalValue digits) ∧
        ∀ value, item.meaning = .symbol (.number value) ↔
          ¬HasLeadingZero digits ∧ digits.foldlM appendDigit? 0 = some value) ∧
    (∀ (cursor : Cursor) item behind, cursor.next comments = (some item, behind) →
      item.IsNumeral →
      ∃ gap digits, Gap comments (digits ++ behind.rest) gap ∧
        IsRun Char.isDigit digits behind.rest ∧ cursor.rest = gap ++ (digits ++ behind.rest)) ∧
    ∀ n : UInt32,
      (∃ behind, (Cursor.ofText (toString n.toNat)).next comments =
        (some (.token ⟨.number n, .start⟩), behind) ∧ behind.rest = []) ∧
      ∀ kind : DeviceKind, kind.qualifier = some n → ∃ tokens,
        (Cursor.ofText kind.text).tokens comments = .ok tokens ∧
          tokens.map Token.symbol = [.keyword kind.type.keyword, .number n] := by
  refine ⟨fun position gap digits behind gaps run => ?_, fun cursor item behind next numeral => ?_,
    fun n => ⟨?_, fun kind qualified => ?_⟩⟩
  · obtain ⟨item, next, place, text, meaning⟩ := gaps.next_digits run position
    have canonical (n : Nat) := toString_eq_iff run.nonempty run.inside (n := n)
    refine ⟨item, next, place, text, fun n => ?_, canonical, ?_, ?_, fun value => ?_⟩
    · rw [meaning, canonical]
      constructor
      · rintro ⟨value, rfl, named⟩
        exact ⟨Meaning.ofDigits_eq_number_iff.1 named, Nat.le_of_lt_succ value.toNat_lt⟩
      · rintro ⟨named, fits⟩
        have word : (UInt32.ofNat n).toNat = n := UInt32.toNat_ofNat_of_lt' (Nat.lt_succ_of_le fits)
        refine ⟨_, word, Meaning.ofDigits_eq_number_iff.2 ?_⟩
        rwa [word]
    · rw [meaning]
      exact Meaning.ofDigits_eq_leadingZero_iff
    · rw [meaning]
      exact Meaning.ofDigits_eq_numberTooLarge_iff
    · rw [meaning]
      exact Meaning.ofDigits_eq_number_iff_foldlM run.inside
  · obtain ⟨gap, digits, passes⟩ := Cursor.exists_passes_of_next next
    exact ⟨gap, digits, passes.isGap, passes.spans.isRun numeral, passes.split⟩
  · exact next_toString comments n
  · have symbols : kind.symbols = [.keyword kind.type.keyword, .number n] := by
      rw [DeviceKind.symbols, qualified]
      rfl
    rw [← symbols]
    exact kind.exists_tokens_text comments

/-- Behind a comment the largest number is read, the next one is too large, and zeros in front of a
small one are wrong. -/
theorem digits_mean_numbers_at_limit :
    let read := fun text : String => ((Cursor.ofText text).next true).1
    (∃ item, read "/*1*/ 4294967295)" = some item ∧ item.text = "4294967295" ∧
      ∃ value : UInt32, value.toNat = 4294967295 ∧ item.meaning = .symbol (.number value)) ∧
    (∃ item, read "/*1*/ 4294967296)" = some item ∧ item.text = "4294967296" ∧
      item.meaning = .fault .numberTooLarge) ∧
    ∃ item, read "/*1*/ 007)" = some item ∧ item.text = "007" ∧
      item.meaning = .fault .leadingZero := by
  intro read
  have gap (behind : List Char) : Gap true behind "/*1*/ ".toList :=
    @Gap.block true behind ['1'] [' '] rfl (by decide) (.blank (by decide) .nil)
  have run (digits : List Char) (nonempty : digits ≠ []) (inside : digits.all Char.isDigit) :
      IsRun Char.isDigit digits [')'] :=
    ⟨nonempty, List.all_eq_true.1 inside, fun c next => by cases next; rfl⟩
  have reads := (digits_mean_numbers true).1 .start "/*1*/ ".toList
  refine ⟨?_, ?_, ?_⟩
  · obtain ⟨item, next, -, text, number, -⟩ :=
      reads "4294967295".toList _ (gap _) (run _ (by decide) (by decide))
    exact ⟨item, congrArg Prod.fst next, text, (number 4294967295).2 ⟨by decide, by decide⟩⟩
  · obtain ⟨item, next, -, text, -, -, -, large, -⟩ :=
      reads "4294967296".toList _ (gap _) (run _ (by decide) (by decide))
    exact ⟨item, congrArg Prod.fst next, text, large.2 ⟨by decide, by decide⟩⟩
  · obtain ⟨item, next, -, text, -, -, zero, -⟩ :=
      reads "007".toList _ (gap _) (run _ (by decide) (by decide))
    exact ⟨item, congrArg Prod.fst next, text, zero.2 ⟨by decide, by decide⟩⟩

end Netlist

import Netlist.Proofs.Content

/-!
# Cutting a text between lexemes

A lexeme is decided by its own characters and at most the first character
behind it, and a line feed behind it, or the end of the text, decides nothing
else (`first_append`).  So a text can be cut behind any of its lexemes and go
on in another way from there: the lexemes before the cut stay what they are
(`lexemes_append`).  The one exception is a block comment without end, which
takes whatever comes.

A list of items that is split corresponds to such a cut (`Cursor.exists_cut`),
and the cut is made as late as possible, at the position of the first item
behind it.
-/

namespace Netlist

namespace Lexeme

/-- A text that may take the place of another behind a lexeme: it begins with the same character
or with a line feed, or it is empty. -/
def Replaces (other behind : List Char) : Prop :=
  ∀ c ∈ other.head?, c = '\n' ∨ c ∈ behind.head?

theorem replaces_newline (other behind : List Char) : Replaces ('\n' :: other) behind := by
  intro c h
  cases h
  exact .inl rfl

/-- A common text in front of two texts is no obstacle to replacing one by the other. -/
theorem Replaces.append {other behind : List Char} (replaces : Replaces other behind)
    (text : List Char) : Replaces (text ++ other) (text ++ behind) := by
  cases text with
  | nil => exact replaces
  | cons c more => exact fun d h => .inr h

variable {comments : Bool} {c : Char} {rest other : List Char}

/-! ## One lexeme -/

/-- A run ends where it did if the text behind it is replaced. -/
theorem run_tail_append {test : Char → Bool} {meaning : List Char → Meaning}
    (line : test '\n' = false) (replaces : Replaces other (run c rest test meaning).2) :
    run c ((run c rest test meaning).1.text.tail ++ other) test meaning =
      ((run c rest test meaning).1, other) := by
  have inside : ∀ d ∈ rest.takeWhile test, test d = true :=
    fun d => List.all_eq_true.1 List.all_takeWhile d
  have stops : ∀ d ∈ other.head?, test d = false := by
    intro d h
    rcases replaces d h with rfl | same
    · exact line
    · have ends := List.head?_dropWhile_not test rest
      have same : (rest.dropWhile test).head? = some d := same
      rwa [same] at ends
  exact run_append inside stops

/-- A block comment ends inside of the text, and its end takes two characters. -/
theorem bounds_of_commentLength? {text : List Char} {n : Nat}
    (found : commentLength? text = some n) : 2 ≤ n ∧ n ≤ text.length := by
  fun_induction commentLength? text generalizing n with
  | case1 rest =>
    cases found
    simp
  | case2 d rest notEnd ih =>
    obtain ⟨m, later, rfl⟩ := Option.map_eq_some_iff.1 found
    have within := ih later
    simp only [List.length_cons]
    omega
  | case3 => cases found

/-- The end of a block comment is found again whatever follows it. -/
theorem commentLength?_take_append {text : List Char} {n : Nat}
    (found : commentLength? text = some n) (other : List Char) :
    commentLength? (text.take n ++ other) = some n := by
  fun_induction commentLength? text generalizing n with
  | case1 rest =>
    cases found
    rfl
  | case2 d rest notEnd ih =>
    obtain ⟨m, later, rfl⟩ := Option.map_eq_some_iff.1 found
    obtain ⟨many, -⟩ := bounds_of_commentLength? later
    have still : ∀ more, d = '*' → rest.take m ++ other = '/' :: more → False := by
      -- The first `m` characters are at least two, so the next one is the one that was there.
      intro more star slash
      cases rest with
      | nil => cases later
      | cons e others =>
        obtain ⟨k, rfl⟩ : ∃ k, m = k + 1 := ⟨m - 1, by omega⟩
        rw [List.take_succ_cons, List.cons_append] at slash
        exact notEnd others star (by rw [(List.cons.inj slash).1])
    rw [List.take_succ_cons, List.cons_append, commentLength?.eq_2 _ _ still, ih later]
    rfl
  | case3 => cases found

/-- A block comment that has an end is the same whatever follows it. -/
theorem block_tail_append (star : rest.head? = some '*')
    (ended : (block rest).1.meaning ≠ .fault .openComment) (other : List Char) :
    ((block rest).1.text.tail ++ other).head? = some '*' ∧
      block ((block rest).1.text.tail ++ other) = ((block rest).1, other) := by
  cases found : commentLength? rest.tail with
  | none => simp [block, found] at ended
  | some n =>
    obtain ⟨d, more, rfl⟩ : ∃ d more, rest = d :: more := by
      cases rest with
      | nil => cases star
      | cons d more => exact ⟨d, more, rfl⟩
    rw [List.tail_cons] at found
    have again : commentLength? (more.take n ++ other) = some n :=
      commentLength?_take_append found other
    have within : min n more.length = n := by
      have := (bounds_of_commentLength? found).2
      omega
    have text : (block (d :: more)).1.text.tail = d :: more.take n := by simp [block, found]
    rw [text]
    refine ⟨star, ?_⟩
    simp [block, found, again, within]

/-- The text behind a lexeme may be replaced. -/
theorem first_append (ended : (first comments c rest).1.meaning ≠ .fault .openComment)
    (replaces : Replaces other (first comments c rest).2) :
    first comments c ((first comments c rest).1.text.tail ++ other) =
      ((first comments c rest).1, other) := by
  by_cases blank : isBlank c = true
  · have here : first comments c rest = (⟨[c], .layout⟩, rest) := first_blank blank
    rw [here]
    exact first_blank blank
  by_cases digit : c.isDigit = true
  · rw [first_digit digit] at replaces ⊢
    rw [first_digit digit]
    exact run_tail_append (by decide) replaces
  by_cases letter : c.isAlpha = true
  · rw [first_letter letter] at replaces ⊢
    rw [first_letter letter]
    exact run_tail_append (by decide) replaces
  have notBlank : isBlank c = false := by simpa using blank
  have notAlphanum : c.isAlphanum = false := by simp [Char.isAlphanum, digit, letter]
  by_cases line : comments = true ∧ c = '/' ∧ rest.head? = some '/'
  · obtain ⟨on, rfl, slash⟩ := line
    rw [first_line on slash] at replaces ⊢
    have again : ((run '/' rest (· ≠ '\n') fun _ => .layout).1.text.tail ++ other).head? =
        some '/' := by
      cases rest with
      | nil => cases slash
      | cons d more =>
        cases slash
        simp [run]
    rw [first_line on again]
    exact run_tail_append (by decide) replaces
  by_cases block : comments = true ∧ c = '/' ∧ rest.head? = some '*'
  · obtain ⟨on, rfl, star⟩ := block
    rw [first_block on star] at ended ⊢
    obtain ⟨again, same⟩ := block_tail_append star ended other
    rw [first_block on again]
    exact same
  have single : first comments c rest = (⟨[c], Meaning.ofMark c⟩, rest) :=
    first_single notBlank notAlphanum fun on slash =>
      ⟨fun h => line ⟨on, slash, h⟩, fun h => block ⟨on, slash, h⟩⟩
  rw [single] at replaces ⊢
  -- Neither a line feed nor what stood here before makes a comment of a slash.
  refine first_single notBlank notAlphanum fun on slash => ⟨fun h => ?_, fun h => ?_⟩
  · rcases replaces '/' h with wrong | same
    · cases wrong
    · exact line ⟨on, slash, same⟩
  · rcases replaces '*' h with wrong | same
    · cases wrong
    · exact block ⟨on, slash, same⟩

/-! ## Several lexemes -/

/-- A text that is cut behind some lexemes may go on in another way. -/
theorem lexemes_append {text : List Char} {front back : List Lexeme}
    (cut : lexemes comments text = front ++ back)
    (ended : ∀ lexeme ∈ front, lexeme.meaning ≠ .fault .openComment)
    (replaces : Replaces other (back.flatMap Lexeme.text)) :
    lexemes comments (front.flatMap Lexeme.text ++ other) = front ++ lexemes comments other := by
  induction front generalizing text with
  | nil => rfl
  | cons lexeme front ih =>
    cases text with
    | nil => simp at cut
    | cons c rest =>
      rw [lexemes_cons, List.cons_append] at cut
      obtain ⟨rfl, behind⟩ := List.cons.inj cut
      obtain ⟨more, begins⟩ := exists_text_first comments c rest
      have text : (first comments c rest).2 =
          front.flatMap Lexeme.text ++ back.flatMap Lexeme.text := by
        rw [← flatMap_text_lexemes comments (first comments c rest).2, behind,
          List.flatMap_append]
      have meets : Replaces (front.flatMap Lexeme.text ++ other) (first comments c rest).2 :=
        text ▸ replaces.append _
      have same := first_append (ended _ (by simp)) meets
      rw [begins, List.tail_cons] at same
      rw [List.flatMap_cons, begins, List.append_assoc, List.cons_append, lexemes_cons, same,
        ih behind fun lexeme h => ended lexeme (by simp [h])]
      rfl

/-- What a text says that is cut behind lexemes and goes on in another way. -/
theorem content_append {text : List Char} {front back : List Lexeme}
    (cut : lexemes comments text = front ++ back)
    (ended : ∀ lexeme ∈ front, lexeme.meaning ≠ .fault .openComment)
    (replaces : Replaces other (back.flatMap Lexeme.text)) :
    content comments (front.flatMap Lexeme.text ++ other) =
      (front.map meaning).filter (· ≠ .layout) ++ content comments other := by
  rw [content, lexemes_append cut ended replaces, List.map_append, List.filter_append]
  rfl

theorem text_ne_nil_of_mem_lexemes {text : List Char} {lexeme : Lexeme}
    (h : lexeme ∈ lexemes comments text) : lexeme.text ≠ [] := by
  fun_induction lexemes comments text with
  | case1 => cases h
  | case2 c rest ih =>
    rcases List.mem_cons.1 h with rfl | later
    · obtain ⟨more, begins⟩ := exists_text_first comments c rest
      rw [begins]
      exact List.cons_ne_nil c more
    · exact ih later

theorem position_of_item? {lexeme : Lexeme} {position : Position} {item : Item}
    (found : lexeme.item? position = some item) : item.position = position := by
  unfold item? at found
  split at found <;> cases found <;> rfl

end Lexeme

/-! ## Positions -/

/-- The bytes of a text are the bytes from its beginning to its end. -/
theorem Position.offset_after (position : Position) (text : List Char) :
    (position.after text).offset = position.offset + (String.ofList text).utf8ByteSize := by
  induction text generalizing position with
  | nil => rfl
  | cons c more ih =>
    rw [after_cons, ih, String.ofList_cons, String.utf8ByteSize_append,
      String.utf8ByteSize_singleton]
    exact Nat.add_assoc ..

/-! ## Items -/

/-- Where the first of some items stands, or the end of the text if there is none. -/
def Item.firstPosition (stop : Position) : List Item → Position
  | [] => stop
  | item :: _ => item.position

/-- Lexemes can be cut wherever their items can be, at the first item behind the cut. -/
theorem Item.exists_cut {position : Position} {lexemes : List Lexeme} {before behind : List Item}
    (split : ofLexemes position lexemes = before ++ behind) :
    ∃ front back, lexemes = front ++ back ∧ ofLexemes position front = before ∧
      position.after (front.flatMap Lexeme.text) =
        firstPosition (position.after (lexemes.flatMap Lexeme.text)) behind := by
  induction lexemes generalizing position before with
  | nil =>
    obtain ⟨rfl, rfl⟩ := List.nil_eq_append_iff.1 split
    exact ⟨[], [], rfl, rfl, rfl⟩
  | cons lexeme rest ih =>
    rw [ofLexemes] at split
    cases found : lexeme.item? position with
    | none =>
      rw [found] at split
      obtain ⟨front, back, rfl, rfl, there⟩ := ih split
      exact ⟨lexeme :: front, back, rfl, by simp [ofLexemes, found], by simpa using there⟩
    | some item =>
      rw [found] at split
      cases before with
      | nil =>
        cases split
        exact ⟨[], lexeme :: rest, rfl, rfl, (Lexeme.position_of_item? found).symm⟩
      | cons first before =>
        obtain ⟨rfl, later⟩ := List.cons.inj split
        obtain ⟨front, back, rfl, rfl, there⟩ := ih later
        exact ⟨lexeme :: front, back, rfl, by simp [ofLexemes, found], by simpa using there⟩

/-- Every item begins before the lexemes end. -/
theorem Item.offset_lt_of_mem_ofLexemes {position : Position} {lexemes : List Lexeme}
    (taken : ∀ lexeme ∈ lexemes, lexeme.text ≠ []) {item : Item}
    (h : item ∈ ofLexemes position lexemes) :
    item.position.offset < (position.after (lexemes.flatMap Lexeme.text)).offset := by
  induction lexemes generalizing position with
  | nil => cases h
  | cons lexeme rest ih =>
    rw [ofLexemes, List.mem_append] at h
    rw [List.flatMap_cons, Position.after_append]
    rcases h with here | later
    · have stands : item.position = position :=
        Lexeme.position_of_item? (Option.mem_toList.1 here)
      have some : (String.ofList lexeme.text).utf8ByteSize ≠ 0 := by
        rw [ne_eq, String.utf8ByteSize_eq_zero_iff, String.ofList_eq_empty_iff]
        exact taken lexeme (by simp)
      rw [Position.offset_after, Position.offset_after, stands]
      omega
    · exact ih (fun other h => taken other (by simp [h])) later

/-- Lexemes whose items are tokens are no faults. -/
theorem Item.meaning_ne_fault_of_ofLexemes {position : Position} {lexemes : List Lexeme}
    {tokens : List Token} (items : ofLexemes position lexemes = tokens.map .token) :
    ∀ lexeme ∈ lexemes, ∀ cause, lexeme.meaning ≠ .fault cause := by
  intro lexeme among cause wrong
  have said : Meaning.fault cause ∈ (lexemes.map Lexeme.meaning).filter (· ≠ .layout) :=
    List.mem_filter.2 ⟨wrong ▸ List.mem_map_of_mem among, by simp⟩
  rw [← map_meaning_ofLexemes position, items, List.map_map] at said
  obtain ⟨token, -, means⟩ := List.mem_map.1 said
  cases means

namespace Cursor

variable {comments : Bool} {text : String} {before behind : List Item}

/-- A text can be cut between any two of its items. -/
theorem exists_cut (split : (ofText text).items comments = before ++ behind) :
    ∃ front back, Lexeme.lexemes comments text.toList = front ++ back ∧
      Item.ofLexemes .start front = before ∧
      Position.start.after (front.flatMap Lexeme.text) =
        Item.firstPosition (ofText text).stop behind := by
  have cut := Item.exists_cut split
  rwa [Lexeme.flatMap_text_lexemes] at cut

/-- Items stand before those that come behind them. -/
theorem offset_lt_of_items_eq_append (split : (ofText text).items comments = before ++ behind)
    {item : Item} (h : item ∈ before) :
    item.position.offset < (Item.firstPosition (ofText text).stop behind).offset := by
  obtain ⟨front, back, cut, rfl, there⟩ := exists_cut split
  rw [← there]
  refine Item.offset_lt_of_mem_ofLexemes (fun lexeme inFront => ?_) h
  exact Lexeme.text_ne_nil_of_mem_lexemes (cut ▸ List.mem_append_left back inFront)

/-- A text can be cut behind some of its tokens and go on with whatever is written on a new
line. -/
theorem exists_content_cut {tokens : List Token}
    (split : (ofText text).items comments = tokens.map .token ++ behind) :
    ∃ first second : String, text = first ++ second ∧
      first.utf8ByteSize = (Item.firstPosition (ofText text).stop behind).offset ∧
      ∀ more, Lexeme.content comments (first.toList ++ '\n' :: more) =
        (tokens.map Token.symbol).map .symbol ++ Lexeme.content comments ('\n' :: more) := by
  obtain ⟨front, back, cut, items, there⟩ := exists_cut split
  have said : (front.map Lexeme.meaning).filter (· ≠ .layout) =
      (tokens.map Token.symbol).map .symbol := by
    rw [← Item.map_meaning_ofLexemes .start, items, List.map_map, List.map_map]
    rfl
  have ended : ∀ lexeme ∈ front, lexeme.meaning ≠ .fault .openComment :=
    fun lexeme inFront => Item.meaning_ne_fault_of_ofLexemes items lexeme inFront _
  have whole : text.toList = front.flatMap Lexeme.text ++ back.flatMap Lexeme.text := by
    rw [← List.flatMap_append, ← cut, Lexeme.flatMap_text_lexemes]
  refine ⟨.ofList (front.flatMap Lexeme.text), .ofList (back.flatMap Lexeme.text), ?_, ?_, ?_⟩
  · rw [← String.ofList_append, ← whole, String.ofList_toList]
  · rw [← there, Position.offset_after]
    exact (Nat.zero_add _).symm
  · intro more
    rw [String.toList_ofList, Lexeme.content_append cut ended (Lexeme.replaces_newline more _),
      said]

end Cursor

end Netlist

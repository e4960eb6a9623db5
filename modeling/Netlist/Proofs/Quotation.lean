import Netlist.Proofs.Cascade
import Netlist.Proofs.Causes
import Netlist.Proofs.Segmentation

/-!
# Errors quote the text

The text that an error shows is found in the source at the offset of the error.
An item shows a word of the text that it spans (`Item.Spans.exists_append`), so
it does so wherever a text splits (`Splits.quotes`).  An error is about an item
and shows what the item shows (`Diagnostic.Blames`), unless a statement is open
at the end of the text; then it shows nothing, and nothing else ever does
(`Phase.blames_of_mem_survey`).

The offsets of the errors ascend (`Phase.ascending_errors_survey`).  Hence an
error at the end of the text is the last one.
-/

namespace Netlist

/-! ## Words in a text -/

/-- A word has characters and no blanks. -/
structure IsWord (word : String) : Prop where
  /-- There is a character. -/
  nonempty : word ≠ ""
  /-- No character is blank. -/
  solid : ∀ c ∈ word.toList, isBlank c = false

/-- A text reads so behind as many of its bytes. -/
def QuotedAt (text : String) (offset : Nat) (word : String) : Prop :=
  ∃ before after : String, text = before ++ word ++ after ∧ before.utf8ByteSize = offset

theorem IsRun.isWord {test : Char → Bool} {text behind : List Char} (run : IsRun test text behind)
    (solid : ∀ c, test c = true → isBlank c = false) : IsWord (.ofList text) where
  nonempty empty := run.nonempty (String.ofList_eq_empty_iff.1 empty)
  solid := by
    rw [String.toList_ofList]
    exact fun c among => solid c (run.inside c among)

/-- A word that stands in a text begins before its end. -/
theorem QuotedAt.offset_lt {text word : String} {offset : Nat} (quoted : QuotedAt text offset word)
    (nonempty : word ≠ "") : offset < text.utf8ByteSize := by
  obtain ⟨before, after, rfl, rfl⟩ := quoted
  have size : word.utf8ByteSize ≠ 0 := mt String.utf8ByteSize_eq_zero_iff.1 nonempty
  rw [String.utf8ByteSize_append, String.utf8ByteSize_append]
  omega

/-! ## Items -/

/-- What an item shows is a word with which the text that it spans begins. -/
theorem Item.Spans.exists_append {comments : Bool} {item : Item} {text behind : List Char}
    (spans : item.Spans comments text behind)
    (shows : item.text = String.ofList text ∨ item.IsOpenComment) :
    IsWord item.text ∧ ∃ more, text = item.text.toList ++ more := by
  have letters (c : Char) (letter : c.isAlphanum = true) : isBlank c = false :=
    Lexeme.isBlank_eq_false_of_isAlphanum letter
  have digits (c : Char) (digit : c.isDigit = true) : isBlank c = false :=
    letters c (by simp [Char.isAlphanum, digit])
  by_cases unended : item.IsOpenComment
  · cases spans with
    | @openComment body _ _ _ =>
      have shown : "/*".toList = ['/', '*'] := by decide
      have solid : ∀ c ∈ "/*".toList, isBlank c = false := by
        rw [shown]
        simp [isBlank]
      have mark : IsWord "/*" := ⟨by decide, solid⟩
      exact ⟨mark, body, congrArg (· ++ body) shown.symm⟩
    | _ => cases unended
  · rw [shows.resolve_right unended]
    refine ⟨?_, [], by simp⟩
    cases spans with
    | name _ run _ => exact run.isWord letters
    | keyword _ run _ => exact run.isWord letters
    | number run _ _ => exact run.isWord digits
    | leadingZero run _ => exact run.isWord digits
    | numberTooLarge run _ _ => exact run.isWord digits
    | mark listed =>
      have solid : ∀ mark ∈ marks, isBlank mark.1 = false := by decide
      exact ⟨by simp, by simpa using solid _ listed⟩
    | strayCharacter solid _ _ _ =>
      rw [← isBlank_iff, Bool.not_eq_true] at solid
      exact ⟨by simp, by simpa using solid⟩
    | openComment _ _ => exact absurd rfl unended

/-- The items into which a text splits show words of the text at their offsets. -/
theorem Splits.quotes {comments : Bool} {before text : List Char} {items : List Item}
    (splits : Splits comments before text items) {item : Item} (among : item ∈ items) :
    IsWord item.text ∧ QuotedAt (.ofList (before ++ text)) item.position.offset item.text := by
  induction splits with
  | last _ => cases among
  | @item before gap text behind first items _ offset shows spans _ ih =>
    rcases List.mem_cons.1 among with rfl | later
    · obtain ⟨word, more, rfl⟩ := spans.exists_append shows
      refine ⟨word, .ofList (before ++ gap), .ofList (more ++ behind), ?_, offset.symm⟩
      simp [String.append_assoc]
    · have quoted := ih later
      rwa [List.append_assoc, List.append_assoc, ← List.append_assoc gap] at quoted

theorem Cursor.quotes_of_mem_items {comments : Bool} {text : String} {item : Item}
    (among : item ∈ (ofText text).items comments) :
    IsWord item.text ∧ QuotedAt text item.position.offset item.text := by
  have quoted := (splits_ofLexemes comments [] text.toList).quotes among
  rwa [List.nil_append, String.ofList_toList] at quoted

/-! ## Errors -/

/-- An error is about an item and shows its text. -/
inductive Diagnostic.Blames : Diagnostic → Item → Prop
  /-- Text that is no token is reported as it is. -/
  | fault (e : LexicalError) : Blames (.lexical e) (.fault e)
  /-- Between statements a token has to open one. -/
  | outside (t : Token) : Blames (.misplaced t.position t.text .expectedOpening) (.token t)
  /-- Inside of a statement it is the place that complains about a token. -/
  | inside (place : Place) (t : Token) :
    Blames (.misplaced t.position t.text (place.complaint t.symbol)) (.token t)

theorem Diagnostic.Blames.position {error : Diagnostic} {item : Item} (blames : error.Blames item) :
    error.position = item.position := by
  cases blames <;> rfl

theorem Diagnostic.Blames.text {error : Diagnostic} {item : Item} (blames : error.Blames item) :
    error.text = item.text := by
  cases blames <;> rfl

namespace Phase

variable {stop : Position} {phase : Phase} {item : Item} {items : List Item} {error : Diagnostic}

/-- The error that an item causes is about the item. -/
theorem blames_of_mem_step (found : error ∈ Event.errors (phase.step item).1) :
    error.Blames item := by
  cases item with
  | fault fault =>
    rw [events_step_fault] at found
    rw [List.mem_singleton.1 found]
    exact .fault fault
  | token token =>
    obtain ⟨cause, rejects, rfl⟩ := exists_rejects_of_mem_errors_step found
    cases rejects with
    | outside => exact .outside token
    | @inside line place symbol cause rejected =>
      rw [Place.eq_complaint_of_reject rejected]
      exact .inside place token
    | closed => exact .outside token

/-- An error is about one of the items, or a statement is open at the end of the text. -/
theorem blames_of_mem_survey (found : error ∈ Event.errors (phase.survey stop items)) :
    error = .misplaced stop "" .unterminated ∨ ∃ item ∈ items, error.Blames item := by
  obtain ⟨front, behind, rfl, causes⟩ := exists_react_of_mem_survey found
  cases behind with
  | nil =>
    exact .inl (eq_unterminated_of_mem_finish causes)
  | cons item rest => exact .inr ⟨item, by simp, blames_of_mem_step causes⟩

/-- The errors ascend by their offsets. -/
theorem ascending_errors_survey (phase : Phase) (ascending : Item.Ascending stop items) :
    (Event.errors (phase.survey stop items)).Pairwise fun earlier later =>
      earlier.position.offset < later.position.offset := by
  induction items generalizing phase with
  | nil => cases phase <;> simp [finish, Event.error?]
  | cons item rest ih =>
    rw [errors_survey_cons, List.pairwise_append]
    refine ⟨pairwise_errors_step .., ih _ ascending.tail, ?_⟩
    intro earlier here later found
    rw [position_of_mem_errors_step here]
    exact offset_lt_of_mem_errors_survey ascending found

end Phase

/-- What an error shows of a text. -/
structure Diagnostic.Quotes (comments : Bool) (text : String) (error : Diagnostic) : Prop where
  /-- The text reads so at the offset of the error. -/
  quoted : QuotedAt text error.position.offset error.text
  /-- Nothing is shown exactly if a statement is not ended. -/
  unterminated : error.text = "" ↔ ∃ fault, error = .syntactic fault ∧ fault.cause = .unterminated
  /-- Nothing is shown exactly at the end of the text. -/
  ends : error.text = "" ↔ error.position.offset = text.utf8ByteSize
  /-- What is shown is what an item of the text shows. -/
  blames : error.text ≠ "" → ∃ item ∈ (Cursor.ofText text).items comments, error.Blames item
  /-- It is never text that was reported before. -/
  fresh : ∀ position, error ≠ Reader.stuck position

variable {comments : Bool} {text : String}

theorem quotes_unterminated (comments : Bool) (text : String) :
    (Diagnostic.misplaced (Cursor.ofText text).stop "" .unterminated).Quotes comments text where
  quoted := ⟨text, "", by simp [Diagnostic.text, Diagnostic.misplaced, SyntaxError.make],
    (Cursor.offset_stop text).symm⟩
  unterminated := iff_of_true rfl ⟨_, rfl, rfl⟩
  ends := iff_of_true rfl (Cursor.offset_stop text)
  blames shown := absurd rfl shown
  fresh := nofun

theorem Diagnostic.Blames.quotes {error : Diagnostic} {item : Item} (blames : error.Blames item)
    (among : item ∈ (Cursor.ofText text).items comments) : error.Quotes comments text := by
  obtain ⟨word, quoted⟩ := Cursor.quotes_of_mem_items among
  rw [← blames.text, ← blames.position] at quoted
  have shown : error.text ≠ "" := by
    rw [blames.text]
    exact word.nonempty
  refine ⟨quoted, iff_of_false shown ?_, iff_of_false shown ?_, fun _ => ⟨item, among, blames⟩, ?_⟩
  · rintro ⟨fault, rfl, cause⟩
    cases blames with
    | outside t => cases cause
    | inside place t => exact Place.complaint_ne_unterminated place t.symbol cause
  · exact Nat.ne_of_lt (quoted.offset_lt shown)
  · rintro position rfl
    exact shown rfl

theorem quotes_of_mem_survey {error : Diagnostic} (found : error ∈ survey comments text) :
    error.Quotes comments text := by
  rcases Phase.blames_of_mem_survey found with rfl | ⟨item, among, blames⟩
  · exact quotes_unterminated comments text
  · exact blames.quotes among

/-- Nothing is found behind an error at the end of the text. -/
theorem eq_nil_of_survey_eq_append {error : Diagnostic} {front behind : List Diagnostic}
    (split : survey comments text = front ++ error :: behind)
    (ends : error.position.offset = text.utf8ByteSize) : behind = [] := by
  have ascending := Phase.ascending_errors_survey .outside (Cursor.ascending_items comments text)
  have apart : (front ++ error :: behind).Pairwise fun earlier later =>
      earlier.position.offset < later.position.offset := split ▸ ascending
  rw [List.eq_nil_iff_forall_not_mem]
  intro later among
  have after := List.rel_of_pairwise_cons (List.pairwise_append.1 apart).2.1 among
  have found : later ∈ survey comments text := by
    rw [split]
    simp [among]
  obtain ⟨before, rest, whole, size⟩ := (quotes_of_mem_survey found).quoted
  have within := congrArg String.utf8ByteSize whole
  rw [String.utf8ByteSize_append, String.utf8ByteSize_append] at within
  omega

/-- Errors quote the text.  What an error shows is found at its offset, and it shows nothing exactly
if a statement is open at the end of the text, which is found at most once and last. -/
theorem errors_quote_the_text (config : Config) (text : String) :
    (∀ error, parse config text = .error error ∨ error ∈ check config text →
        error.Quotes config.comments text) ∧
      ∀ front error behind, check config text = front ++ error :: behind → error.text = "" →
        behind = [] := by
  refine ⟨fun error reported => quotes_of_mem_survey (mem_survey_of_reported reported), ?_⟩
  intro front error behind split empty
  have found : error ∈ survey config.comments text := by
    apply mem_survey_of_reported
    right
    rw [split]
    simp
  have ends := (quotes_of_mem_survey found).ends.1 empty
  obtain ⟨beyond, whole⟩ := List.take_prefix config.maxErrors (survey config.comments text)
  rw [← check_eq_take_survey, split, List.append_assoc, List.cons_append] at whole
  exact (List.append_eq_nil_iff.1 (eq_nil_of_survey_eq_append whole.symm ends)).1

/-- A number and a wide character that are no tokens, and a statement that is not ended. -/
theorem errors_quote_the_text_of_faults :
    check .default "007 é\n(DEVICE g" =
        [.lexical ⟨.leadingZero, "007", ⟨0, 1, 1⟩⟩,
          .lexical ⟨.strayCharacter 'é', "é", ⟨4, 1, 5⟩⟩] ++
        .misplaced ⟨16, 2, 10⟩ "" .unterminated :: [] ∧
      (∀ error ∈ check .default "007 é\n(DEVICE g", error.Quotes true "007 é\n(DEVICE g") ∧
      parse .default "007 é\n(DEVICE g" = .error (.lexical ⟨.leadingZero, "007", ⟨0, 1, 1⟩⟩) ∧
      (Diagnostic.lexical ⟨.leadingZero, "007", ⟨0, 1, 1⟩⟩).Quotes true "007 é\n(DEVICE g" ∧
      ∀ front behind, check .default "007 é\n(DEVICE g" =
          front ++ .misplaced ⟨16, 2, 10⟩ "" .unterminated :: behind → behind = [] := by
  obtain ⟨quotes, last⟩ := errors_quote_the_text .default "007 é\n(DEVICE g"
  have listed : check .default "007 é\n(DEVICE g" =
      [.lexical ⟨.leadingZero, "007", ⟨0, 1, 1⟩⟩,
        .lexical ⟨.strayCharacter 'é', "é", ⟨4, 1, 5⟩⟩] ++
      .misplaced ⟨16, 2, 10⟩ "" .unterminated :: [] := by decide +kernel
  have answered : parse .default "007 é\n(DEVICE g" =
      .error (.lexical ⟨.leadingZero, "007", ⟨0, 1, 1⟩⟩) :=
    parse_eq_error_iff_survey.2 (by decide +kernel)
  exact ⟨listed, fun error found => quotes error (.inr found), answered,
    quotes _ (.inl answered), fun front behind split => last front _ behind split rfl⟩

end Netlist

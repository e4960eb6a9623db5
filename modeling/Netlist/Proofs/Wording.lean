import Netlist.Diagnostic.Snippet
import Netlist.Proofs.Modes
import Netlist.Proofs.Quotation

/-!
# What is said about a text is said in lines

The wording of an error is one line, whatever the text is
(`isLine_wording_of_mem_survey`).  Only two parts of it come from the text.  A
character that is no token is quoted, and a line feed is never quoted as it is
(`Text.isLine_quoted`).  A token that is shown is a word, which has no blanks.
So every part of a snippet is a line (`Diagnostic.isLine_of_mem_snippet`), and
there is a sixth one exactly for suggestions (`Diagnostic.length_snippet`).
-/

namespace Netlist

/-! ## Lines -/

theorem isLine_ofList {text : List Char} : IsLine (.ofList text) ↔ '\n' ∉ text := by
  rw [IsLine, String.toList_ofList]

theorem isLine_replicate (n : Nat) {c : Char} (other : c ≠ '\n') :
    IsLine (.ofList (List.replicate n c)) := by
  rw [isLine_ofList]
  intro feed
  exact other (List.eq_of_mem_replicate feed).symm

theorem isLine_intercalate {separator : String} (line : IsLine separator) {words : List String}
    (lines : ∀ word ∈ words, IsLine word) : IsLine (separator.intercalate words) := by
  induction words with
  | nil => exact List.not_mem_nil
  | cons word rest ih =>
    have first : IsLine word := lines word (by simp)
    cases rest with
    | nil => rwa [String.intercalate_singleton]
    | cons next more =>
      have later := ih fun other among => lines other (List.mem_cons_of_mem _ among)
      rw [String.intercalate_cons_cons]
      exact (first.append line).append later

theorem IsWord.isLine {word : String} (solid : IsWord word) : IsLine word := by
  intro feed
  have blank := solid.solid '\n' feed
  cases blank

theorem isLine_toDigits_hex (n : Nat) : IsLine (.ofList (Nat.toDigits 16 n)) := by
  have digit : ∀ d < 16, '\n' ≠ Nat.digitChar d := by decide
  rw [isLine_ofList]
  induction n using Nat.strongRecOn with
  | ind n ih =>
    rcases Nat.lt_or_ge n 16 with small | large
    · rw [Nat.toDigits_of_lt_base small, List.mem_singleton]
      exact digit n small
    · have last : n % 16 < 16 := Nat.mod_lt n (by decide)
      have split : Nat.toDigits 16 n =
          Nat.toDigits 16 (n / 16) ++ Nat.toDigits 16 (n % 16) := by
        rw [Nat.toDigits_append_toDigits (by decide) (by omega) last, Nat.div_add_mod]
      rw [split, Nat.toDigits_of_lt_base last, List.mem_append, List.mem_singleton]
      rintro (earlier | here)
      · exact ih (n / 16) (by omega) earlier
      · exact digit _ last here

theorem Text.isLine_quoted (c : Char) : IsLine (quoted c) := by
  have apostrophe : IsLine "'" := by decide
  have body : IsLine (shown c) := by
    unfold shown
    split
    case h_7 _ _ _ feed _ _ =>
      split
      · have opening : IsLine "\\u\x7b" := by decide
        have closing : IsLine "\x7d" := by decide
        exact (opening.append (isLine_toDigits_hex c.toNat)).append closing
      · rw [Char.toString_eq_singleton, IsLine, String.toList_singleton, List.mem_singleton]
        exact fun same => feed same.symm
    all_goals decide
  exact (apostrophe.append body).append apostrophe

/-! ## Wording -/

theorem DeviceType.isLine_spelling (type : DeviceType) : IsLine type.spelling := by
  cases type <;> decide

theorem LexicalCause.isLine_wording (cause : LexicalCause) : IsLine cause.wording := by
  cases cause with
  | strayCharacter c =>
    have opening : IsLine "unrecognized character " := by decide
    exact opening.append (Text.isLine_quoted c)
  | leadingZero => decide
  | numberTooLarge => decide
  | openComment => decide

/-- If what is expected is a line, so is the wording of the cause. -/
theorem SyntaxCause.isLine_wording {cause : SyntaxCause}
    (told : ∀ what, cause = .expected what → IsLine what) : IsLine cause.wording := by
  have type : IsLine "device type " := by decide
  cases cause with
  | expected what =>
    have opening : IsLine "expected " := by decide
    exact opening.append (told what rfl)
  | missingQualifier given =>
    have closing : IsLine " requires a number" := by decide
    exact (type.append given.isLine_spelling).append closing
  | unexpectedQualifier given =>
    have closing : IsLine " takes no number" := by decide
    exact (type.append given.isLine_spelling).append closing
  | _ => decide

theorem Place.isLine_of_complaint_eq_expected {place : Place} {symbol : Symbol} {what : String}
    (complains : place.complaint symbol = .expected what) : IsLine what := by
  have behind {slot : Slot} (complains : complaintBehind slot = .expected what) : IsLine what := by
    cases slot <;> cases complains <;> decide
  cases place with
  | typed names type =>
    simp only [complaint] at complains
    split at complains
    · cases complains
    split at complains
    · cases complains
    · cases complains
      decide
  | device slot name => exact behind complains
  | pinned slot name pin => exact behind complains
  | _ => cases complains <;> decide

theorem SyntaxError.isLine_describeFound {found : String} (line : IsLine found) :
    IsLine (describeFound found) := by
  have apostrophe : IsLine "'" := by decide
  unfold describeFound
  split
  · decide
  · exact (apostrophe.append line).append apostrophe

theorem SyntaxCause.isLine_of_mem_candidates {cause : SyntaxCause} {word : String}
    (listed : word ∈ cause.candidates) : IsLine word := by
  cases cause with
  | unknownStatement =>
    have lines : ∀ word ∈ unknownStatement.candidates, IsLine word := by decide
    exact lines word listed
  | unknownDeviceType =>
    have lines : ∀ word ∈ unknownDeviceType.candidates, IsLine word := by decide
    exact lines word listed
  | _ => cases listed

theorem Position.isLine_describe (p : Position) : IsLine p.describe := by
  have opening : IsLine "line " := by decide
  have middle : IsLine ", column " := by decide
  exact ((opening.append (isLine_toString p.line)).append middle).append (isLine_toString p.column)

namespace Diagnostic

theorem isLine_of_help? {words : List String} {help : String} (lines : ∀ word ∈ words, IsLine word)
    (helps : help? words = some help) : IsLine help := by
  have apostrophe : IsLine "'" := by decide
  unfold help? at helps
  split at helps
  · cases helps
  · rename_i only
    cases helps
    have opening : IsLine "did you mean '" := by decide
    have closing : IsLine "'?" := by decide
    exact (opening.append (lines only (by simp))).append closing
  · cases helps
    have opening : IsLine "did you mean one of " := by decide
    have comma : IsLine ", " := by decide
    have closing : IsLine "?" := by decide
    refine (opening.append (isLine_intercalate comma ?_)).append closing
    intro quoted among
    obtain ⟨word, listed, rfl⟩ := List.mem_map.1 among
    exact (apostrophe.append (lines word listed)).append apostrophe

/-! ## Lines of a snippet -/

variable {comments : Bool} {text : String} {error : Diagnostic}

theorem newline_not_mem_shownLine (source : String) (position : Position) :
    '\n' ∉ shownLine source position := by
  intro feed
  obtain ⟨returns, whole, -⟩ := Text.exists_dropTrailing_append (· == '\r')
    ((Text.lines source.toList)[position.line - 1]?.getD [])
  have inLine : '\n' ∈ (Text.lines source.toList)[position.line - 1]?.getD [] := by
    rw [whole]
    exact List.mem_append_left _ feed
  cases found : (Text.lines source.toList)[position.line - 1]? with
  | none =>
    rw [found] at inLine
    cases inLine
  | some line =>
    rw [found] at inLine
    exact Text.newline_not_mem_of_mem_lines (List.mem_of_getElem? found) inLine

theorem newline_not_mem_indent (line : List Char) (position : Position) :
    '\n' ∉ indent line position := by
  intro feed
  obtain ⟨c, -, moved⟩ := List.mem_map.1 feed
  split at moved <;> cases moved

/-- If the wording and the words that could have been meant are lines, so are those of the
snippet. -/
theorem isLine_of_mem_snippet (worded : IsLine error.wording)
    (meant : ∀ word ∈ error.suggestions, IsLine word) (source : String) :
    ∀ line ∈ error.snippet source, IsLine line := by
  have gutter := isLine_replicate (toString error.position.line).length (c := ' ') (by decide)
  have bar : IsLine " | " := by decide
  intro line among
  simp only [snippet, List.mem_append, List.mem_cons, List.not_mem_nil, or_false,
    Option.mem_toList, Option.map_eq_some_iff] at among
  rcases among with (rfl | rfl | rfl | rfl | rfl) | ⟨help, helps, rfl⟩
  · have opening : IsLine "error: " := by decide
    exact opening.append worded
  · have arrow : IsLine "--> " := by decide
    exact (gutter.append arrow).append error.position.isLine_describe
  · have bare : IsLine " |" := by decide
    exact gutter.append bare
  · have shown := isLine_ofList.2 (newline_not_mem_shownLine source error.position)
    exact ((isLine_toString _).append bar).append shown
  · refine (gutter.append bar).append (isLine_ofList.2 fun feed => ?_)
    rcases List.mem_append.1 feed with before | under
    · exact newline_not_mem_indent _ _ before
    · cases List.eq_of_mem_replicate under
  · have opening : IsLine " = help: " := by decide
    exact (gutter.append opening).append (isLine_of_help? meant helps)

/-- There is a sixth line exactly for the words that could have been meant. -/
theorem length_snippet (error : Diagnostic) (source : String) :
    (error.snippet source).length = if error.suggestions = [] then 5 else 6 := by
  unfold snippet
  generalize error.suggestions = words
  rcases words with _ | ⟨only, _ | ⟨second, more⟩⟩ <;> rfl

end Diagnostic

theorem SyntaxError.isLine_wording {position : Position} {found : String} {cause : SyntaxCause}
    (told : IsLine cause.wording) (line : IsLine found) :
    IsLine (make position found cause).wording := by
  have middle : IsLine ", found " := by decide
  exact (told.append middle).append (isLine_describeFound line)

variable {comments : Bool} {text : String} {error : Diagnostic}

/-- What is found in a text is said in one line. -/
theorem isLine_wording_of_mem_survey (found : error ∈ survey comments text) :
    IsLine error.wording := by
  rcases Phase.blames_of_mem_survey found with rfl | ⟨item, among, blames⟩
  · exact SyntaxError.isLine_wording (by decide) (by decide)
  · have word := (Cursor.quotes_of_mem_items among).1.isLine
    cases blames with
    | fault e => exact e.cause.isLine_wording
    | outside t => exact SyntaxError.isLine_wording (by decide) word
    | inside place t =>
      refine SyntaxError.isLine_wording (SyntaxCause.isLine_wording fun what complains => ?_) word
      exact Place.isLine_of_complaint_eq_expected complains

theorem isLine_of_mem_suggestions (found : error ∈ survey comments text) {word : String}
    (suggested : word ∈ error.suggestions) : IsLine word := by
  have made {position : Position} {found : String} {cause : SyntaxCause}
      (suggested : word ∈ (Diagnostic.misplaced position found cause).suggestions) : IsLine word :=
    SyntaxCause.isLine_of_mem_candidates (mem_of_mem_closest suggested)
  rcases Phase.blames_of_mem_survey found with rfl | ⟨item, among, blames⟩
  · exact made suggested
  · cases blames with
    | fault e => cases suggested
    | outside t => exact made suggested
    | inside place t => exact made suggested

end Netlist

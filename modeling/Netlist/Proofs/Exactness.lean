import Netlist.Proofs.Cascade
import Netlist.Proofs.Translation

/-!
# Positions are exact

A position is *exact* in a text if it can be found by counting: its offset is the
size of a beginning of the text, its line counts the line feeds in this
beginning, and its column the characters behind the last of them.  Positions are
never found in this way.  They are carried along, over layout as well as over
symbols and faults, and every step keeps them exact.

A cursor *lies in* a text if its text is the end of the text and its position is
carried along over all that comes before it (`Cursor.LiesIn`).  The cursor at the
beginning lies in its text, and `next` keeps that (`Cursor.LiesIn.next`), so it
holds behind any number of items.  What is said of items carries over to
diagnostics by a general fact: a reader reports errors only at positions that it
holds (`Reader.Holds.position_of_check`, `Reader.Holds.position_of_parse`), and the readers
that it leads to hold no others (`Reader.Leads.holds`).
-/

namespace Netlist

/-- The position is found by counting in a beginning of the text. -/
def Position.IsExact (text : String) (p : Position) : Prop :=
  ∃ before after : String, text = before ++ after ∧
    p.offset = before.utf8ByteSize ∧
    p.line = 1 + before.toList.count '\n' ∧
    p.column = 1 + (before.toList.reverse.takeWhile (· ≠ '\n')).length

theorem Position.isExact_after {text : String} {before rest : List Char}
    (split : text.toList = before ++ rest) : (start.after before).IsExact text := by
  have whole : text = String.ofList before ++ String.ofList rest := by
    rw [← String.ofList_append, ← split, String.ofList_toList]
  have counted := after_start before
  refine ⟨.ofList before, .ofList rest, whole, ?_, ?_, ?_⟩
  · rw [counted]
    rfl
  · rw [counted, String.toList_ofList]
    rfl
  · rw [counted, String.toList_ofList]
    rfl

namespace Cursor

/-! ## Cursors -/

/-- The cursor behind as many items, which stays at the end of the text. -/
def skip (comments : Bool) : Nat → Cursor → Cursor
  | 0, cursor => cursor
  | n + 1, cursor => skip comments n (cursor.next comments).2

/-- The cursor behind one item for each of these settings, which stays at the end of the text. -/
def skipEach : List Bool → Cursor → Cursor
  | [], cursor => cursor
  | comments :: later, cursor => skipEach later (cursor.next comments).2

theorem skip_eq_skipEach (comments : Bool) (n : Nat) (cursor : Cursor) :
    cursor.skip comments n = cursor.skipEach (List.replicate n comments) := by
  induction n generalizing cursor with
  | zero => rfl
  | succ n ih => exact ih (cursor.next comments).2

/-- The text of the cursor is the end of a text, and it has come there from the beginning. -/
def LiesIn (text : String) (cursor : Cursor) : Prop :=
  ∃ before, text.toList = before ++ cursor.rest ∧ cursor.position = Position.start.after before

variable {comments : Bool} {text : String} {cursor : Cursor}

theorem liesIn_ofText (text : String) : (ofText text).LiesIn text :=
  ⟨[], rfl, rfl⟩

theorem LiesIn.isExact (lies : cursor.LiesIn text) : cursor.position.IsExact text := by
  obtain ⟨before, split, position⟩ := lies
  rw [position]
  exact Position.isExact_after split

theorem LiesIn.stop (lies : cursor.LiesIn text) : cursor.stop = (ofText text).stop := by
  obtain ⟨before, split, position⟩ := lies
  show cursor.position.after cursor.rest = Position.start.after text.toList
  rw [position, split, Position.after_append]

/-- Behind a lexeme a cursor still lies in its text. -/
theorem LiesIn.behind {position : Position} {c : Char} {rest : List Char}
    (lies : LiesIn text ⟨position, c :: rest⟩) (comments : Bool) :
    LiesIn text ⟨position.after (Lexeme.first comments c rest).1.text,
      (Lexeme.first comments c rest).2⟩ := by
  obtain ⟨before, split, reached⟩ := lies
  have reached : position = Position.start.after before := reached
  refine ⟨before ++ (Lexeme.first comments c rest).1.text, ?_, ?_⟩
  · rw [split, List.append_assoc, Lexeme.text_append_first]
  · rw [Position.after_append, reached]

/-- The next item stands at an exact position, and behind it a cursor still lies in its text. -/
theorem LiesIn.next (lies : cursor.LiesIn text) (comments : Bool) :
    (cursor.next comments).2.LiesIn text ∧
      ∀ item ∈ (cursor.next comments).1, item.position.IsExact text := by
  fun_induction Cursor.next comments cursor with
  | case1 position =>
    refine ⟨lies, ?_⟩
    intro item found
    cases found
  | case2 position c rest cut behind item found =>
    refine ⟨lies.behind comments, fun other same => ?_⟩
    cases same
    rw [Lexeme.position_of_item? found]
    exact lies.isExact
  | case3 position c rest cut behind none ih => exact ih (lies.behind comments)

theorem LiesIn.skipEach (lies : cursor.LiesIn text) (settings : List Bool) :
    (cursor.skipEach settings).LiesIn text := by
  induction settings generalizing cursor with
  | nil => exact lies
  | cons comments later ih => exact ih (lies.next comments).1

theorem LiesIn.skip (lies : cursor.LiesIn text) (comments : Bool) (n : Nat) :
    (cursor.skip comments n).LiesIn text := by
  rw [skip_eq_skipEach]
  exact lies.skipEach _

theorem isExact_of_mem_items (lies : cursor.LiesIn text) :
    ∀ item ∈ cursor.items comments, item.position.IsExact text := by
  have yields := yields_items comments cursor
  generalize cursor.items comments = items at yields
  induction yields with
  | stop _ => exact nofun
  | @item cursor behind item items next _ ih =>
    have onward := lies.next comments
    rw [next] at onward
    intro other among
    rcases List.mem_cons.1 among with rfl | later
    · exact onward.2 _ rfl
    · exact ih onward.1 other later

end Cursor

/-! ## Readers -/

namespace Phase

variable {stop : Position} {phase : Phase} {room : Nat} {items : List Item}

theorem rest_parse_suffix (stop : Position) (phase : Phase) (items : List Item) :
    (phase.parse stop items).rest <:+ items := by
  induction items generalizing phase with
  | nil => exact List.suffix_rfl
  | cons item rest ih =>
    simp only [parse]
    split
    · exact (ih _).trans (List.suffix_cons item rest)
    · exact List.suffix_rfl

theorem rest_check_suffix (stop : Position) (phase : Phase) (room : Nat) (items : List Item) :
    (phase.check stop room items).rest <:+ items := by
  induction items generalizing phase room with
  | nil => exact List.suffix_rfl
  | cons item rest ih =>
    simp only [check]
    split
    · exact List.suffix_rfl
    · exact (ih _ _).trans (List.suffix_cons item rest)

end Phase

namespace Reader

/-- The readers to which questions lead, one after the other. -/
inductive Leads (reader : Reader) : Reader → Prop
  /-- Nothing is asked. -/
  | refl : Leads reader reader
  /-- A definition is asked for last. -/
  | parse {last : Reader} : Leads reader last → Leads reader last.parse.reader
  /-- The errors are asked for last. -/
  | check {last : Reader} : Leads reader last → Leads reader last.check.reader

/-- All positions that a reader holds have a property. -/
structure Holds (property : Position → Prop) (reader : Reader) : Prop where
  /-- The end of the text has it. -/
  stop : property reader.stop
  /-- The place that was reported to be no token has it. -/
  spoiled : ∀ position ∈ reader.spoiled, property position
  /-- The items to come have it. -/
  items : ∀ item ∈ reader.items, property item.position

variable {property : Position → Prop} {reader : Reader}

theorem Holds.resume (holds : reader.Holds property) {items : List Item}
    (suffix : items <:+ reader.items) : (reader.resume items).Holds property := by
  have items (item : Item) (among : item ∈ items) : property item.position :=
    holds.items item (suffix.subset among)
  unfold Reader.resume
  split
  · rename_i fault rest
    refine ⟨holds.stop, ?_, fun item among => items item (.tail _ among)⟩
    intro position same
    cases same
    exact items (.fault fault) (.head _)
  · exact ⟨holds.stop, nofun, items⟩

/-- What a survey of the items finds stands at a position that the reader holds. -/
theorem Holds.survey (holds : reader.Holds property) {phase : Phase} {error : Diagnostic}
    (found : error ∈ Event.errors (phase.survey reader.stop reader.items)) :
    property error.position := by
  rcases Phase.position_of_mem_errors_survey found with ends | ⟨item, among, stands⟩
  · rw [ends]
    exact holds.stop
  · rw [stands]
    exact holds.items item among

/-- An answered error stands at a position that the reader holds. -/
theorem Holds.position_of_parse (holds : reader.Holds property) {error : Diagnostic}
    (answered : reader.parse.value = .error error) : property error.position := by
  unfold Reader.parse at answered
  split at answered
  · rename_i position spoiled
    cases answered
    exact holds.spoiled position spoiled
  · simp only at answered
    split at answered
    · cases answered
    · rename_i first others errors
      cases answered
      have among : error ∈ Event.errors (Phase.outside.survey reader.stop reader.items) := by
        apply List.mem_of_head?
        rw [← Phase.head?_errors_parse, errors]
        rfl
      exact holds.survey among

/-- What is on the record of a check stands at a position that the reader holds. -/
theorem Holds.position_of_checkEvents (holds : reader.Holds property) {error : Diagnostic}
    (found : error ∈ Event.errors reader.checkEvents.1) : property error.position := by
  unfold checkEvents at found
  split at found
  · rename_i position spoiled
    simp only at found
    split at found
    · cases found
    · rw [List.cons_append, Event.errors_cons, Event.errors_append, Item.errors_reading,
        List.nil_append] at found
      rcases List.mem_append.1 found with here | later
      · cases List.mem_singleton.1 here
        exact holds.spoiled position spoiled
      · exact holds.survey (Phase.mem_survey_of_mem_check later)
  · simp only at found
    split at found
    · cases found
    · exact holds.survey (Phase.mem_survey_of_mem_check found)

/-- A reported error stands at a position that the reader holds. -/
theorem Holds.position_of_check (holds : reader.Holds property) {error : Diagnostic}
    (reported : error ∈ reader.check.value) : property error.position :=
  holds.position_of_checkEvents (List.mem_of_mem_take reported)

/-- What every reader keeps that goes on behind some of its items, all readers keep to which it
leads. -/
theorem Leads.keeps {invariant : Reader → Prop} {last : Reader} (leads : reader.Leads last)
    (resumes : ∀ {reader : Reader} {items : List Item}, invariant reader →
      items <:+ reader.items → invariant (reader.resume items))
    (initial : invariant reader) : invariant last := by
  induction leads with
  | refl => exact initial
  | @parse last _ ih =>
    unfold Reader.parse
    split
    · exact ih
    · have onward := resumes ih (Phase.rest_parse_suffix last.stop .outside last.items)
      simp only
      split <;> exact onward
  | @check last _ ih =>
    show invariant last.checkEvents.2
    unfold checkEvents
    split
    · simp only
      split
      · exact ih
      · exact resumes ih (Phase.rest_check_suffix ..)
    · simp only
      split
      · exact ih
      · exact resumes ih (Phase.rest_check_suffix ..)

/-- The readers to which a reader leads hold no other positions. -/
theorem Leads.holds {last : Reader} (leads : reader.Leads last) (holds : reader.Holds property) :
    last.Holds property :=
  leads.keeps (fun held suffix => held.resume suffix) holds

end Reader

theorem Cursor.LiesIn.holds {text : String} {cursor : Cursor} (lies : cursor.LiesIn text)
    (config : Config) : (Reader.ofCursor config cursor).Holds (Position.IsExact text) where
  stop := by
    show cursor.stop.IsExact text
    rw [lies.stop]
    exact Position.isExact_after (List.append_nil _).symm
  spoiled := nofun
  items := isExact_of_mem_items lies

/-- What is found in a text stands at an exact position. -/
theorem isExact_of_mem_survey {comments : Bool} {text : String} {error : Diagnostic}
    (found : error ∈ survey comments text) : error.position.IsExact text := by
  have holds := (Cursor.liesIn_ofText text).holds ⟨comments, 0⟩
  exact holds.survey found

/-- Every position is exact: that of whatever comes behind some items of a text, an item or the end
of the text, and that of every error which a reader that begins there reports, however often it is
asked. -/
theorem positions_are_exact (comments : Bool) (text : String) (n : Nat) :
    (∀ item behind, (((Cursor.ofText text).skip comments n).next comments) = (some item, behind) →
        item.position.IsExact text) ∧
      (∀ behind, ((Cursor.ofText text).skip comments n).next comments = (none, behind) →
        behind.position.IsExact text) ∧
      ∀ config reader,
        (Reader.ofCursor config ((Cursor.ofText text).skip comments n)).Leads reader →
        (∀ error, reader.parse.value = .error error → error.position.IsExact text) ∧
          ∀ error ∈ reader.check.value, error.position.IsExact text := by
  have lies := (Cursor.liesIn_ofText text).skip comments n
  have onward := lies.next comments
  refine ⟨fun item behind next => ?_, fun behind next => ?_, fun config reader leads => ?_⟩
  · rw [next] at onward
    exact onward.2 item rfl
  · rw [next] at onward
    exact onward.1.isExact
  · have holds := leads.holds (lies.holds config)
    exact ⟨fun error answered => holds.position_of_parse answered,
      fun error reported => holds.position_of_check reported⟩

/-- Behind a comment with a wide character and a line feed there are a stray character and the end
of the text, and a reader that was stopped by the character is asked once more. -/
theorem positions_are_exact_behind_comment :
    (((Cursor.ofText "/*é\n*/ g\t\n(%").skip true 2).next true).1 =
        some (.fault ⟨.strayCharacter '%', "%", ⟨12, 3, 2⟩⟩) ∧
      (((Cursor.ofText "/*é\n*/ g\t\n(%").skip true 3).next true).1 = none ∧
      .syntactic (.make ⟨12, 3, 2⟩ "" .expectedOpening) ∈
        (Reader.ofCursor .default
          ((Cursor.ofText "/*é\n*/ g\t\n(%").skip true 1)).parse.reader.check.value ∧
      (⟨12, 3, 2⟩ : Position).IsExact "/*é\n*/ g\t\n(%" ∧
      (((Cursor.ofText "/*é\n*/ g\t\n(%").skip true 3).next true).2.position.IsExact
        "/*é\n*/ g\t\n(%" ∧
      (Diagnostic.syntactic (.make ⟨12, 3, 2⟩ "" .expectedOpening)).position.IsExact
        "/*é\n*/ g\t\n(%" := by
  have stray : (((Cursor.ofText "/*é\n*/ g\t\n(%").skip true 2).next true).1 =
      some (.fault ⟨.strayCharacter '%', "%", ⟨12, 3, 2⟩⟩) := by decide +kernel
  have ends : (((Cursor.ofText "/*é\n*/ g\t\n(%").skip true 3).next true).1 = none := by
    decide +kernel
  have asked : .syntactic (.make ⟨12, 3, 2⟩ "" .expectedOpening) ∈
      (Reader.ofCursor .default
        ((Cursor.ofText "/*é\n*/ g\t\n(%").skip true 1)).parse.reader.check.value := by
    decide +kernel
  have again := (positions_are_exact true "/*é\n*/ g\t\n(%" 1).2.2 .default _ (.parse .refl)
  exact ⟨stray, ends, asked, (positions_are_exact true _ 2).1 _ _ (Prod.ext stray rfl),
    (positions_are_exact true _ 3).2.1 _ (Prod.ext ends rfl), again.2 _ asked⟩

end Netlist

import Netlist.Proofs.SourceOrder

/-!
# What a parse leaves behind

A reader whose parse was stopped by an error can be asked for the errors in the
rest of the text.  It answers what a check of the whole text reports behind the
first error, except that it may come back to that error and report its place
once more.

A parse leaves the item that caused the error and those behind it
(`Phase.Reads.rest_parse`).  In a check the same item leaves the phase behind
it: an opening mark begins a statement, and anything else leaves the reader lost
(`Phase.step_of_mem_errors`).  So both readers go on in the same way from the
item.  Only the one that begins there anew has to find an opening mark, and
where there is none it reports that (`Reader.survey_resume`).  The search for an
opening mark *halts* at one and at the end of the text (`Item.Halts`), so these
are the errors to which a reader does not come back.

A parse that was not stopped has used up all items, and nothing is left to
answer (`Reader.IsDone`).
-/

namespace Netlist

/-! ## Where a search ends -/

/-- The search for the next statement ends at this position: there is a mark that opens one, or the
end of the text. -/
def Item.Halts (stop : Position) (items : List Item) (position : Position) : Prop :=
  position = stop ∨ .token ⟨.openParen, position⟩ ∈ items

instance (stop : Position) (items : List Item) (position : Position) :
    Decidable (Item.Halts stop items position) :=
  inferInstanceAs (Decidable (_ ∨ _))

theorem Item.opens_iff {item : Item} : item.opens ↔ item = .token ⟨.openParen, item.position⟩ := by
  cases item with
  | token token =>
    obtain ⟨symbol, position⟩ := token
    simp [opens, Item.position]
  | fault error => simp [opens]

theorem Item.Ascending.eq_of_position {stop : Position} {items : List Item}
    (ascending : Ascending stop items) {first second : Item} (one : first ∈ items)
    (other : second ∈ items) (same : first.position = second.position) : first = second := by
  induction items with
  | nil => cases one
  | cons item rest ih =>
    have behind := (List.pairwise_cons.1 ascending.1).1
    rcases List.mem_cons.1 one with rfl | oneLater
    · rcases List.mem_cons.1 other with rfl | otherLater
      · rfl
      · exact absurd (congrArg Position.offset same) (Nat.ne_of_lt (behind second otherLater))
    · rcases List.mem_cons.1 other with rfl | otherLater
      · exact absurd (congrArg Position.offset same) (Nat.ne_of_gt (behind first oneLater))
      · exact ih ascending.tail oneLater otherLater

/-- A search ends at an item exactly if the item opens a statement. -/
theorem Item.Ascending.halts_iff {stop : Position} {items : List Item}
    (ascending : Ascending stop items) {item : Item} (among : item ∈ items) :
    Halts stop items item.position ↔ item.opens := by
  rw [Item.opens_iff]
  constructor
  · rintro (ends | opens)
    · exact absurd (congrArg Position.offset ends) (Nat.ne_of_lt (ascending.2 item among))
    · exact ascending.eq_of_position among opens rfl
  · intro opens
    exact .inr (opens ▸ among)

namespace Phase

variable {stop : Position} {phase final : Phase} {tokens : List Token}
  {statements : List Statement} {item : Item} {behind : List Item} {error : Diagnostic}

/-! ## Behind an error -/

theorem errors_step_eq_of_mem (found : error ∈ Event.errors (phase.step item).1) :
    Event.errors (phase.step item).1 = [error] := by
  have single := length_errors_step_le phase item
  generalize Event.errors (phase.step item).1 = errors at found single
  match errors, found with
  | [first], found => rw [List.mem_singleton.1 found]
  | _ :: _ :: _, _ => simp at single

/-- Behind an item that causes an error a statement was opened, or the reader is lost there. -/
theorem step_of_mem_errors (onTrack : ¬phase.IsLost)
    (found : error ∈ Event.errors (phase.step item).1) :
    (phase.step item).2 =
      if item.opens then inside item.position.line .opened else lost item.position := by
  cases item with
  | fault fault =>
    cases phase with
    | lost since => exact absurd trivial onTrack
    | _ => rfl
  | token token =>
    have entering (wrong : error ∈ Event.errors (enter token).1) : (enter token).2 =
        if (Item.token token).opens then inside token.position.line .opened
          else lost token.position := by
      by_cases opens : token.symbol = .openParen
      · simp [enter, opens] at wrong
      · simp [enter, opens, Item.opens]
    cases phase with
    | outside => exact entering found
    | inside line place =>
      cases moved : place.step token.symbol with
      | go next => simp [step, follow, moved] at found
      | close statement => simp [step, follow, moved] at found
      | reject cause =>
        by_cases opens : token.symbol = .openParen
        · rw [opens] at moved
          simp [step, follow, moved, opens, Item.opens, Item.position]
        · simp [step, follow, moved, opens, Item.opens, Item.position]
    | closed line statement => exact entering (by simpa [step, Event.error?] using found)
    | lost since => exact absurd trivial onTrack

/-! ## Behind tokens without error -/

/-- Behind tokens that were read without error a survey goes on as it would from there. -/
theorem Reads.errors_survey (reads : phase.Reads tokens statements final) (stop : Position)
    (behind : List Item) :
    Event.errors (phase.survey stop (tokens.map .token ++ behind)) =
      Event.errors (final.survey stop behind) := by
  induction reads with
  | nil => rfl
  | cons fine _ ih => rw [List.map_cons, List.cons_append, errors_survey_cons, fine, ih,
      List.nil_append]

/-- A parse leaves the items from the one that stopped it. -/
theorem Reads.rest_parse (reads : phase.Reads tokens statements final)
    (stops : behind = [] ∨ Event.errors (final.react stop behind) ≠ []) :
    (phase.parse stop (tokens.map .token ++ behind)).rest = behind := by
  induction reads with
  | nil phase =>
    cases behind with
    | nil => rfl
    | cons item rest =>
      have wrong : Event.errors (phase.step item).1 ≠ [] := stops.resolve_left nofun
      simp [parse, wrong]
  | cons fine _ ih => simpa [parse, fine] using ih stops

end Phase

/-! ## Coming back to an error -/

/-- The error of coming back to an error.  A token is found there again, and nothing where text was
no token. -/
def Diagnostic.again : Diagnostic → Diagnostic
  | lexical error => .syntactic ⟨.expected "'('", "", error.position, []⟩
  | syntactic error => .syntactic ⟨.expected "'('", error.found, error.position, []⟩

namespace Reader

variable {reader : Reader} {final : Phase} {front behind : List Item} {error : Diagnostic}

/-- What a check finds behind an error, a reader that was stopped by the error finds as well, after
it has come back to the error or not. -/
theorem survey_resume (onTrack : ¬final.IsLost)
    (ascending : Item.Ascending reader.stop (front ++ behind))
    (found : error ∈ Event.errors (final.react reader.stop behind)) :
    ∃ later, Event.errors (final.survey reader.stop behind) = error :: later ∧
      (reader.resume behind).survey =
        if Item.Halts reader.stop (front ++ behind) error.position then later
          else error.again :: later := by
  have stands := Phase.position_of_mem_errors_react found
  cases behind with
  | nil =>
    have single : Event.errors (final.finish reader.stop) = [error] := by
      cases final with
      | inside line place => rw [List.mem_singleton.1 found]; rfl
      | _ => cases found
    refine ⟨[], single, ?_⟩
    rw [if_pos (.inl stands)]
    rfl
  | cons item rest =>
    have among : item ∈ front ++ item :: rest := by simp
    have halts := ascending.halts_iff among
    have onward := Phase.step_of_mem_errors onTrack found
    refine ⟨Event.errors ((final.step item).2.survey reader.stop rest), ?_, ?_⟩
    · rw [Phase.errors_survey_cons, Phase.errors_step_eq_of_mem found]
      rfl
    · rw [stands, Item.firstPosition, onward]
      simp only [halts]
      cases item with
      | fault fault =>
        rw [Phase.react, Phase.events_step_fault] at found
        rw [List.mem_singleton.1 found]
        rfl
      | token token =>
        show Event.errors (Phase.outside.survey reader.stop (.token token :: rest)) = _
        rw [Phase.errors_survey_cons]
        obtain ⟨cause, rfl⟩ := Phase.eq_misplaced_of_mem_errors_step found
        by_cases opens : token.symbol = .openParen
        · simp [Phase.step, Phase.enter, Item.opens, Item.position, opens]
        · have comesBack : (Diagnostic.misplaced token.position token.text cause).again =
              .misplaced token.position token.text .expectedOpening := rfl
          simp [Phase.step, Phase.enter, Item.opens, Item.position, opens, Event.error?, comesBack]

/-! ## Nothing left -/

/-- All items are used up. -/
structure IsDone (reader : Reader) : Prop where
  /-- The reader was not stopped. -/
  spoiled : reader.spoiled = none
  /-- There is no item to come. -/
  items : reader.items = []

theorem IsDone.value_check (done : reader.IsDone) : reader.check.value = [] := by
  rw [Reader.value_check, survey, done.spoiled, done.items]
  exact List.take_nil

theorem IsDone.value_parse (done : reader.IsDone) : reader.parse.value = .ok ⟨[]⟩ := by
  unfold Reader.parse
  rw [done.spoiled, done.items]
  rfl

theorem isDone_resume (reader : Reader) : (reader.resume []).IsDone := ⟨rfl, rfl⟩

/-- A reader that is done stays so. -/
theorem IsDone.leads (done : reader.IsDone) {last : Reader} (leads : reader.Leads last) :
    last.IsDone := by
  refine leads.keeps (fun {reader items} done suffix => ?_) done
  rw [done.items, List.suffix_nil] at suffix
  rw [suffix]
  exact reader.isDone_resume

end Reader

/-! ## Parsing first -/

/-- A parse that was not stopped has used up the text. -/
theorem isDone_of_parse_eq_ok {config : Config} {text : String} {definition : Definition}
    (accepted : parse config text = .ok definition) :
    (Reader.ofText config text).parse.reader.IsDone := by
  obtain ⟨tokens, statements, final, behind, reads, split, errors, -, ends⟩ :=
    Phase.exists_reads_parse (Cursor.ofText text).stop .outside
      ((Cursor.ofText text).items config.comments)
  have fine : Event.errors (parseEvents config text) = [] := (parse_eq_ok_iff_events.1 accepted).1
  rw [parseEvents, errors] at fine
  have nothing : behind = [] := ends.resolve_right (absurd fine)
  have rest := reads.rest_parse ends
  rw [← split, nothing] at rest
  rw [Reader.reader_parse rfl]
  show ((Reader.ofText config text).resume (Phase.parse (Cursor.ofText text).stop .outside
    ((Cursor.ofText text).items config.comments)).rest).IsDone
  rw [rest]
  exact Reader.isDone_resume _

/-- What a parse leaves behind.  If it has read a definition, then the reader answers to all
further questions that there is nothing.  If it was stopped by an error, then the reader reports
what a check of the whole text reports behind this error, up to its limit; but first it comes back
to the error, unless that is at an opening mark or at the end of the text. -/
theorem check_behind_parse (config : Config) (text : String) :
    (∀ definition, parse config text = .ok definition →
      ∀ reader, (Reader.ofText config text).parse.reader.Leads reader →
        reader.check.value = [] ∧ reader.parse.value = .ok ⟨[]⟩) ∧
    ∀ error limit, parse config text = .error error → text.utf8ByteSize + 1 < limit →
      ∃ later, check ⟨config.comments, limit⟩ text = error :: later ∧
        (Reader.ofText config text).parse.reader.check.value =
          (if Item.Halts (Cursor.ofText text).stop ((Cursor.ofText text).items config.comments)
              error.position then later else error.again :: later).take config.maxErrors := by
  refine ⟨fun definition accepted reader leads => ?_, fun error limit rejected room => ?_⟩
  · have done := (isDone_of_parse_eq_ok accepted).leads leads
    exact ⟨done.value_check, done.value_parse⟩
  · obtain ⟨tokens, statements, final, behind, split, reads, found⟩ :=
      exists_reads_of_parse_eq_error rejected
    have onTrack : ¬final.IsLost := reads.not_isLost id
    have ascending := Cursor.ascending_items config.comments text
    rw [split] at ascending ⊢
    obtain ⟨later, whole, again⟩ :=
      @Reader.survey_resume (.ofText config text) _ _ _ _ onTrack ascending found
    refine ⟨later, ?_, ?_⟩
    · rw [check_eq_survey_of_lt ⟨config.comments, limit⟩ text (Nat.lt_of_succ_lt room), survey,
        split, reads.errors_survey, ← whole]
      rfl
    · have rest := reads.rest_parse (.inr (List.ne_nil_of_mem found))
      rw [← split] at rest
      have left : (Reader.ofText config text).parse.reader =
          (Reader.ofText config text).resume behind := by
        rw [Reader.reader_parse rfl]
        exact congrArg _ rest
      rw [left, Reader.value_check, again, Reader.config_resume]
      rfl

/-- A parse is stopped by a number inside of a statement.  Up to its limit of two errors the reader
reports the place of the number, and the stray character behind it. -/
theorem check_behind_parse_of_fault :
    let config : Config := ⟨true, 2⟩
    let done := (Reader.ofText config "(MONITOR a) // b").parse.reader
    let stopped := (Reader.ofText config "(MONITOR 07 é) (X").parse.reader
    let number : Diagnostic := .lexical ⟨.leadingZero, "07", ⟨9, 1, 10⟩⟩
    (parse config "(MONITOR a) // b" = .ok ⟨[.monitor ⟨⟨"a", none⟩, []⟩]⟩ ∧
      done.Leads done.check.reader ∧
      done.check.reader.check.value = [] ∧ done.check.reader.parse.value = .ok ⟨[]⟩) ∧
    parse config "(MONITOR 07 é) (X" = .error number ∧
    "(MONITOR 07 é) (X".utf8ByteSize + 1 < 50 ∧
    ¬Item.Halts (Cursor.ofText "(MONITOR 07 é) (X").stop
      ((Cursor.ofText "(MONITOR 07 é) (X").items true) ⟨9, 1, 10⟩ ∧
    ∃ later, check ⟨true, 50⟩ "(MONITOR 07 é) (X" = number :: later ∧
      stopped.check.value = (Reader.stuck ⟨9, 1, 10⟩ :: later).take 2 := by
  intro config done stopped number
  have accepted : parse config "(MONITOR a) // b" = .ok ⟨[.monitor ⟨⟨"a", none⟩, []⟩]⟩ :=
    parse_eq_ok_iff_events.2 (by decide +kernel)
  have rejected : parse config "(MONITOR 07 é) (X" = .error number :=
    parse_eq_error_iff.2 (by decide +kernel)
  have room : "(MONITOR 07 é) (X".utf8ByteSize + 1 < 50 := by decide +kernel
  have goesOn : ¬Item.Halts (Cursor.ofText "(MONITOR 07 é) (X").stop
      ((Cursor.ofText "(MONITOR 07 é) (X").items true) ⟨9, 1, 10⟩ := by decide +kernel
  have leads : done.Leads done.check.reader := .check .refl
  have nothing := (check_behind_parse config "(MONITOR a) // b").1 _ accepted _ leads
  obtain ⟨later, whole, again⟩ :=
    (check_behind_parse config "(MONITOR 07 é) (X").2 number 50 rejected room
  exact ⟨⟨accepted, leads, nothing⟩, rejected, room, goesOn, later, whole,
    again.trans (congrArg (List.take 2) (if_neg goesOn))⟩

end Netlist

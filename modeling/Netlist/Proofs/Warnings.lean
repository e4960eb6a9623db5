import Netlist.Log
import Netlist.Proofs.Resumption

/-!
# A warning for every gap

After an error a check skips text until it finds the next statement, and the log
warns of that.  There is one warning for each gap.  The opening marks of a text
cut it into intervals, and the first error in an interval begins a gap, unless
it stands where the search for the next statement ends at once, at an opening
mark or at the end of the text (`check_warns_of_skipped_text`).

The errors play no part in a warning: it is caused by the next item that ends
the search, and tells the position that the lost phase has kept since.  That
this is the position of the first error in the interval is what a step says
about the phase behind it (`Phase.since?_step`).  So what the record will tell is
known before it is written: where the reader is lost, the position that it has
kept comes before those of the errors to come, and of all these positions the
*gaps* are warned of (`Phase.skips_check`).

The limit on errors cuts the list that is reported but not the record of the
last gap.  It leaves the first error of that gap, and with it the warning.
-/

namespace Netlist

/-! ## The first of each kind -/

section Firsts

variable {α β : Type} {kind : α → Nat} {first second : α} {others : List α}

/-- The members of a list that are the first of their kind. -/
def firstsBy (kind : α → Nat) (members : List α) : List α :=
  members.eraseDupsBy fun later earlier => kind later == kind earlier

@[simp] theorem firstsBy_nil (kind : α → Nat) : firstsBy kind [] = [] := rfl

theorem firstsBy_cons (kind : α → Nat) (first : α) (others : List α) :
    firstsBy kind (first :: others) =
      first :: firstsBy kind (others.filter fun other => kind other ≠ kind first) := by
  simp [firstsBy, List.eraseDupsBy_cons]

theorem firstsBy_cons_of_apart (apart : ∀ other ∈ others, kind other ≠ kind first) :
    firstsBy kind (first :: others) = first :: firstsBy kind others := by
  rw [firstsBy_cons, List.filter_eq_self.2 fun other among => decide_eq_true (apart other among)]

theorem firstsBy_cons_cons_of_same (same : kind second = kind first) :
    firstsBy kind (first :: second :: others) = firstsBy kind (first :: others) := by
  rw [firstsBy_cons, firstsBy_cons, List.filter_cons_of_neg (by simp [same])]

theorem firstsBy_map (kind : β → Nat) (f : α → β) (members : List α) :
    firstsBy kind (members.map f) = (firstsBy (fun member => kind (f member)) members).map f := by
  generalize size : members.length = n
  induction n using Nat.strongRecOn generalizing members with
  | ind n ih =>
    cases members with
    | nil => rfl
    | cons first others =>
      rw [List.length_cons] at size
      have fewer := List.length_filter_le (fun other => kind (f other) ≠ kind (f first)) others
      rw [List.map_cons, firstsBy_cons, firstsBy_cons, List.map_cons, List.filter_map,
        ← ih _ (by omega) _ rfl]
      rfl

end Firsts

/-! ## Gaps -/

/-- Of the positions of some errors those that begin a gap: the first ones of their intervals,
where the search for the next statement does not end at once. -/
def Item.gaps (stop : Position) (items : List Item) (positions : List Position) : List Position :=
  (firstsBy (fun position => interval (openings items) position.offset) positions).filter
    fun position => ¬Halts stop items position

namespace Item

variable {stop : Position} {items : List Item} {position second : Position}
  {later : List Position}

@[simp] theorem gaps_nil (stop : Position) (items : List Item) : gaps stop items [] = [] := rfl

theorem mem_openings {item : Item} (among : item ∈ items) (opens : item.opens) :
    item.position.offset ∈ openings items :=
  List.mem_map.2 ⟨item, List.mem_filter.2 ⟨among, opens⟩, rfl⟩

/-- What is found behind an opening mark is no part of a gap before it. -/
theorem gaps_cons_of_opens {mark : Item} (among : mark ∈ items) (opens : mark.opens)
    (before : position.offset ≤ mark.position.offset)
    (behind : ∀ other ∈ later, mark.position.offset < other.offset) :
    gaps stop items (position :: later) =
      (if Halts stop items position then [] else [position]) ++ gaps stop items later := by
  have apart : ∀ other ∈ later, interval (openings items) other.offset ≠
      interval (openings items) position.offset := fun other found =>
    Nat.ne_of_gt (interval_lt (mem_openings among opens) before (behind other found))
  rw [gaps, firstsBy_cons_of_apart apart, List.filter_cons]
  by_cases halts : Halts stop items position <;> simp [halts, gaps]

/-- What is found before the next opening mark does not begin a gap. -/
theorem gaps_cons_cons (ordered : position.offset ≤ second.offset)
    (between : ∀ item ∈ items, item.opens → item.position.offset < second.offset →
      item.position.offset < position.offset) :
    gaps stop items (position :: second :: later) = gaps stop items (position :: later) := by
  have same : interval (openings items) second.offset =
      interval (openings items) position.offset := by
    refine List.countP_congr fun offset listed => ?_
    obtain ⟨item, found, rfl⟩ := List.mem_map.1 listed
    obtain ⟨among, opens⟩ := List.mem_filter.1 found
    rw [decide_eq_true_iff, decide_eq_true_iff]
    exact ⟨between item among opens, fun less => Nat.lt_of_lt_of_le less ordered⟩
  exact congrArg (List.filter _) (firstsBy_cons_cons_of_same same)

@[simp] theorem gaps_singleton (stop : Position) (items : List Item) (position : Position) :
    gaps stop items [position] = if Halts stop items position then [] else [position] := by
  by_cases halts : Halts stop items position <;> simp [gaps, firstsBy_cons, halts]

/-- Text is skipped from a position on, and no opening mark has come up to the rest of the
items. -/
structure Gap (stop : Position) (items rest : List Item) (since : Position) : Prop where
  /-- The search did not end at once. -/
  goesOn : ¬Halts stop items since
  /-- The rest stands behind the position. -/
  before : ∀ item ∈ rest, since.offset < item.position.offset
  /-- Opening marks behind the position are in the rest. -/
  marks : ∀ item ∈ items, item.opens → since.offset ≤ item.position.offset → item ∈ rest

variable {item : Item} {rest : List Item} {since : Position}

/-- A gap begins at an item that is no opening mark. -/
theorem gap_of_not_opens (ascending : Ascending stop items) (suffix : item :: rest <:+ items)
    (other : ¬item.opens) : Gap stop items rest item.position where
  goesOn := fun halts => other ((ascending.halts_iff (suffix.subset (.head _))).1 halts)
  before := (List.pairwise_cons.1 (ascending.suffix suffix).1).1
  marks := by
    obtain ⟨front, rfl⟩ := suffix
    intro mark among opens behind
    rcases List.mem_append.1 among with earlier | here
    · have less := (List.pairwise_append.1 ascending.1).2.2 mark earlier item (.head _)
      omega
    · rcases List.mem_cons.1 here with rfl | later
      · exact absurd opens other
      · exact later

theorem Gap.tail (gap : Gap stop items (item :: rest) since) (other : ¬item.opens) :
    Gap stop items rest since where
  goesOn := gap.goesOn
  before := fun later among => gap.before later (.tail _ among)
  marks := fun mark among opens behind => by
    rcases List.mem_cons.1 (gap.marks mark among opens behind) with rfl | later
    · exact absurd opens other
    · exact later

/-- An error at the first item behind a gap belongs to it. -/
theorem Gap.gaps_cons_cons (gap : Gap stop items (item :: rest) since)
    (ascending : Ascending stop (item :: rest)) (later : List Position) :
    gaps stop items (since :: item.position :: later) = gaps stop items (since :: later) := by
  refine Item.gaps_cons_cons (Nat.le_of_lt (gap.before item (.head _))) ?_
  intro mark among opens less
  rcases Nat.lt_or_ge mark.position.offset since.offset with earlier | reaches
  · exact earlier
  · rcases List.mem_cons.1 (gap.marks mark among opens reaches) with rfl | behind
    · exact absurd less (Nat.lt_irrefl _)
    · exact absurd less (Nat.lt_asymm ((List.pairwise_cons.1 ascending.1).1 mark behind))

end Item

/-! ## The record -/

@[simp] theorem Diagnostic.position_misplaced (position : Position) (found : String)
    (cause : SyntaxCause) : (misplaced position found cause).position = position := rfl

namespace Event

/-- The position from which on an event says that text was skipped. -/
def skip? : Event → Option Position
  | skipped since => some since
  | _ => none

/-- The positions from which on a record says that text was skipped. -/
def skips (events : List Event) : List Position := events.filterMap skip?

@[simp] theorem skips_nil : skips [] = [] := rfl

@[simp] theorem skips_cons (event : Event) (events : List Event) :
    skips (event :: events) = event.skip?.toList ++ skips events := by
  cases found : event.skip? <;> simp [skips, found]

@[simp] theorem skips_append (first second : List Event) :
    skips (first ++ second) = skips first ++ skips second :=
  List.filterMap_append

/-- The warning that text was skipped from a position on. -/
def warning (since : Position) : Record :=
  .ofStatements .warn ("skipped input to resume at next statement"
    ++ Record.field "line" (toString since.line)
    ++ Record.field "column" (toString since.column))

/-- The log warns of skipped text and of nothing else. -/
theorem filter_warn_record? (events : List Event) :
    (events.filterMap record?).filter (·.level = .warn) = (skips events).map warning := by
  induction events with
  | nil => rfl
  | cons event events ih =>
    cases event <;>
      simp [List.filterMap_cons, record?, skip?, ih, warning, Record.ofStatements,
        Record.ofTokens]

end Event

@[simp] theorem Item.skips_reading (items : List Item) : Event.skips (reading items) = [] := by
  rcases items with _ | ⟨_ | _, _⟩ <;> rfl

namespace Phase

/-- The position from which on a lost reader skips text. -/
def since? : Phase → Option Position
  | lost since => some since
  | _ => none

theorem skips_finish (stop : Position) (phase : Phase) :
    Event.skips (phase.finish stop) = phase.since?.toList := by
  cases phase <;> rfl

/-- An opening mark ends a gap. -/
theorem skips_step (phase : Phase) (item : Item) :
    Event.skips (phase.step item).1 = if item.opens then phase.since?.toList else [] := by
  have entering (token : Token) : Event.skips (enter token).1 = [] := by
    unfold enter
    split <;> rfl
  cases item with
  | fault error => cases phase <;> rfl
  | token token =>
    cases phase with
    | outside => simp [step, entering, since?]
    | inside line place =>
      simp only [step, follow]
      split <;> simp [since?, Event.skip?]
    | closed line statement => simp [step, entering, since?, Event.skip?]
    | lost since =>
      by_cases opens : token.symbol = .openParen <;>
        simp [step, search, opens, Item.opens, since?, Event.skip?]

/-- Behind an opening mark a reader is not lost.  Behind any other item it is lost if it was lost
before or the item is an error, and has been so since the first of both. -/
theorem since?_step (phase : Phase) (item : Item) :
    (phase.step item).2.since? =
      if item.opens then none
      else (phase.since?.toList ++ (Event.errors (phase.step item).1).map (·.position)).head? := by
  have entering (token : Token) : (enter token).2.since? =
      if (Item.token token).opens then none
      else ((Event.errors (enter token).1).map (·.position)).head? := by
    by_cases opens : token.symbol = .openParen
    · simp [enter, Item.opens, opens, since?]
    · simp [enter, Item.opens, opens, since?, Event.error?]
  cases item with
  | fault error => cases phase <;> rfl
  | token token =>
    cases phase with
    | outside => exact entering token
    | inside line place =>
      by_cases opens : token.symbol = .openParen
      · obtain ⟨cause, rejected⟩ := place.step_openParen
        simp [step, follow, opens, rejected, since?, Item.opens]
      · cases moved : place.step token.symbol with
        | go next => simp [step, follow, moved, since?]
        | close statement => simp [step, follow, moved, since?]
        | reject cause => simp [step, follow, moved, opens, since?, Item.opens, Event.error?]
    | closed line statement => exact entering token
    | lost since =>
      by_cases opens : token.symbol = .openParen <;>
        simp [step, search, opens, Item.opens, since?]

/-- An item causes no error, or one at its own position. -/
theorem positions_step (phase : Phase) (item : Item) :
    (Event.errors (phase.step item).1).map (·.position) = [] ∨
      (Event.errors (phase.step item).1).map (·.position) = [item.position] := by
  cases found : Event.errors (phase.step item).1 with
  | nil => exact .inl rfl
  | cons error others =>
    have here : error ∈ Event.errors (phase.step item).1 := found ▸ .head _
    rw [← found, errors_step_eq_of_mem here, List.map_singleton, position_of_mem_errors_step here]
    exact .inr rfl

variable {stop : Position} {all rest : List Item} {item : Item} {phase : Phase} {room : Nat}

/-- Where the reader is lost behind an item, there is a gap up to the rest. -/
theorem gap_step (ascending : Item.Ascending stop all) (suffix : item :: rest <:+ all)
    (gap : ∀ since ∈ phase.since?, Item.Gap stop all (item :: rest) since) :
    ∀ since ∈ (phase.step item).2.since?, Item.Gap stop all rest since := by
  rw [since?_step]
  by_cases opens : item.opens
  · rw [if_pos opens]
    nofun
  · rw [if_neg opens]
    have begins := Item.gap_of_not_opens ascending suffix opens
    cases lost : phase.since? with
    | some since =>
      rintro _ ⟨⟩
      exact (gap since lost).tail opens
    | none =>
      rcases positions_step phase item with fine | wrong
      · rw [fine]
        nofun
      · rw [wrong]
        rintro _ ⟨⟩
        exact begins

/-- What an item does to the gaps.  An opening mark ends the gap before it.  Behind any other item
the gaps are those of the position that the reader keeps. -/
theorem gaps_step (ascending : Item.Ascending stop all) (suffix : item :: rest <:+ all)
    (gap : ∀ since ∈ phase.since?, Item.Gap stop all (item :: rest) since)
    (limit : phase.since? = none → 1 ≤ room) {later : List Position}
    (behind : ∀ other ∈ later, item.position.offset < other.offset) :
    Item.gaps stop all (phase.since?.toList ++
        ((Event.errors (phase.step item).1).map (·.position)).take room ++ later) =
      if item.opens then phase.since?.toList ++ Item.gaps stop all later
      else Item.gaps stop all ((phase.step item).2.since?.toList ++ later) := by
  have among : item ∈ all := suffix.subset (.head _)
  rw [since?_step]
  cases lost : phase.since? with
  | some since =>
    have reaches := gap since lost
    have same : Item.gaps stop all (since ::
        (((Event.errors (phase.step item).1).map (·.position)).take room ++ later)) =
          Item.gaps stop all (since :: later) := by
      rcases positions_step phase item with fine | wrong
      · rw [fine, List.take_nil, List.nil_append]
      · cases room with
        | zero => rfl
        | succ room =>
          rw [wrong, List.take_succ_cons, List.take_nil]
          exact reaches.gaps_cons_cons (ascending.suffix suffix) later
    rw [Option.toList_some, List.singleton_append, List.cons_append, same]
    by_cases opens : item.opens
    · rw [if_pos opens, Item.gaps_cons_of_opens among opens
        (Nat.le_of_lt (reaches.before item (.head _))) behind, if_neg reaches.goesOn]
    · rw [if_neg opens, if_neg opens]
      rfl
  | none =>
    have whole : ((Event.errors (phase.step item).1).map (·.position)).take room =
        (Event.errors (phase.step item).1).map (·.position) := by
      have single := length_errors_step_le phase item
      have some := limit lost
      exact List.take_of_length_le (by rw [List.length_map]; omega)
    rw [whole, Option.toList_none, List.nil_append]
    rcases positions_step phase item with fine | wrong
    · rw [fine]
      by_cases opens : item.opens <;> simp [opens]
    · rw [wrong]
      by_cases opens : item.opens
      · have halts := (ascending.halts_iff among).2 opens
        rw [if_pos opens, List.singleton_append,
          Item.gaps_cons_of_opens among opens (Nat.le_refl _) behind, if_pos halts]
      · rw [if_neg opens, if_neg opens]
        rfl

/-- Where the reader is lost, the position that it has kept comes before those of the errors to
come.  A check tells of skipped text at the gaps that begin at these positions, and nowhere else. -/
theorem skips_check (ascending : Item.Ascending stop all) {items : List Item}
    (suffix : items <:+ all) (gap : ∀ since ∈ phase.since?, Item.Gap stop all items since)
    (limit : phase.since? = none → 1 ≤ room) :
    Event.skips (phase.check stop room items).events =
      Item.gaps stop all (phase.since?.toList ++
        ((Event.errors (phase.survey stop items)).take room).map (·.position)) := by
  induction items generalizing phase room with
  | nil =>
    show Event.skips (phase.finish stop) = _
    rw [skips_finish, survey_nil]
    cases phase with
    | lost since => simp [since?, finish, Event.error?, (gap since rfl).goesOn]
    | inside line place =>
      obtain ⟨more, rfl⟩ := Nat.exists_eq_add_of_le' (limit rfl)
      simp [since?, finish, Event.error?, Item.Halts]
    | _ => simp [since?, finish, Event.error?]
  | cons item rest ih =>
    have later : rest <:+ all := (List.suffix_cons ..).trans suffix
    have behind : ∀ other ∈ ((Event.errors ((phase.step item).2.survey stop rest)).take
        (room - (Event.errors (phase.step item).1).length)).map (·.position),
        item.position.offset < other.offset := by
      intro other among
      obtain ⟨error, found, rfl⟩ := List.mem_map.1 among
      exact offset_lt_of_mem_errors_survey (ascending.suffix suffix) (List.mem_of_mem_take found)
    rw [errors_survey_cons, List.take_append, List.map_append, ← List.append_assoc, List.map_take,
      gaps_step ascending suffix gap limit behind]
    have onward := @ih (phase.step item).2 (room - (Event.errors (phase.step item).1).length)
      later (gap_step ascending suffix gap)
    by_cases opens : item.opens
    -- The check ends here or goes on, and is not lost.
    · have found : (phase.step item).2.since? = none := by rw [since?_step, if_pos opens]
      rw [if_pos opens]
      rcases Nat.eq_zero_or_pos (room - (Event.errors (phase.step item).1).length) with full | free
      · rw [check, if_pos ⟨opens, full⟩, full, List.take_zero, skips_step, if_pos opens]
        exact (List.append_nil _).symm
      · rw [check, if_neg fun stops => Nat.ne_of_gt free stops.2, Event.skips_append,
          Event.skips_append, Item.skips_reading, skips_step, if_pos opens, List.append_nil,
          onward fun _ => free, found]
        rfl
    -- The check goes on even if there is no more room, but then it is lost.
    · rw [if_neg opens, check, if_neg fun stops => opens stops.1, Event.skips_append,
        Event.skips_append, Item.skips_reading, skips_step, if_neg opens]
      refine onward fun onTrack => ?_
      rw [since?_step, if_neg opens, List.head?_eq_none_iff, List.append_eq_nil_iff,
        Option.toList_eq_nil_iff, List.map_eq_nil_iff] at onTrack
      rw [onTrack.2]
      exact limit onTrack.1

end Phase

/-- If errors may be reported at all, the record of a check by a fresh reader is that of the text,
and how many errors are reported. -/
theorem events_check_ofText {config : Config} (text : String) (limit : 1 ≤ config.maxErrors) :
    (Reader.ofText config text).check.events =
      checkEvents config text ++ [.checked (check config text).length] := by
  have allowed : config.maxErrors ≠ 0 := by omega
  simp [check, Reader.check, Reader.checkEvents, Reader.ofText, Reader.ofCursor, checkEvents,
    allowed]

/-- The record of a check tells of skipped text at the gaps that its errors begin. -/
theorem skips_checkEvents {config : Config} (text : String) (limit : 1 ≤ config.maxErrors) :
    Event.skips (checkEvents config text) =
      Item.gaps (Cursor.ofText text).stop ((Cursor.ofText text).items config.comments)
        ((check config text).map (·.position)) := by
  rw [check_eq_take limit, checkEvents, Phase.take_errors_check]
  exact Phase.skips_check (Cursor.ascending_items config.comments text) List.suffix_rfl
    (by simp [Phase.since?]) fun _ => limit

/-- A check by a fresh reader warns of all skipped text and of nothing else.  The opening marks cut
the text into intervals.  Of the errors that are reported, each one that is the first of its
interval has a warning with its line and column, unless it stands at an opening mark or at the end
of the text.  Text that is no token stands at neither. -/
theorem check_warns_of_skipped_text (config : Config) (text : String)
    (limit : 1 ≤ config.maxErrors) :
    ∃ items, (Cursor.ofText text).Yields config.comments items ∧
      ((Reader.ofText config text).check.events.filterMap Event.record?).filter
          (·.level = .warn) =
        ((firstsBy (fun error => interval (Item.openings items) error.position.offset)
            (check config text)).filter
          fun error => ¬Item.Halts (Cursor.ofText text).stop items error.position).map
        fun error => Record.ofStatements .warn ("skipped input to resume at next statement"
          ++ Record.field "line" (toString error.position.line)
          ++ Record.field "column" (toString error.position.column)) := by
  have silent : Event.skips [.checked (check config text).length] = [] := rfl
  refine ⟨_, Cursor.yields_items _ _, ?_⟩
  rw [events_check_ofText text limit, Event.filter_warn_record?, Event.skips_append, silent,
    List.append_nil, skips_checkEvents text limit, Item.gaps, firstsBy_map, List.filter_map,
    List.map_map]
  rfl

/-- A check with a limit of three errors warns once.  The first error is at an opening mark, the
second begins a gap, and the third belongs to it.  The last fault in the gap and the end of the text
are not reported, and there are no warnings of them. -/
theorem check_warns_of_skipped_text_under_limit :
    let text := "(DEVICE (CONNECT , é 00 ("
    let found : Record := ⟨.warn, "logsim_core::dsl::parser",
      "skipped input to resume at next statement line=1 column=18"⟩
    1 ≤ 3 ∧
    check ⟨true, 3⟩ text =
      [.misplaced ⟨8, 1, 9⟩ "(" .expectedDevice, .misplaced ⟨17, 1, 18⟩ "," .expectedDevice,
        .lexical ⟨.strayCharacter 'é', "é", ⟨19, 1, 20⟩⟩] ∧
    ((Reader.ofText ⟨true, 3⟩ text).check.events.filterMap Event.record?).filter
      (·.level = .warn) = [found] := by
  intro text found
  obtain ⟨items, yields, warned⟩ := check_warns_of_skipped_text ⟨true, 3⟩ text (by decide)
  cases Cursor.eq_items_of_yields yields
  exact ⟨by decide, by decide +kernel, warned.trans (by decide +kernel)⟩

end Netlist

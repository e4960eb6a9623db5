import Netlist.Proofs.EarliestError
import Netlist.Proofs.Survey

/-!
# One error does not cause another

The marks that open statements cut a text into intervals, each of which ends
with such a mark or with the text.  An error of a check belongs to the interval
in which it stands.  In one interval a check reports at most one syntax error,
and it reports it before all lexical errors (`check_never_cascades`).

The reason is the phase in which an error leaves the reader.  An opening mark
ends its interval, so nothing that is found later is in the same one.  Any
other item leaves the reader lost (`Phase.isLost_step`), and a lost reader
finds no syntax error before it has passed an opening mark
(`Phase.exists_opening_of_lost`).  Either way an opening mark separates an error
from the syntax errors behind it (`Phase.exists_opening_of_error`).
-/

namespace Netlist

/-- The offsets of the marks that open statements. -/
def Item.openings (items : List Item) : List Nat :=
  (items.filter Item.opens).map fun item => item.position.offset

/-- The interval in which an offset is.  Marks at `o₁ < … < oₖ` cut a text into the intervals
`[0, o₁]`, `(o₁, o₂]` and so on up to the one from `oₖ` to the end, which are counted from zero. -/
def interval (openings : List Nat) (offset : Nat) : Nat :=
  openings.countP (· < offset)

/-- An opening mark at the first offset or between the two ends the interval of the first. -/
theorem interval_lt {openings : List Nat} {mark first second : Nat} (opens : mark ∈ openings)
    (before : first ≤ mark) (behind : mark < second) :
    interval openings first < interval openings second := by
  obtain ⟨left, right, rfl⟩ := List.append_of_mem opens
  have fewer (marks : List Nat) : marks.countP (· < first) ≤ marks.countP (· < second) :=
    List.countP_mono_left fun offset _ h => by
      simp only [decide_eq_true_eq] at h ⊢
      omega
  have counted : decide (mark < first) = false ∧ decide (mark < second) = true := by
    simp only [decide_eq_false_iff_not, decide_eq_true_eq]
    omega
  have here := fewer left
  have there := fewer right
  simp only [interval, List.countP_append, List.countP_cons, counted]
  simp only [Bool.false_eq_true, if_false, if_true]
  omega

theorem Item.pairwise_openings {stop : Position} {items : List Item}
    (ascending : Ascending stop items) : (openings items).Pairwise (· < ·) :=
  List.pairwise_map.2 (ascending.1.sublist List.filter_sublist)

namespace Phase

variable {stop : Position} {phase : Phase} {item : Item} {items rest : List Item}

/-! ## Where an error leaves the reader -/

/-- An error at anything but an opening mark leaves the reader lost. -/
theorem isLost_step (wrong : Event.errors (phase.step item).1 ≠ []) (other : ¬item.opens) :
    ∃ since, (phase.step item).2 = lost since := by
  cases item with
  | fault error => cases phase <;> exact ⟨_, rfl⟩
  | token token =>
    have unopened : token.symbol ≠ .openParen := by simpa [Item.opens] using other
    cases phase with
    | outside => exact ⟨token.position, by simp [step, enter, unopened]⟩
    | inside line place =>
      simp only [step, follow] at wrong ⊢
      split at wrong
      · exact absurd rfl wrong
      · exact absurd rfl wrong
      · exact ⟨token.position, by simp [unopened]⟩
    | closed line statement => exact ⟨token.position, by simp [step, enter, unopened]⟩
    | lost since => exact ⟨since, by simp [step, search, unopened]⟩

theorem position_of_mem_errors_survey {error : Diagnostic}
    (found : error ∈ Event.errors (phase.survey stop items)) :
    error.position = stop ∨ ∃ item ∈ items, error.position = item.position := by
  obtain ⟨front, behind, rfl, causes⟩ := exists_react_of_mem_survey found
  have stands := position_of_mem_errors_react causes
  cases behind with
  | nil => exact .inl stands
  | cons item rest => exact .inr ⟨item, by simp, stands⟩

/-- What is found behind an item stands behind it. -/
theorem offset_lt_of_mem_errors_survey (ascending : Item.Ascending stop (item :: rest))
    {error : Diagnostic} (found : error ∈ Event.errors (phase.survey stop rest)) :
    item.position.offset < error.position.offset := by
  rcases position_of_mem_errors_survey found with ends | ⟨other, among, stands⟩
  · rw [ends]
    exact ascending.2 item (by simp)
  · rw [stands]
    exact (List.pairwise_cons.1 ascending.1).1 other among

/-- An item causes no syntax error where the reader is lost, and only an opening mark ends that. -/
theorem step_lost (since : Position) (item : Item) :
    (∀ error, .syntactic error ∉ Event.errors ((lost since).step item).1) ∧
      (¬item.opens → ((lost since).step item).2 = lost since) := by
  cases item with
  | fault fault =>
    refine ⟨fun error here => ?_, fun _ => rfl⟩
    rw [events_step_fault] at here
    cases List.mem_singleton.1 here
  | token token =>
    by_cases opens : token.symbol = .openParen
    · simp [step, search, opens, Item.opens, Event.error?]
    · simp [step, search, opens]

/-- A lost reader passes an opening mark before it finds a syntax error. -/
theorem exists_opening_of_lost {since : Position} {error : SyntaxError}
    (ascending : Item.Ascending stop items)
    (found : .syntactic error ∈ Event.errors ((lost since).survey stop items)) :
    ∃ mark ∈ items, mark.opens ∧ mark.position.offset < error.position.offset := by
  induction items with
  | nil => cases found
  | cons item rest ih =>
    rw [errors_survey_cons, List.mem_append] at found
    obtain ⟨silent, still⟩ := step_lost since item
    have later := found.resolve_left (silent error)
    by_cases opens : item.opens
    · exact ⟨item, by simp, opens, offset_lt_of_mem_errors_survey ascending later⟩
    · rw [still opens] at later
      obtain ⟨mark, among, opening, before⟩ := ih ascending.tail later
      exact ⟨mark, by simp [among], opening, before⟩

/-! ## At most one syntax error in an interval -/

/-- One item causes no two errors. -/
theorem pairwise_errors_step (phase : Phase) (item : Item)
    (relation : Diagnostic → Diagnostic → Prop) :
    (Event.errors (phase.step item).1).Pairwise relation := by
  have single := length_errors_step_le phase item
  generalize Event.errors (phase.step item).1 = errors at single
  rcases errors with _ | ⟨error, _ | ⟨second, more⟩⟩
  · exact .nil
  · exact List.pairwise_singleton ..
  · simp at single

/-- An opening mark separates an error from the syntax errors behind it.  Either the error is at the
mark itself, or the reader is lost up to the mark. -/
theorem exists_opening_of_error (ascending : Item.Ascending stop (item :: rest))
    {earlier : Diagnostic} (here : earlier ∈ Event.errors (phase.step item).1)
    {error : SyntaxError}
    (found : .syntactic error ∈ Event.errors ((phase.step item).2.survey stop rest)) :
    ∃ mark ∈ item :: rest, mark.opens ∧ earlier.position.offset ≤ mark.position.offset ∧
      mark.position.offset < error.position.offset := by
  have stands := position_of_mem_errors_step here
  by_cases opens : item.opens
  · exact ⟨item, by simp, opens, Nat.le_of_eq (congrArg _ stands),
      offset_lt_of_mem_errors_survey ascending found⟩
  · obtain ⟨since, lost⟩ := isLost_step (List.ne_nil_of_mem here) opens
    rw [lost] at found
    obtain ⟨mark, among, opening, before⟩ := exists_opening_of_lost ascending.tail found
    have follows := (List.pairwise_cons.1 ascending.1).1 mark among
    refine ⟨mark, by simp [among], opening, ?_, before⟩
    rw [stands]
    omega

/-- Whatever is found in the interval of an earlier error is a lexical error. -/
theorem pairwise_errors_survey {openings : List Nat} (phase : Phase)
    (ascending : Item.Ascending stop items)
    (listed : ∀ item ∈ items, item.opens → item.position.offset ∈ openings) :
    (Event.errors (phase.survey stop items)).Pairwise fun earlier later =>
      interval openings earlier.position.offset = interval openings later.position.offset →
        ∃ fault, later = .lexical fault := by
  induction items generalizing phase with
  | nil => cases phase <;> simp [finish, Event.error?]
  | cons item rest ih =>
    rw [errors_survey_cons, List.pairwise_append]
    have later := ih (phase.step item).2 ascending.tail fun other h => listed other (by simp [h])
    refine ⟨pairwise_errors_step .., later, ?_⟩
    intro earlier here later found together
    cases later with
    | lexical fault => exact ⟨fault, rfl⟩
    | syntactic error =>
      obtain ⟨mark, among, opens, notBefore, before⟩ :=
        exists_opening_of_error ascending here found
      have apart := interval_lt (listed mark among opens) notBefore before
      exact absurd together (Nat.ne_of_lt apart)

end Phase

theorem exists_map_lexical {errors : List Diagnostic}
    (lexical : ∀ error ∈ errors, ∃ fault, error = .lexical fault) :
    ∃ faults : List LexicalError, errors = faults.map .lexical := by
  induction errors with
  | nil => exact ⟨[], rfl⟩
  | cons error rest ih =>
    obtain ⟨fault, rfl⟩ := lexical error (by simp)
    obtain ⟨faults, rfl⟩ := ih fun later h => lexical later (by simp [h])
    exact ⟨fault :: faults, rfl⟩

/-- Errors of which all but the first are lexical are at most one syntax error and lexical errors
behind it. -/
theorem exists_eq_append_lexical {errors : List Diagnostic}
    (lexical : errors.Pairwise fun _ later => ∃ fault, later = .lexical fault) :
    ∃ (first : Option SyntaxError) (faults : List LexicalError),
      errors = first.toList.map .syntactic ++ faults.map .lexical := by
  cases errors with
  | nil => exact ⟨none, [], rfl⟩
  | cons error others =>
    obtain ⟨faults, rfl⟩ := exists_map_lexical (List.pairwise_cons.1 lexical).1
    cases error with
    | lexical fault => exact ⟨none, fault :: faults, rfl⟩
    | syntactic error => exact ⟨some error, faults, rfl⟩

/-- A check never cascades.  The opening marks of a text cut it into intervals, and what a check
reports in one of them is at most one syntax error, followed by lexical errors only. -/
theorem check_never_cascades (config : Config) (text : String) :
    ∃ items, (Cursor.ofText text).Yields config.comments items ∧
      (Item.openings items).Pairwise (· < ·) ∧
      ∀ n, ∃ (first : Option SyntaxError) (faults : List LexicalError),
        (check config text).filter
            (fun error => interval (Item.openings items) error.position.offset = n) =
          first.toList.map .syntactic ++ faults.map .lexical := by
  have ascending := Cursor.ascending_items config.comments text
  refine ⟨_, Cursor.yields_items _ _, Item.pairwise_openings ascending, fun n => ?_⟩
  apply exists_eq_append_lexical
  have listed : ∀ item ∈ (Cursor.ofText text).items config.comments, item.opens →
      item.position.offset ∈ Item.openings ((Cursor.ofText text).items config.comments) :=
    fun item h opens => List.mem_map.2 ⟨item, List.mem_filter.2 ⟨h, opens⟩, rfl⟩
  have apart := Phase.pairwise_errors_survey .outside ascending listed
  rw [check_eq_take_survey]
  refine List.pairwise_filter.2 ((apart.sublist (List.take_sublist ..)).imp ?_)
  intro earlier later lexical here there
  simp only [decide_eq_true_eq] at here there
  exact lexical (here.trans there.symm)

end Netlist

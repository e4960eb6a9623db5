import Netlist.Proofs.Place

/-!
# What a place complains about

A place is reached from another one over symbols behind all of which the
statement goes on (`Place.reach`).  These are the symbols by which it is reached
in the grammar (`symbols_of_reach`), what is read behind them is read from there
(`read_append_of_reach`), and a statement that was read to its end has left its
places (`reach_eq_none_of_read`).

A place has one *complaint* about all symbols that it rejects.  Only behind a
type does it depend on the symbol, which may be a number that the type does not
take (`eq_complaint_of_reject`).

Two places are known by how they are reached.  A dot leads to a place that waits
for a pin and to no other (`eq_dotted_of_reach`), and a watched terminal is
awaited only behind the word that begins the statement
(`eq_nil_of_reach_watched`): every further one has begun when the machine learns
of it.
-/

namespace Netlist

/-! ## Types and numbers -/

theorem DeviceType.isQualified_iff {type : DeviceType} :
    type.isQualified = true ↔ type ∈ [.clock, .switch, .rc, .and, .nand, .or, .nor] := by
  cases type <;> decide

theorem DeviceType.isQualified_eq_false_iff {type : DeviceType} :
    type.isQualified = false ↔ type ∈ [.dtype, .xor, .not] := by
  cases type <;> decide

theorem DeviceKind.make_of_misfit {type : DeviceType} {qualifier : Option UInt32}
    (misfit : ¬qualifier.isSome = type.isQualified) :
    make type qualifier =
      .error (if type.isQualified then .missing type else .unexpected type) := by
  cases qualifier with
  | none =>
    have qualified : type.isQualified = true := by simpa using misfit
    simp [make, qualified]
  | some n =>
    have plain : type.isQualified = false := by simpa using misfit
    simp [make, plain]

namespace Place

/-! ## Reaching a place -/

/-- The place to which symbols lead, if the statement goes on behind all of them. -/
def reach (place : Place) : List Symbol → Option Place
  | [] => some place
  | symbol :: rest =>
    match place.step symbol with
    | .go next => next.reach rest
    | _ => none

variable {place next : Place} {symbol : Symbol} {body rest : List Symbol} {cause : SyntaxCause}

theorem reach_cons_of_go (step : place.step symbol = .go next) :
    place.reach (symbol :: rest) = next.reach rest := by
  rw [reach, step]

theorem reach_append (place : Place) (body rest : List Symbol) :
    place.reach (body ++ rest) = (place.reach body).bind fun next => next.reach rest := by
  induction body generalizing place with
  | nil => rfl
  | cons symbol body ih =>
    rw [List.cons_append, reach, reach]
    split
    · exact ih _
    · rfl

theorem reach_append_of_eq_some (reached : place.reach body = some next) (rest : List Symbol) :
    place.reach (body ++ rest) = next.reach rest := by
  rw [reach_append, reached, Option.bind_some]

/-- What is read behind a place that was reached is read from there. -/
theorem read_append_of_reach (reached : place.reach body = some next) (rest : List Symbol) :
    place.read (body ++ rest) = next.read rest := by
  induction body generalizing place with
  | nil =>
    cases reached
    rfl
  | cons symbol body ih =>
    rw [reach] at reached
    split at reached
    · rename_i middle step
      rw [List.cons_append, read_cons_of_go step, ih reached]
    · cases reached

/-- Symbols that complete a statement do not lead to a place in it. -/
theorem reach_eq_none_of_read {statement : Statement}
    (completed : place.read body = some statement) : place.reach body = none := by
  induction body generalizing place with
  | nil => cases completed
  | cons symbol rest ih =>
    rw [read] at completed
    split at completed
    · rename_i next step
      rw [reach_cons_of_go step, ih completed]
    · rename_i closed step
      rw [reach, step]
    · cases completed

/-- Symbols that lead to a place are those by which it is reached. -/
theorem symbols_of_reach (reached : place.reach body = some next) {copula : Keyword}
    (joins : copula.IsCopula) :
    ∃ chosen : Keyword, chosen.IsCopula ∧
      place.symbols copula ++ body = next.symbols chosen := by
  induction body generalizing place copula with
  | nil =>
    cases reached
    exact ⟨copula, joins, List.append_nil _⟩
  | cons symbol rest ih =>
    rw [reach] at reached
    split at reached
    · rename_i middle step
      obtain ⟨kept, keptJoins, moved⟩ := symbols_step_go step joins
      obtain ⟨chosen, chosenJoins, whole⟩ := ih reached keptJoins
      refine ⟨chosen, chosenJoins, ?_⟩
      rw [← whole, ← moved, List.append_assoc, List.singleton_append]
    · cases reached

theorem reach_named (names : NonemptyList String) (more : List String) :
    (named names).reach (more.map .name) = some (named ⟨names.head, names.tail ++ more⟩) := by
  induction more generalizing names with
  | nil => simp [reach]
  | cons name others ih =>
    have pushed : (named names).step (.name name) = .go (named (names.push name)) := rfl
    rw [List.map_cons, reach_cons_of_go pushed, ih]
    simp [NonemptyList.push]

theorem reach_names (names : NonemptyList String) :
    opened.reach (.keyword .device :: names.toList.map .name) = some (named names) := by
  obtain ⟨first, others⟩ := names
  exact reach_named (.singleton first) others

theorem reach_copula (names : NonemptyList String) {copula : Keyword} (joins : copula.IsCopula) :
    opened.reach (.keyword .device :: names.toList.map .name ++ [.keyword copula]) =
      some (joined names) := by
  rw [reach_append_of_eq_some (reach_names names)]
  obtain rfl | rfl := joins <;> rfl

theorem reach_type (names : NonemptyList String) {copula : Keyword} (joins : copula.IsCopula)
    (type : DeviceType) :
    opened.reach (.keyword .device :: names.toList.map .name
      ++ [.keyword copula, .keyword type.keyword]) = some (typed names type) := by
  have known : (joined names).step (.keyword type.keyword) = .go (typed names type) := by
    simp [step, Symbol.type?]
  have split : .keyword .device :: names.toList.map Symbol.name
      ++ [.keyword copula, .keyword type.keyword] =
        .keyword .device :: names.toList.map Symbol.name ++ [.keyword copula]
          ++ [.keyword type.keyword] := by simp
  rw [split, reach_append_of_eq_some (reach_copula names joins), reach_cons_of_go known, reach]

/-! ## Complaints -/

/-- What is wrong with a symbol that cannot stand behind a terminal. -/
def complaintBehind : Slot → SyntaxCause
  | .source => .missingTo
  | _ => .expectedClosing

/-- What is wrong with a symbol that a place rejects. -/
def complaint : Place → Symbol → SyntaxCause
  | opened, _ => .unknownStatement
  | declaring, _ => .expectedDevice
  | named _, _ => .missingCopula
  | joined _, _ => .unknownDeviceType
  | typed _ type, symbol =>
    if type.isQualified then .missingQualifier type
    else if symbol.value?.isSome then .unexpectedQualifier type
    else .expectedClosing
  | complete _, _ => .expectedClosing
  | awaiting _, _ => .expectedDevice
  | device slot _, _ => complaintBehind slot
  | dotted _ _, _ => .danglingDot
  | pinned slot _ _, _ => complaintBehind slot

theorem eq_expectedClosing_of_finish {statement : Statement}
    (rejected : finish statement symbol = .reject cause) : cause = .expectedClosing := by
  unfold finish at rejected
  split at rejected <;> cases rejected
  rfl

theorem eq_complaintBehind_of_reject {slot : Slot} {terminal : Terminal}
    (rejected : afterTerminal slot terminal symbol = .reject cause) :
    cause = complaintBehind slot := by
  cases slot with
  | source =>
    simp only [afterTerminal] at rejected
    split at rejected <;> cases rejected
    rfl
  | destination source => exact eq_expectedClosing_of_finish rejected
  | watched earlier =>
    simp only [afterTerminal] at rejected
    split at rejected
    · cases rejected
    · exact eq_expectedClosing_of_finish rejected

/-- Behind a type a symbol is rejected if its number does not fit the type, or as the end of a
statement. -/
theorem eq_complaint_of_afterType {names : NonemptyList String} {type : DeviceType}
    (rejected : afterType names type symbol = .reject cause) :
    cause = (typed names type).complaint symbol := by
  unfold afterType at rejected
  by_cases fits : symbol.value?.isSome = type.isQualified
  · have made : DeviceKind.make type symbol.value? = .ok ⟨type, symbol.value?, fits⟩ :=
      DeviceKind.make_eq_ok_iff.2 ⟨rfl, rfl⟩
    rw [made] at rejected
    by_cases numbered : symbol.value?.isSome = true
    · simp [numbered] at rejected
    · simp only [numbered] at rejected
      have plain : type.isQualified = false := by simpa [fits] using numbered
      simpa [complaint, plain, numbered] using eq_expectedClosing_of_finish rejected
  · rw [DeviceKind.make_of_misfit fits] at rejected
    by_cases qualified : type.isQualified = true
    · simp only [qualified, if_true] at rejected
      cases rejected
      simp [complaint, qualified]
    · have numbered : symbol.value?.isSome = true := by
        rw [Bool.not_eq_true] at qualified
        rw [qualified] at fits
        exact eq_true_of_ne_false fits
      simp only [qualified] at rejected
      cases rejected
      simp [complaint, qualified, numbered]

/-- A place rejects a symbol with its complaint about it. -/
theorem eq_complaint_of_reject (rejected : place.step symbol = .reject cause) :
    cause = place.complaint symbol := by
  cases place with
  | opened =>
    cases symbol with
    | keyword word => cases word <;> cases rejected <;> rfl
    | _ => cases rejected; rfl
  | declaring => cases symbol <;> cases rejected <;> rfl
  | named names =>
    cases symbol with
    | keyword word => cases word <;> cases rejected <;> rfl
    | _ => cases rejected <;> rfl
  | joined names =>
    simp only [step] at rejected
    split at rejected <;> cases rejected
    rfl
  | typed names type => exact eq_complaint_of_afterType rejected
  | complete statement => exact eq_expectedClosing_of_finish rejected
  | awaiting slot => cases symbol <;> cases rejected <;> rfl
  | device slot name =>
    cases symbol with
    | dot => cases rejected
    | _ => exact eq_complaintBehind_of_reject rejected
  | dotted slot name => cases symbol <;> cases rejected <;> rfl
  | pinned slot name pin => exact eq_complaintBehind_of_reject rejected

/-- No place complains that the text has ended. -/
theorem complaint_ne_unterminated (place : Place) (symbol : Symbol) :
    place.complaint symbol ≠ .unterminated := by
  intro same
  cases place with
  | typed names type =>
    simp only [complaint] at same
    split at same
    · cases same
    · split at same <;> cases same
  | device slot name => cases slot <;> cases same
  | pinned slot name pin => cases slot <;> cases same
  | _ => cases same

/-! ## Places that few symbols lead to -/

/-- Only a dot leads to the place behind a dot. -/
theorem eq_dotted_of_step (step : place.step .dot = .go next) :
    ∃ slot name, next = dotted slot name := by
  cases place with
  | device slot name =>
    cases step
    exact ⟨slot, name, rfl⟩
  | typed names type => cases type <;> cases step
  | pinned slot name pin => cases slot <;> cases step
  | _ => cases step

theorem eq_nil_of_afterTerminal_watched {slot : Slot} {terminal : Terminal}
    {earlier : List Terminal}
    (step : afterTerminal slot terminal symbol = .go (awaiting (.watched earlier))) :
    earlier = [] := by
  cases slot with
  | source =>
    simp only [afterTerminal] at step
    split at step <;> cases step
  | destination source => exact absurd step finish_ne_go
  | watched others =>
    simp only [afterTerminal] at step
    split at step
    · cases step
    · exact absurd step finish_ne_go

/-- Behind a first watched terminal the next one begins with its name, not before it. -/
theorem eq_nil_of_step_watched {earlier : List Terminal}
    (step : place.step symbol = .go (awaiting (.watched earlier))) : earlier = [] := by
  cases place with
  | opened =>
    cases symbol with
    | keyword word => cases word <;> cases step; rfl
    | _ => cases step
  | named names =>
    cases symbol with
    | keyword word => cases word <;> cases step
    | _ => cases step
  | joined names =>
    simp only [Place.step] at step
    split at step <;> cases step
  | typed names type =>
    simp only [Place.step, afterType] at step
    split at step
    · cases step
    · cases step
    · split at step
      · cases step
      · exact absurd step finish_ne_go
  | complete statement => exact absurd step finish_ne_go
  | device slot name =>
    cases symbol with
    | dot => cases step
    | _ => exact eq_nil_of_afterTerminal_watched step
  | pinned slot name pin => exact eq_nil_of_afterTerminal_watched step
  | declaring => cases symbol <;> cases step
  | awaiting slot => cases symbol <;> cases step
  | dotted slot name => cases symbol <;> cases step

theorem eq_nil_of_reach_watched {earlier : List Terminal}
    (reached : opened.reach body = some (awaiting (.watched earlier))) : earlier = [] := by
  rcases List.eq_nil_or_concat body with rfl | ⟨before, symbol, rfl⟩
  · cases reached
  · rw [List.concat_eq_append, reach_append, Option.bind_eq_some_iff] at reached
    obtain ⟨middle, -, last⟩ := reached
    rw [reach] at last
    split at last
    · rename_i next step
      cases last
      exact eq_nil_of_step_watched step
    · cases last

theorem eq_dotted_of_reach (reached : opened.reach (body ++ [.dot]) = some place) :
    ∃ slot name, place = dotted slot name := by
  rw [reach_append, Option.bind_eq_some_iff] at reached
  obtain ⟨middle, -, last⟩ := reached
  rw [reach] at last
  split at last
  · rename_i next step
    cases last
    exact eq_dotted_of_step step
  · cases last

end Place

end Netlist

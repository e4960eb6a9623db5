import Mathlib.Data.List.Basic
import Netlist.NameTable

/-!
# Ids follow the first appearance

A name table is used by *calls*: two sorts give it names, and four only ask.
After any calls the table holds the names that it was given, in the order in
which they first came and without repetitions (`toList_after`).  So everything
that it answers can be read off that list (`ids_follow_first_appearance`).

The list only grows at its end.  A name keeps its index in it
(`idxOf_eraseDups_append`), and so an id that was given once is the id of the
name for good.
-/

namespace Netlist

/-! ## Lists without repetitions -/

/-- A name at the end is left out if it came before. -/
theorem eraseDups_concat (words : List String) (name : String) :
    (words ++ [name]).eraseDups =
      if name ∈ words.eraseDups then words.eraseDups else words.eraseDups ++ [name] := by
  rw [List.eraseDups_append]
  by_cases seen : name ∈ words
  · rw [if_pos (List.mem_eraseDups.2 seen)]
    simp [List.removeAll, seen]
  · rw [if_neg fun among => seen (List.mem_eraseDups.1 among)]
    simp [List.removeAll, seen, List.eraseDups_cons]

/-- A name keeps its index whatever comes later. -/
theorem idxOf_eraseDups_append {words : List String} {name : String} (seen : name ∈ words)
    (later : List String) :
    (words ++ later).eraseDups.idxOf name = words.eraseDups.idxOf name := by
  rw [List.eraseDups_append, List.idxOf_append_of_mem (List.mem_eraseDups.2 seen)]

namespace NameTable

/-! ## Calls -/

/-- Something that is asked of a table. -/
inductive Call
  /-- The id of a name, which is added if it is new. -/
  | intern (name : String)
  /-- The ids of several names, which are added if they are new. -/
  | internAll (given : List String)
  /-- The id of a name, if the table has it. -/
  | id? (name : String)
  /-- The name with an id, if there is one. -/
  | get? (id : NameId)
  /-- The names most like a word. -/
  | closest (word : String)
  /-- All names with their ids. -/
  | rows

/-- What a table answers. -/
inductive Reply
  /-- The id of a name. -/
  | id (id : NameId)
  /-- The ids of several names. -/
  | ids (ids : List NameId)
  /-- The id of a name, if it has one. -/
  | id? (id : Option NameId)
  /-- The name with an id, if there is one. -/
  | name? (name : Option String)
  /-- Several names. -/
  | names (names : List String)
  /-- Names with their ids. -/
  | rows (rows : List (NameId × String))
deriving DecidableEq

/-- The names that a call gives to the table. -/
def Call.given : Call → List String
  | intern name => [name]
  | internAll names => names
  | id? _ | get? _ | closest _ | rows => []

/-- The answer to a call, and the table after it. -/
def answer (names : NameTable) : Call → Reply × NameTable
  | .intern name => (.id (names.intern name).1, (names.intern name).2)
  | .internAll given => (.ids (names.internAll given).1, (names.internAll given).2)
  | .id? name => (.id? (names.id? name), names)
  | .get? id => (.name? (names.get? id), names)
  | .closest word => (.names (names.closest word), names)
  | .rows => (.rows names.rows, names)

/-- The table after some calls. -/
def after (names : NameTable) (calls : List Call) : NameTable :=
  calls.foldl (fun names call => (names.answer call).2) names

@[simp] theorem after_cons (names : NameTable) (call : Call) (later : List Call) :
    names.after (call :: later) = (names.answer call).2.after later := rfl

variable {names : NameTable} {words : List String}

/-! ## The names after some calls -/

theorem toList_internAll (held : names.toList = words.eraseDups) (given : List String) :
    (names.internAll given).2.toList = (words ++ given).eraseDups := by
  induction given generalizing names words with
  | nil => rw [List.append_nil, ← held]; rfl
  | cons name rest ih =>
    have once : (names.intern name).2.toList = (words ++ [name]).eraseDups := by
      rw [toList_intern, held, eraseDups_concat]
    rw [List.append_cons]
    exact ih once

/-- One call adds the names that it gives. -/
theorem toList_answer (held : names.toList = words.eraseDups) (call : Call) :
    (names.answer call).2.toList = (words ++ call.given).eraseDups := by
  cases call with
  | intern name =>
    show (names.intern name).2.toList = (words ++ [name]).eraseDups
    rw [toList_intern, held, eraseDups_concat]
  | internAll given => exact toList_internAll held given
  | id? name => rw [Call.given, List.append_nil, ← held]; rfl
  | get? id => rw [Call.given, List.append_nil, ← held]; rfl
  | closest word => rw [Call.given, List.append_nil, ← held]; rfl
  | rows => rw [Call.given, List.append_nil, ← held]; rfl

/-- Calls add the names that they give. -/
theorem toList_after (held : names.toList = words.eraseDups) (calls : List Call) :
    (names.after calls).toList = (words ++ calls.flatMap Call.given).eraseDups := by
  induction calls generalizing names words with
  | nil => rw [List.flatMap_nil, List.append_nil, ← held]; rfl
  | cons call later ih =>
    rw [after_cons, List.flatMap_cons, ← List.append_assoc]
    exact ih (toList_answer held call)

theorem toList_after_empty (calls : List Call) :
    (empty.after calls).toList = (calls.flatMap Call.given).eraseDups :=
  @toList_after empty [] rfl calls

/-! ## Ids are indices -/

theorem get?_eq_getElem? (names : NameTable) (i : Nat) : names.get? ⟨i⟩ = names.toList[i]? := by
  rw [get?, toList, Array.getElem?_toList]

/-- The id of a name is its index. -/
theorem eq_idxOf_of_get? {id : NameId} {name : String} (stands : names.get? id = some name) :
    id = ⟨names.toList.idxOf name⟩ := by
  have among : name ∈ names.toList := by
    rw [get?_eq_getElem?] at stands
    exact List.mem_of_getElem? stands
  have index : names.get? ⟨names.toList.idxOf name⟩ = some name := by
    rw [get?_eq_getElem?]
    exact List.getElem?_idxOf among
  rw [← id?_eq_some_iff] at stands index
  exact Option.some.inj (stands.symm.trans index)

/-- A name that is interned gets its index, whatever comes later. -/
theorem intern_eq_idxOf (held : names.toList = words.eraseDups) (name : String)
    (later : List String) :
    (names.intern name).1 = ⟨(words ++ name :: later).eraseDups.idxOf name⟩ := by
  have once : (names.intern name).2.toList = (words ++ [name]).eraseDups :=
    toList_answer held (.intern name)
  have among : name ∈ words ++ [name] := List.mem_append_right _ (List.mem_singleton.2 rfl)
  rw [eq_idxOf_of_get? (get?_intern names name), once, List.append_cons words name later,
    idxOf_eraseDups_append among]

/-- Names that are interned get their indices, whatever comes later. -/
theorem internAll_eq_idxOf (held : names.toList = words.eraseDups) (given later : List String) :
    (names.internAll given).1 =
      given.map fun name => ⟨(words ++ (given ++ later)).eraseDups.idxOf name⟩ := by
  induction given generalizing names words with
  | nil => rfl
  | cons name rest ih =>
    have first := intern_eq_idxOf held name (rest ++ later)
    have others := ih (toList_answer held (.intern name))
    rw [Call.given, List.append_assoc] at others
    rw [internAll, first, List.map_cons]
    exact congrArg _ others

/-- Interning a name that the table has changes nothing. -/
theorem intern_of_mem {name : String} (among : name ∈ names.toList) :
    names.intern name = (⟨names.toList.idxOf name⟩, names) := by
  have same : (names.intern name).2 = names := by
    unfold intern
    split
    · rfl
    · rename_i fresh
      exact absurd among (id?_eq_none_iff.1 (by simp [id?, fresh]))
  have id := eq_idxOf_of_get? (get?_intern names name)
  rw [same] at id
  exact Prod.ext id same

/-! ## The main result -/

/-- After any calls the table holds the names that it was given, without repetitions and in the
order in which they first came.  A name has its index in this order as its id, and nothing else has
an id.  Every call that interned a name was answered with that index, also if other names came
later.  A call that gives no name changes nothing, nor does one that gives a name again. -/
theorem ids_follow_first_appearance (calls : List Call) :
    let names := empty.after calls
    let seen := (calls.flatMap Call.given).eraseDups
    (∀ i : Nat, names.rows[i]? = seen[i]?.map fun name => (⟨i⟩, name)) ∧
      names.size = seen.length ∧
      (∀ name i, names.id? name = some ⟨i⟩ ↔ seen[i]? = some name) ∧
      (∀ name, names.id? name = none ↔ name ∉ seen) ∧
      (∀ i, names.get? ⟨i⟩ = seen[i]?) ∧
      (∀ earlier name later, calls = earlier ++ .intern name :: later →
        ((empty.after earlier).answer (.intern name)).1 = .id ⟨seen.idxOf name⟩) ∧
      (∀ earlier given later, calls = earlier ++ .internAll given :: later →
        ((empty.after earlier).answer (.internAll given)).1 =
          .ids (given.map fun name => ⟨seen.idxOf name⟩)) ∧
      (∀ name ∈ seen, names.answer (.intern name) = (.id ⟨seen.idxOf name⟩, names)) ∧
      ∀ call : Call, call.given = [] → (names.answer call).2 = names := by
  intro names seen
  have held : names.toList = seen := toList_after_empty calls
  have get (i : Nat) : names.get? ⟨i⟩ = seen[i]? := by rw [get?_eq_getElem?, held]
  refine ⟨fun i => ?_, ?_, fun name i => ?_, fun name => ?_, get, ?_, ?_, fun name among => ?_,
    fun call none => ?_⟩
  · rw [rows, held, List.getElem?_map, List.getElem?_zipIdx, Nat.zero_add, Option.map_map]
    rfl
  · rw [← held]
    rfl
  · rw [id?_eq_some_iff, get]
  · rw [id?_eq_none_iff, held]
  · rintro earlier name later rfl
    have index := intern_eq_idxOf (toList_after_empty earlier) name (later.flatMap Call.given)
    rw [answer, index]
    simp [seen, Call.given]
  · rintro earlier given later rfl
    have indices := internAll_eq_idxOf (toList_after_empty earlier) given
      (later.flatMap Call.given)
    rw [answer, indices]
    simp [seen, Call.given]
  · rw [answer, intern_of_mem (held ▸ among), held]
  · cases call with
    | intern name => cases none
    | internAll given =>
      have nothing : given = [] := none
      rw [nothing]
      rfl
    | _ => rfl

/-- Names are given again inside one call and in a later one, and calls that only ask stand
between them. -/
theorem ids_follow_first_appearance_of_repeats :
    let calls : List Call :=
      [.internAll ["b", "a", "b"], .closest "B", .intern "c", .get? ⟨7⟩, .internAll ["a", "d", "a"]]
    (calls.flatMap Call.given).eraseDups = ["b", "a", "c", "d"] ∧
      (empty.after calls).size = 4 ∧
      (empty.after calls).id? "c" = some ⟨2⟩ ∧
      (empty.after calls).get? ⟨7⟩ = none ∧
      ((empty.after (calls.take 2)).answer (.intern "c")).1 = .id ⟨2⟩ ∧
      ((empty.after (calls.take 4)).answer (.internAll ["a", "d", "a"])).1 =
        .ids [⟨1⟩, ⟨3⟩, ⟨1⟩] := by
  intro calls
  have order : (calls.flatMap Call.given).eraseDups = ["b", "a", "c", "d"] := by decide +kernel
  obtain ⟨-, size, ids, -, get, one, several, -, -⟩ := ids_follow_first_appearance calls
  rw [order] at size ids get one several
  exact ⟨order, size, (ids _ _).2 rfl, get 7, one _ _ _ rfl, several _ _ _ rfl⟩

end NameTable

end Netlist

import Mathlib.Data.List.Basic
import Netlist.Definition.Json

/-!
# JSON says which definition it is

Two definitions with the same JSON are the same definition, whatever their names
are made of (`Definition.json_text_inj`).

A written value tells where it ends.  A *self-delimiting* way of writing is one
that can be taken off the front of a text: what was meant and what is left are
the only ones that give this text (`Delimits`).  For a number the text that is
left must not go on with a digit, and in a list it never does.

The first character tells the sort of a value (`Json.exists_write_eq_cons`).  In
a string each character is taken off by `Json.unescape?`, and no character is
written with a quotation mark in front, so the string ends at the first one
(`Json.quote_append_inj`).  A list is taken off element by element, and what
comes behind an element tells whether there is another one
(`Json.enclose_append_inj`).  This works in every layout that puts only blanks
between the marks, by induction on the value (`Json.delimits_write`).
-/

namespace Netlist

/-! ## Texts that tell where they end -/

/-- A text that goes on behind a number: it begins with no digit. -/
def Follows (rest : List Char) : Prop := ∀ c ∈ rest.head?, c.isDigit = false

/-- A text behind the elements of a list: it begins neither with a digit nor with a comma. -/
def Ends (rest : List Char) : Prop := ∀ c ∈ rest.head?, c.isDigit = false ∧ c ≠ ','

/-- What is written for `a` in front of another text is written for nothing else, and the text
behind it is the only one. -/
def Delimits {α : Type} (write : α → List Char) (a : α) : Prop :=
  ∀ ⦃b rest rest'⦄, Follows rest → Follows rest' → write a ++ rest = write b ++ rest' →
    a = b ∧ rest = rest'

theorem follows_nil : Follows [] := nofun

theorem Ends.follows {rest : List Char} (ends : Ends rest) : Follows rest :=
  fun c first => (ends c first).1

theorem not_isDigit_of_isWhitespace {c : Char} (blank : c.isWhitespace = true) :
    c.isDigit = false := by
  simp only [Char.isWhitespace, Bool.or_eq_true, decide_eq_true_eq] at blank
  rcases blank with ((rfl | rfl) | rfl) | rfl <;> decide

/-! ## Numbers -/

theorem takeWhile_toDigits_append (n : Nat) {rest : List Char} (follows : Follows rest) :
    (Nat.toDigits 10 n ++ rest).takeWhile Char.isDigit = Nat.toDigits 10 n := by
  have none : rest.takeWhile Char.isDigit = [] := by
    cases rest with
    | nil => rfl
    | cons c more => exact List.takeWhile_cons_of_neg (by simp [follows c rfl])
  have digits (c : Char) : c ∈ Nat.toDigits 10 n → c.isDigit = true :=
    Nat.isDigit_of_mem_toDigits (by decide) (by decide)
  rw [List.takeWhile_append_of_pos digits, none, List.append_nil]

theorem delimits_toDigits (n : Nat) : Delimits (Nat.toDigits 10) n := by
  intro m rest rest' follows follows' same
  have digits : Nat.toDigits 10 n = Nat.toDigits 10 m := by
    rw [← takeWhile_toDigits_append n follows, same, takeWhile_toDigits_append m follows']
  refine ⟨?_, ?_⟩
  · rw [← @Nat.ofDigitChars_ten_toDigits n, digits, Nat.ofDigitChars_ten_toDigits]
  · rw [digits] at same
    exact List.append_cancel_left same

namespace Json

/-! ## Strings -/

/-- The value of a digit of a code point. -/
def hexValue (digit : Char) : Nat := "0123456789abcdef".toList.idxOf digit

/-- The first character that a part of a string stands for, and what is left. -/
def unescape? : List Char → Option (Char × List Char)
  | '\\' :: 'u' :: _ :: _ :: high :: low :: rest =>
    some (Char.ofNat (16 * hexValue high + hexValue low), rest)
  | '\\' :: 'b' :: rest => some ('\x08', rest)
  | '\\' :: 'f' :: rest => some ('\x0c', rest)
  | '\\' :: 'n' :: rest => some ('\n', rest)
  | '\\' :: 'r' :: rest => some ('\r', rest)
  | '\\' :: 't' :: rest => some ('\t', rest)
  | '\\' :: c :: rest => some (c, rest)
  | c :: rest => some (c, rest)
  | [] => none

theorem ofNat_hexByte {c : Char} (control : c.toNat < 32) :
    Char.ofNat (16 * hexValue (Nat.digitChar (c.toNat / 16)) +
      hexValue (Nat.digitChar (c.toNat % 16))) = c := by
  have digit : ∀ d < 16, hexValue (Nat.digitChar d) = d := by decide
  rw [digit _ (by omega), digit _ (by omega), Nat.div_add_mod, Char.ofNat_toNat]

theorem unescape?_cons {c : Char} (plain : c ≠ '\\') (rest : List Char) :
    unescape? (c :: rest) = some (c, rest) := by
  simp [unescape?, plain]

/-- A character is read back from how it stands in a string. -/
theorem unescape?_escape (c : Char) (rest : List Char) :
    unescape? (escape c ++ rest) = some (c, rest) := by
  unfold escape
  split
  case h_8 _ _ plain _ _ _ _ _ =>
    split
    · rename_i control
      exact congrArg (fun c => some (c, rest)) (ofNat_hexByte control)
    · exact unescape?_cons plain rest
  all_goals rfl

/-- No character stands in a string with a quotation mark in front. -/
theorem exists_escape_eq_cons (c : Char) :
    ∃ first more, escape c = first :: more ∧ first ≠ '\x22' := by
  unfold escape
  split
  case h_8 _ other _ _ _ _ _ _ =>
    split
    · exact ⟨_, _, rfl, by decide⟩
    · exact ⟨c, [], rfl, other⟩
  all_goals exact ⟨_, _, rfl, by decide⟩

theorem flatMap_escape_append_inj {s t rest rest' : List Char}
    (same : s.flatMap escape ++ '\x22' :: rest = t.flatMap escape ++ '\x22' :: rest') :
    s = t ∧ rest = rest' := by
  -- A string that goes on cannot be one that ends.
  have apart (c : Char) (others behind ended : List Char) :
      (c :: others).flatMap escape ++ behind ≠ '\x22' :: ended := by
    obtain ⟨first, more, begins, other⟩ := exists_escape_eq_cons c
    rw [List.flatMap_cons, begins]
    exact fun whole => other (List.cons.inj whole).1
  induction s generalizing t with
  | nil =>
    cases t with
    | nil => exact ⟨rfl, (List.cons.inj same).2⟩
    | cons d t => exact absurd same.symm (apart d t _ _)
  | cons c s ih =>
    cases t with
    | nil => exact absurd same (apart c s _ _)
    | cons d t =>
      rw [List.flatMap_cons, List.flatMap_cons, List.append_assoc, List.append_assoc] at same
      have taken := congrArg unescape? same
      rw [unescape?_escape, unescape?_escape] at taken
      obtain ⟨rfl, left⟩ := Prod.mk.inj (Option.some.inj taken)
      obtain ⟨rfl, behind⟩ := ih left
      exact ⟨rfl, behind⟩

/-- A string ends at the first quotation mark behind its own. -/
theorem quote_append_inj {s t : String} {rest rest' : List Char}
    (same : (quote s).toList ++ rest = (quote t).toList ++ rest') : s = t ∧ rest = rest' := by
  have written (s : String) (rest : List Char) : (quote s).toList ++ rest =
      '\x22' :: (s.toList.flatMap escape ++ '\x22' :: rest) := by
    rw [quote, String.toList_ofList, List.cons_append, List.cons_append, List.append_assoc]
    rfl
  rw [written, written] at same
  obtain ⟨letters, behind⟩ := flatMap_escape_append_inj (List.cons.inj same).2
  exact ⟨String.toList_inj.1 letters, behind⟩

/-! ## Lists of elements -/

/-- Nothing but blanks stands between the marks. -/
def Layout.IsBlank (layout : Layout) : Prop :=
  ∀ depth, ∀ c ∈ (layout.line depth).toList, c.isWhitespace = true

theorem Layout.isBlank_compact : compact.IsBlank := nofun

theorem Layout.isBlank_indented : indented.IsBlank := by
  intro depth c among
  rw [indented, String.toList_append, List.mem_append] at among
  rcases among with feed | space
  · obtain rfl := List.mem_singleton.1 feed
    decide
  · rw [String.toList_ofList] at space
    obtain rfl := List.eq_of_mem_replicate space
    decide

/-- The elements of a list behind the first one. -/
def further {α : Type} (gap : List Char) (form : α → List Char) (others : List α) : List Char :=
  others.flatMap fun other => ',' :: gap ++ form other

theorem toList_enclose_cons (layout : Layout) (depth : Nat) (left right first : String)
    (others : List String) :
    (enclose layout depth left right (first :: others)).toList =
      left.toList ++ (layout.line (depth + 1)).toList ++ first.toList ++
        further (layout.line (depth + 1)).toList String.toList others ++
        (layout.line depth).toList ++ right.toList := by
  have joined : (("," ++ layout.line (depth + 1)).intercalate (first :: others)).toList =
      first.toList ++ further (layout.line (depth + 1)).toList String.toList others := by
    induction others generalizing first with
    | nil => simp [further]
    | cons second others ih =>
      rw [String.intercalate_cons_cons, String.toList_append, String.toList_append, ih]
      simp [further]
  rw [enclose, if_neg nofun]
  simp [joined]

section Lists

variable {α : Type} {form : α → List Char} {gap : List Char}

/-- Behind an element there is no digit. -/
theorem follows_further (others : List α) {rest : List Char} (ends : Ends rest) :
    Follows (further gap form others ++ rest) := by
  cases others with
  | nil => exact ends.follows
  | cons other others =>
    rintro c ⟨⟩
    decide

theorem further_append_inj {others others' : List α}
    (delimits : ∀ other ∈ others, Delimits form other) {rest rest' : List Char} (ends : Ends rest)
    (ends' : Ends rest')
    (same : further gap form others ++ rest = further gap form others' ++ rest') :
    others = others' ∧ rest = rest' := by
  -- Where there is another element there is a comma, and the list does not end.
  have apart (other : α) (others : List α) (behind : List Char) {ended : List Char}
      (ends : Ends ended) : further gap form (other :: others) ++ behind ≠ ended := by
    rintro rfl
    exact (ends ',' rfl).2 rfl
  induction others generalizing others' with
  | nil =>
    cases others' with
    | nil => exact ⟨rfl, same⟩
    | cons other' others' => exact absurd same.symm (apart other' others' _ ends)
  | cons other others ih =>
    cases others' with
    | nil => exact absurd same (apart other others _ ends')
    | cons other' others' =>
      have split (other : α) (others : List α) (behind : List Char) :
          further gap form (other :: others) ++ behind =
            ',' :: gap ++ (form other ++ (further gap form others ++ behind)) := by
        simp [further]
      rw [split, split] at same
      obtain ⟨rfl, left⟩ := delimits other (.head _) (follows_further others ends)
        (follows_further others' ends') (List.append_cancel_left same)
      obtain ⟨rfl, behind⟩ := ih (fun other among => delimits other (.tail _ among)) left
      exact ⟨rfl, behind⟩

/-- A mark that closes a list. -/
def Closes (mark : Char) : Prop := mark = ']' ∨ mark = '\x7d'

theorem Closes.not_isWhitespace {mark : Char} (closes : Closes mark) :
    mark.isWhitespace = false := by
  obtain rfl | rfl := closes <;> decide

theorem Closes.ends {mark : Char} (closes : Closes mark) {gap : List Char}
    (blank : ∀ c ∈ gap, c.isWhitespace = true) (rest : List Char) : Ends (gap ++ mark :: rest) := by
  cases gap with
  | nil =>
    rintro c ⟨⟩
    obtain rfl | rfl := closes <;> decide
  | cons first more =>
    rintro c ⟨⟩
    have space := blank first (.head _)
    refine ⟨not_isDigit_of_isWhitespace space, ?_⟩
    rintro rfl
    cases space

/-- A list between two marks is taken off as a whole, if each of its elements is and none begins as
the list ends. -/
theorem enclose_append_inj {layout : Layout} (blank : layout.IsBlank) {depth : Nat}
    {left right : String} {mark : Char} (written : right.toList = [mark]) (closes : Closes mark)
    {form : α → String} (starts : ∀ x, ∃ c more, (form x).toList = c :: more ∧ c ≠ mark)
    {xs ys : List α} (delimits : ∀ x ∈ xs, Delimits (fun x => (form x).toList) x)
    {rest rest' : List Char}
    (same : (enclose layout depth left right (xs.map form)).toList ++ rest =
      (enclose layout depth left right (ys.map form)).toList ++ rest') :
    xs = ys ∧ rest = rest' := by
  have empty (rest : List Char) : (enclose layout depth left right []).toList ++ rest =
      left.toList ++ mark :: rest := by
    rw [enclose, if_pos rfl, String.toList_append, written, List.append_assoc]
    rfl
  have filled (x : α) (xs : List α) (rest : List Char) :
      (enclose layout depth left right ((x :: xs).map form)).toList ++ rest =
        left.toList ++ ((layout.line (depth + 1)).toList ++ ((form x).toList ++
          (further (layout.line (depth + 1)).toList (fun x => (form x).toList) xs ++
            ((layout.line depth).toList ++ mark :: rest)))) := by
    simp [toList_enclose_cons, written, further, List.flatMap_map]
  -- Where there is an element the list does not end at once.
  have apart (x : α) (behind ended : List Char) :
      (layout.line (depth + 1)).toList ++ ((form x).toList ++ behind) ≠ mark :: ended := by
    intro whole
    cases line : (layout.line (depth + 1)).toList with
    | nil =>
      obtain ⟨c, more, begins, other⟩ := starts x
      rw [line, begins] at whole
      exact other (List.cons.inj whole).1
    | cons first more =>
      have space := blank (depth + 1) first (line ▸ .head _)
      rw [line] at whole
      rw [(List.cons.inj whole).1, closes.not_isWhitespace] at space
      cases space
  have ends (rest : List Char) := closes.ends (blank depth) rest
  cases xs with
  | nil =>
    cases ys with
    | nil => exact ⟨rfl, List.append_cancel_left same⟩
    | cons y ys =>
      rw [List.map_nil, empty, filled] at same
      exact absurd (List.append_cancel_left same).symm (apart y _ _)
  | cons x xs =>
    cases ys with
    | nil =>
      rw [List.map_nil, empty, filled] at same
      exact absurd (List.append_cancel_left same) (apart x _ _)
    | cons y ys =>
      rw [filled, filled] at same
      obtain ⟨rfl, left⟩ := delimits x (.head _) (follows_further xs (ends rest))
        (follows_further ys (ends rest'))
        (List.append_cancel_left (List.append_cancel_left same))
      obtain ⟨rfl, behind⟩ := further_append_inj
        (fun other among => delimits other (.tail _ among)) (ends rest) (ends rest') left
      exact ⟨rfl, (List.cons.inj (List.append_cancel_left behind)).2⟩

end Lists

/-! ## Values -/

/-- A property of values holds of all if it holds of each that is made of values with it. -/
@[elab_as_elim]
theorem induction {motive : Json → Prop} (null : motive null) (number : ∀ n, motive (number n))
    (string : ∀ s, motive (string s))
    (array : ∀ items, (∀ item ∈ items, motive item) → motive (array items))
    (object : ∀ members, (∀ member ∈ members, motive member.2) → motive (object members)) :
    ∀ value, motive value
  | .null => null
  | .number n => number n
  | .string s => string s
  | .array items => array items fun item _ => induction null number string array object item
  | .object members =>
    object members fun member _ => induction null number string array object member.2
termination_by value => value
decreasing_by
  · have smaller := List.sizeOf_lt_of_mem ‹item ∈ items›
    simp only [Json.array.sizeOf_spec]
    omega
  · have smaller := List.sizeOf_lt_of_mem ‹member ∈ members›
    obtain ⟨name, value⟩ := member
    simp only [Json.object.sizeOf_spec, Prod.mk.sizeOf_spec] at smaller ⊢
    omega

/-- What the first character of a value tells: the character, or zero for any digit. -/
def sign : Json → Char
  | null => 'n'
  | number _ => '0'
  | string _ => '\x22'
  | array _ => '['
  | object _ => '\x7b'

theorem exists_enclose_eq_cons (layout : Layout) (depth : Nat) {left right : String} {mark : Char}
    (opens : left.toList = [mark]) (elements : List String) :
    ∃ more, (enclose layout depth left right elements).toList = mark :: more := by
  rw [enclose]
  split <;> simp [opens]

/-- The first character of a value tells its sort. -/
theorem exists_write_eq_cons (layout : Layout) (depth : Nat) (value : Json) :
    ∃ c more, (value.write layout depth).toList = c :: more ∧
      (if c.isDigit then '0' else c) = value.sign := by
  cases value with
  | null =>
    rw [write]
    exact ⟨'n', ['u', 'l', 'l'], rfl, rfl⟩
  | number n =>
    have digits : ∀ c ∈ Nat.toDigits 10 n, c.isDigit = true := fun _ =>
      Nat.isDigit_of_mem_toDigits (by decide) (by decide)
    cases written : Nat.toDigits 10 n with
    | nil => exact absurd written Nat.toDigits_ne_nil
    | cons c more =>
      refine ⟨c, more, ?_, if_pos (digits c (written ▸ .head _))⟩
      rw [← written]
      exact Nat.toList_repr
  | string s => exact ⟨'\x22', _, String.toList_ofList, rfl⟩
  | array items =>
    have opens : "[".toList = ['['] := rfl
    obtain ⟨more, begins⟩ := exists_enclose_eq_cons layout depth opens _
    exact ⟨'[', more, begins, rfl⟩
  | object members =>
    have opens : "\x7b".toList = ['\x7b'] := rfl
    obtain ⟨more, begins⟩ := exists_enclose_eq_cons layout depth opens _
    exact ⟨'\x7b', more, begins, rfl⟩

/-- What is written of values of two sorts begins differently. -/
theorem sign_eq_of_append_eq {layout : Layout} {depth : Nat} {value other : Json}
    {rest rest' : List Char}
    (same : (value.write layout depth).toList ++ rest =
      (other.write layout depth).toList ++ rest') :
    value.sign = other.sign := by
  obtain ⟨c, more, begins, told⟩ := exists_write_eq_cons layout depth value
  obtain ⟨d, more', begins', told'⟩ := exists_write_eq_cons layout depth other
  rw [begins, begins'] at same
  rw [← told, ← told', (List.cons.inj same).1]

/-- No value begins as a list ends. -/
theorem exists_write_eq_cons_ne {mark : Char} (closes : Closes mark) (layout : Layout) (depth : Nat)
    (value : Json) : ∃ c more, (value.write layout depth).toList = c :: more ∧ c ≠ mark := by
  obtain ⟨c, more, begins, told⟩ := exists_write_eq_cons layout depth value
  refine ⟨c, more, begins, ?_⟩
  rintro rfl
  obtain rfl | rfl := closes <;> cases value <;> cases told

theorem writeItems_eq_map (layout : Layout) (depth : Nat) (items : List Json) :
    writeItems layout depth items = items.map (write layout depth) := by
  induction items with
  | nil => rfl
  | cons item rest ih => rw [writeItems, ih, List.map_cons]

/-- A member of an object as it is written. -/
def writeMember (layout : Layout) (depth : Nat) (member : String × Json) : String :=
  quote member.1 ++ layout.colon ++ write layout depth member.2

theorem exists_writeMember_eq_cons_ne (layout : Layout) (depth : Nat) (member : String × Json) :
    ∃ c more, (writeMember layout depth member).toList = c :: more ∧ c ≠ '\x7d' := by
  obtain ⟨name, value⟩ := member
  obtain ⟨more, quoted⟩ : ∃ more, (quote name).toList = '\x22' :: more :=
    ⟨_, String.toList_ofList⟩
  have written : (writeMember layout depth (name, value)).toList =
      '\x22' :: (more ++ layout.colon.toList ++ (write layout depth value).toList) := by
    rw [writeMember, String.toList_append, String.toList_append, quoted]
    rfl
  exact ⟨'\x22', _, written, by decide⟩

theorem writeMembers_eq_map (layout : Layout) (depth : Nat) (members : List (String × Json)) :
    writeMembers layout depth members = members.map (writeMember layout depth) := by
  induction members with
  | nil => rfl
  | cons member rest ih => rw [writeMembers, ih, List.map_cons, writeMember]

theorem delimits_writeMember {layout : Layout} {depth : Nat} {member : String × Json}
    (delimits : Delimits (fun value => (write layout depth value).toList) member.2) :
    Delimits (fun member => (writeMember layout depth member).toList) member := by
  obtain ⟨name, value⟩ := member
  rintro ⟨name', value'⟩ rest rest' follows follows' same
  simp only [writeMember, String.toList_append, List.append_assoc] at same
  obtain ⟨rfl, left⟩ := quote_append_inj same
  obtain ⟨rfl, behind⟩ := delimits follows follows' (List.append_cancel_left left)
  exact ⟨rfl, behind⟩

/-- In a layout of blanks a value tells where it ends. -/
theorem delimits_write {layout : Layout} (blank : layout.IsBlank) (value : Json) (depth : Nat) :
    Delimits (fun value => (write layout depth value).toList) value := by
  induction value using Json.induction generalizing depth with
  | null =>
    intro other rest rest' follows follows' same
    have sort := sign_eq_of_append_eq same
    cases other with
    | null => exact ⟨rfl, List.append_cancel_left same⟩
    | _ => cases sort
  | number n =>
    intro other rest rest' follows follows' same
    have sort := sign_eq_of_append_eq same
    cases other with
    | number m =>
      obtain ⟨rfl, behind⟩ := delimits_toDigits n follows follows' (b := m)
        (by rwa [← Nat.toList_repr, ← Nat.toList_repr])
      exact ⟨rfl, behind⟩
    | _ => cases sort
  | string s =>
    intro other rest rest' follows follows' same
    have sort := sign_eq_of_append_eq same
    cases other with
    | string t =>
      obtain ⟨rfl, behind⟩ := quote_append_inj same
      exact ⟨rfl, behind⟩
    | _ => cases sort
  | array items ih =>
    intro other rest rest' follows follows' same
    have sort := sign_eq_of_append_eq same
    cases other with
    | array items' =>
      simp only [write, writeItems_eq_map] at same
      have closes : Closes ']' := .inl rfl
      obtain ⟨rfl, behind⟩ := enclose_append_inj blank rfl closes
        (exists_write_eq_cons_ne closes layout (depth + 1))
        (fun item among => ih item among (depth + 1)) same
      exact ⟨rfl, behind⟩
    | _ => cases sort
  | object members ih =>
    intro other rest rest' follows follows' same
    have sort := sign_eq_of_append_eq same
    cases other with
    | object members' =>
      simp only [write, writeMembers_eq_map] at same
      obtain ⟨rfl, behind⟩ := enclose_append_inj blank rfl (.inr rfl)
        (exists_writeMember_eq_cons_ne layout (depth + 1))
        (fun member among => delimits_writeMember (ih member among (depth + 1))) same
      exact ⟨rfl, behind⟩
    | _ => cases sort

/-- In a layout of blanks different values have different texts. -/
theorem text_inj {layout : Layout} (blank : layout.IsBlank) {value other : Json} :
    value.text layout = other.text layout ↔ value = other := by
  constructor
  · intro same
    refine (delimits_write blank value 0 follows_nil follows_nil ?_).1
    exact congrArg (fun text => text.toList ++ []) same
  · rintro rfl
    rfl

end Json

/-! ## Definitions -/

theorem DeviceType.spelling_inj {type other : DeviceType} :
    type.spelling = other.spelling ↔ type = other := by
  constructor
  · intro same
    have keyword := congrArg Keyword.ofWord? same
    rw [spelling, spelling, Keyword.ofWord?_spelling, Keyword.ofWord?_spelling] at keyword
    have type := congrArg ofKeyword? (Option.some.inj keyword)
    rw [ofKeyword?_keyword, ofKeyword?_keyword] at type
    exact Option.some.inj type
  · rintro rfl
    rfl

theorem DeviceKind.json_injective : Function.Injective DeviceKind.json := by
  rintro ⟨type, qualifier, fits⟩ ⟨type', qualifier', fits'⟩ same
  simp only [json, Json.object.injEq, List.cons.injEq, Prod.mk.injEq, Json.string.injEq,
    DeviceType.spelling_inj, true_and] at same
  obtain ⟨rfl, members⟩ := same
  have qualifiers : qualifier = qualifier' := by
    cases qualifier with
    | none =>
      cases qualifier' with
      | none => rfl
      | some m => cases members
    | some n =>
      cases qualifier' with
      | none => cases members
      | some m => simpa [UInt32.toNat_inj] using members
  subst qualifiers
  rfl

theorem Terminal.json_injective : Function.Injective Terminal.json := by
  rintro ⟨device, pin⟩ ⟨device', pin'⟩ same
  simp only [json, Json.object.injEq, List.cons.injEq, Prod.mk.injEq, Json.string.injEq, true_and,
    and_true] at same
  obtain ⟨rfl, pins⟩ := same
  cases pin <;> cases pin' <;> cases pins <;> rfl

theorem Statement.json_injective : Function.Injective Statement.json := by
  intro first second same
  have strings : Function.Injective Json.string := fun _ _ same => Json.string.inj same
  cases first with
  | device names kind =>
    cases second with
    | device names' kind' =>
      have members := Json.object.inj same
      simp only [List.cons.injEq, Prod.mk.injEq, Json.array.injEq, true_and, and_true] at members
      rw [NonemptyList.toList_injective (strings.list_map members.1),
        DeviceKind.json_injective members.2]
    | connect | monitor => simp [json] at same
  | connect source destination =>
    cases second with
    | connect source' destination' =>
      have members := Json.object.inj same
      simp only [List.cons.injEq, Prod.mk.injEq, true_and, and_true] at members
      rw [Terminal.json_injective members.1, Terminal.json_injective members.2]
    | device | monitor => simp [json] at same
  | monitor terminals =>
    cases second with
    | monitor terminals' =>
      have members := Json.object.inj same
      simp only [List.cons.injEq, Prod.mk.injEq, Json.array.injEq, true_and, and_true] at members
      rw [NonemptyList.toList_injective (Terminal.json_injective.list_map members)]
    | device | connect => simp [json] at same

theorem Definition.json_injective : Function.Injective Definition.json := by
  rintro ⟨statements⟩ ⟨statements'⟩ same
  simp only [json, Json.object.injEq, List.cons.injEq, Prod.mk.injEq, Json.array.injEq, true_and,
    and_true] at same
  exact congrArg Definition.mk (Statement.json_injective.list_map same)

/-- The JSON of a definition says which one it is, compact or indented, whatever its names are made
of. -/
theorem Definition.json_text_inj (first second : Definition) :
    (first.json.text .compact = second.json.text .compact ↔ first = second) ∧
      (first.json.text .indented = second.json.text .indented ↔ first = second) := by
  rw [Json.text_inj Json.Layout.isBlank_compact, Json.text_inj Json.Layout.isBlank_indented,
    Definition.json_injective.eq_iff]
  exact ⟨Iff.rfl, Iff.rfl⟩

end Netlist

import Netlist.Proofs.Cut

/-!
# The items of a text in their order

A cursor lists its items with `Cursor.items`, and it gives them one at a time
with `Cursor.next`.  `Cursor.Yields` is the second way, taken until there is no
next item.  Both ways give the same items (`Cursor.yields_iff`), so what is
said of the list is said of every run of `next` from the beginning of a text
to its end.

The offsets of the items ascend and stay below the end of the text
(`Cursor.ascending_items`), so there are no more items than bytes
(`Cursor.length_items_le`).
-/

namespace Netlist

/-- The items that a cursor gives until there is no next one. -/
inductive Cursor.Yields (comments : Bool) : Cursor → List Item → Prop
  /-- There is no next item. -/
  | stop {cursor behind : Cursor} : cursor.next comments = (none, behind) →
    Yields comments cursor []
  /-- There is a next item, and then those behind it. -/
  | item {cursor behind : Cursor} {item : Item} {items : List Item} :
    cursor.next comments = (some item, behind) → Yields comments behind items →
    Yields comments cursor (item :: items)

variable {comments : Bool}

theorem Cursor.eq_items_of_yields {cursor : Cursor} {items : List Item}
    (yields : cursor.Yields comments items) : items = cursor.items comments := by
  induction yields with
  | stop next => rw [items_eq_next, next]
  | item next _ ih => rw [items_eq_next, next, ih]

theorem Cursor.yields_items (comments : Bool) (cursor : Cursor) :
    cursor.Yields comments (cursor.items comments) := by
  generalize listed : cursor.items comments = items
  induction items generalizing cursor with
  | nil =>
    rw [items_eq_next] at listed
    rcases next : cursor.next comments with ⟨_ | item, behind⟩
    · exact .stop next
    · rw [next] at listed
      cases listed
  | cons first rest ih =>
    rw [items_eq_next] at listed
    rcases next : cursor.next comments with ⟨_ | item, behind⟩
    · rw [next] at listed
      cases listed
    · rw [next] at listed
      obtain ⟨rfl, later⟩ := List.cons.inj listed
      exact .item next (ih behind later)

/-- Asking for the next item until there is none gives the listed items. -/
theorem Cursor.yields_iff {cursor : Cursor} {items : List Item} :
    cursor.Yields comments items ↔ items = cursor.items comments := by
  constructor
  · exact eq_items_of_yields
  · rintro rfl
    exact yields_items comments cursor

/-! ## Ascending offsets -/

/-- Each item begins before the next one, and the last one before the end. -/
def Item.Ascending (stop : Position) (items : List Item) : Prop :=
  items.Pairwise (fun earlier later => earlier.position.offset < later.position.offset) ∧
    ∀ item ∈ items, item.position.offset < stop.offset

theorem Item.Ascending.tail {stop : Position} {item : Item} {rest : List Item}
    (ascending : Ascending stop (item :: rest)) : Ascending stop rest :=
  ⟨(List.pairwise_cons.1 ascending.1).2, fun other h => ascending.2 other (by simp [h])⟩

theorem Item.Ascending.offset_add_length_lt {stop : Position} {item : Item} {rest : List Item}
    (ascending : Ascending stop (item :: rest)) :
    item.position.offset + rest.length < stop.offset := by
  induction rest generalizing item with
  | nil => exact ascending.2 item (by simp)
  | cons next rest ih =>
    have further := ih ascending.tail
    have before := (List.pairwise_cons.1 ascending.1).1 next (by simp)
    rw [List.length_cons]
    omega

theorem Item.Ascending.length_le {stop : Position} {items : List Item}
    (ascending : Ascending stop items) : items.length ≤ stop.offset := by
  cases items with
  | nil => exact Nat.zero_le _
  | cons item rest =>
    have within := ascending.offset_add_length_lt
    rw [List.length_cons]
    omega

theorem Item.le_offset_of_mem_ofLexemes {position : Position} {lexemes : List Lexeme} {item : Item}
    (h : item ∈ ofLexemes position lexemes) : position.offset ≤ item.position.offset := by
  induction lexemes generalizing position with
  | nil => cases h
  | cons lexeme rest ih =>
    rw [ofLexemes, List.mem_append] at h
    rcases h with here | later
    · exact Nat.le_of_eq (congrArg Position.offset
        (Lexeme.position_of_item? (Option.mem_toList.1 here)).symm)
    · have further := ih later
      rw [Position.offset_after] at further
      omega

theorem Item.ascending_ofLexemes (position : Position) {lexemes : List Lexeme}
    (taken : ∀ lexeme ∈ lexemes, lexeme.text ≠ []) :
    Ascending (position.after (lexemes.flatMap Lexeme.text)) (ofLexemes position lexemes) := by
  refine ⟨?_, fun item h => offset_lt_of_mem_ofLexemes taken h⟩
  induction lexemes generalizing position with
  | nil => exact .nil
  | cons lexeme rest ih =>
    rw [ofLexemes, List.pairwise_append]
    refine ⟨?_, ih _ fun other h => taken other (by simp [h]), fun first here later behind => ?_⟩
    · cases lexeme.item? position <;> simp
    · have single : first ∈ ofLexemes position [lexeme] := by simpa [ofLexemes] using here
      have ends := offset_lt_of_mem_ofLexemes (by simpa using taken lexeme (by simp)) single
      have begins := le_offset_of_mem_ofLexemes behind
      rw [List.flatMap_singleton] at ends
      omega

namespace Cursor

/-- The items of a text ascend up to its end. -/
theorem ascending_items (comments : Bool) (text : String) :
    Item.Ascending (ofText text).stop ((ofText text).items comments) := by
  have taken : ∀ lexeme ∈ Lexeme.lexemes comments text.toList, lexeme.text ≠ [] :=
    fun _ h => Lexeme.text_ne_nil_of_mem_lexemes h
  have ascending := Item.ascending_ofLexemes .start taken
  rwa [Lexeme.flatMap_text_lexemes] at ascending

theorem offset_stop (text : String) : (ofText text).stop.offset = text.utf8ByteSize := by
  show (Position.start.after text.toList).offset = text.utf8ByteSize
  rw [Position.offset_after, String.ofList_toList]
  exact Nat.zero_add _

/-- A text has no more items than bytes. -/
theorem length_items_le (comments : Bool) (text : String) :
    ((ofText text).items comments).length ≤ text.utf8ByteSize := by
  rw [← offset_stop]
  exact (ascending_items comments text).length_le

end Cursor

end Netlist

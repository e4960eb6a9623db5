import Netlist.Lexeme

/-!
# Reading items from a text

An *item* is what a reader of a text is given: a token, or the lexical error of
text that is none.  Layout gives no item.  A *cursor* is a place in a text with
the text that is still to come.

`Cursor.next` reads one item and stands behind it, and at the end of the text
it reads nothing and stays.  `Cursor.items` are all items that are still to
come.  They agree: `next` gives the first of the items and leaves the others
(`items_eq_next`).
-/

namespace Netlist

/-- What a reader of a text is given. -/
inductive Item
  /-- A token. -/
  | token (t : Token)
  /-- Text that is no token. -/
  | fault (e : LexicalError)
deriving DecidableEq

/-- Where an item begins. -/
def Item.position : Item → Position
  | token t => t.position
  | fault e => e.position

/-- The text that an error about a lexeme shows: for a comment without end, the mark that opens
it. -/
def Lexeme.shown (lexeme : Lexeme) (cause : LexicalCause) : String :=
  match cause with
  | .openComment => "/*"
  | _ => String.ofList lexeme.text

/-- The item of a lexeme at a position. -/
def Lexeme.item? (lexeme : Lexeme) (position : Position) : Option Item :=
  match lexeme.meaning with
  | .layout => none
  | .symbol symbol => some (.token ⟨symbol, position⟩)
  | .fault cause => some (.fault ⟨cause, lexeme.shown cause, position⟩)

/-- The items of lexemes of which the first is at a position. -/
def Item.ofLexemes (position : Position) : List Lexeme → List Item
  | [] => []
  | lexeme :: rest =>
    (lexeme.item? position).toList ++ ofLexemes (position.after lexeme.text) rest

/-- A place in a text and what comes behind it. -/
structure Cursor where
  /-- The place. -/
  position : Position
  /-- The text that is still to come. -/
  rest : List Char

namespace Cursor

/-- The beginning of a text. -/
def ofText (text : String) : Cursor := ⟨.start, text.toList⟩

/-- The end of the text. -/
def stop (cursor : Cursor) : Position := cursor.position.after cursor.rest

/-- The items that are still to come. -/
def items (comments : Bool) (cursor : Cursor) : List Item :=
  Item.ofLexemes cursor.position (Lexeme.lexemes comments cursor.rest)

/-- The next item, if there is one, and the place behind it. -/
def next (comments : Bool) (cursor : Cursor) : Option Item × Cursor :=
  match cursor with
  | ⟨position, []⟩ => (none, ⟨position, []⟩)
  | ⟨position, c :: rest⟩ =>
    let cut := Lexeme.first comments c rest
    let behind : Cursor := ⟨position.after cut.1.text, cut.2⟩
    match cut.1.item? position with
    | some item => (some item, behind)
    | none => behind.next comments
termination_by cursor.rest.length
decreasing_by exact Lexeme.length_first_lt comments c rest

/-- The items are the next one, if there is one, and those behind it. -/
theorem items_eq_next (comments : Bool) (cursor : Cursor) :
    cursor.items comments =
      match cursor.next comments with
      | (some item, behind) => item :: behind.items comments
      | (none, _) => [] := by
  fun_induction next comments cursor with
  | case1 position => simp [items, Item.ofLexemes]
  | case2 position c rest cut behind item found =>
    simp only [items, Lexeme.lexemes_cons, Item.ofLexemes]
    rw [found]; rfl
  | case3 position c rest cut behind none ih =>
    rw [← ih]
    simp only [items, Lexeme.lexemes_cons, Item.ofLexemes]
    rw [none]; rfl

/-- The tokens that are still to come, or the first lexical error. -/
def tokens (comments : Bool) (cursor : Cursor) : Except LexicalError (List Token) :=
  (cursor.items comments).mapM fun
    | .token token => .ok token
    | .fault error => .error error

end Cursor

end Netlist

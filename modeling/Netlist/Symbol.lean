import Netlist.Device
import Netlist.Position

/-!
# Symbols and tokens

A *symbol* is a word of the language: a name, a reserved word, a number, or one
of four marks.  A *token* is a symbol at a position of a text.  The comma is a
symbol although no statement has a use for it, so that a misplaced comma is an
error of the grammar and not of the alphabet.
-/

namespace Netlist

/-- A word of the language. -/
inductive Symbol
  /-- The name of a device or a pin. -/
  | name (word : String)
  /-- A reserved word. -/
  | keyword (word : Keyword)
  /-- A number. -/
  | number (value : UInt32)
  /-- The mark that opens a statement. -/
  | openParen
  /-- The mark that closes a statement. -/
  | closeParen
  /-- The mark between a device and its pin. -/
  | dot
  /-- The comma. -/
  | comma
deriving DecidableEq

namespace Symbol

/-- A symbol as it is written. -/
def text : Symbol → String
  | name word => word
  | keyword word => word.spelling
  | number value => toString value.toNat
  | openParen => "("
  | closeParen => ")"
  | dot => "."
  | comma => ","

/-- The symbol of a word: a reserved word if it is one, and a name otherwise. -/
def ofWord (word : String) : Symbol :=
  match Keyword.ofWord? word with
  | some reserved => keyword reserved
  | none => name word

/-- The symbol of a mark. -/
def ofMark? : Char → Option Symbol
  | '(' => some openParen
  | ')' => some closeParen
  | '.' => some dot
  | ',' => some comma
  | _ => none

/-- The value of a number. -/
def value? : Symbol → Option UInt32
  | number value => some value
  | _ => none

@[simp] theorem text_ofWord (word : String) : (ofWord word).text = word := by
  unfold ofWord
  split
  · rename_i reserved known
    exact Keyword.ofWord?_eq_some_iff.1 known
  · rfl

theorem text_ofMark? {c : Char} {symbol : Symbol} (h : ofMark? c = some symbol) :
    symbol.text = String.ofList [c] := by
  unfold ofMark? at h
  split at h <;> simp at h <;> subst h <;> decide

end Symbol

/-- A symbol at a position of a text. -/
structure Token where
  /-- The symbol. -/
  symbol : Symbol
  /-- Where it begins. -/
  position : Position
deriving DecidableEq

/-- A token as it is written. -/
def Token.text (token : Token) : String := token.symbol.text

end Netlist

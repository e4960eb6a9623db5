/-!
# JSON

The part of JSON that a definition needs: `null`, natural numbers, strings,
arrays, and objects whose members keep the order in which they are given.

A value is written in one of two *layouts*.  The compact one has nothing
between its marks.  The indented one has each element on a line of its own, two
spaces deeper than what encloses it, and a space behind each colon.  An empty
array or object has no lines in either.

In a string only what has to be is escaped: the quotation mark, the backslash,
and the characters below the space, five of them with a letter and the others
by code point.
-/

namespace Netlist

/-- A JSON value. -/
inductive Json
  /-- The value `null`. -/
  | null
  /-- A natural number. -/
  | number (n : Nat)
  /-- A string. -/
  | string (s : String)
  /-- A list of values. -/
  | array (items : List Json)
  /-- A list of named values. -/
  | object (members : List (String × Json))

namespace Json

/-! ## Strings -/

/-- The digits of a code point below 256, in lower case. -/
def hexByte (n : Nat) : List Char := [Nat.digitChar (n / 16), Nat.digitChar (n % 16)]

/-- A character as it stands in a string. -/
def escape (c : Char) : List Char :=
  match c with
  | '\x22' => ['\\', '\x22']
  | '\\' => ['\\', '\\']
  | '\x08' => ['\\', 'b']
  | '\x0c' => ['\\', 'f']
  | '\n' => ['\\', 'n']
  | '\r' => ['\\', 'r']
  | '\t' => ['\\', 't']
  | _ => if c.toNat < 32 then ['\\', 'u', '0', '0'] ++ hexByte c.toNat else [c]

/-- A string with its quotation marks. -/
def quote (s : String) : String :=
  String.ofList ('\x22' :: s.toList.flatMap escape ++ ['\x22'])

/-! ## Layout -/

/-- What stands between the marks of a value. -/
structure Layout where
  /-- What stands before an element at a depth, and before the mark that closes one. -/
  line : Nat → String
  /-- What stands between the name of a member and its value. -/
  colon : String

/-- Nothing between the marks. -/
def Layout.compact : Layout where
  line _ := ""
  colon := ":"

/-- Each element on a line of its own, two spaces deeper than what encloses it. -/
def Layout.indented : Layout where
  line depth := "\n" ++ String.ofList (List.replicate (2 * depth) ' ')
  colon := ": "

/-- Written elements between two marks. -/
def enclose (layout : Layout) (depth : Nat) (left right : String) (elements : List String) :
    String :=
  if elements = [] then
    left ++ right
  else
    left ++ layout.line (depth + 1) ++ ("," ++ layout.line (depth + 1)).intercalate elements
      ++ layout.line depth ++ right

/-! ## Values -/

mutual

/-- A value as it is written at a depth. -/
def write (layout : Layout) (depth : Nat) : Json → String
  | null => "null"
  | number n => toString n
  | string s => quote s
  | array items => enclose layout depth "[" "]" (writeItems layout (depth + 1) items)
  | object members => enclose layout depth "\x7b" "\x7d" (writeMembers layout (depth + 1) members)

/-- The elements of an array as they are written at a depth. -/
def writeItems (layout : Layout) (depth : Nat) : List Json → List String
  | [] => []
  | item :: rest => write layout depth item :: writeItems layout depth rest

/-- The members of an object as they are written at a depth. -/
def writeMembers (layout : Layout) (depth : Nat) : List (String × Json) → List String
  | [] => []
  | (name, value) :: rest =>
    (quote name ++ layout.colon ++ write layout depth value) :: writeMembers layout depth rest

end

/-- A value as a text. -/
def text (layout : Layout) (value : Json) : String := value.write layout 0

example : text .compact (object [("a", array [number 1, null]), ("b", array [])]) =
    "\x7b\"a\":[1,null],\"b\":[]\x7d" := by decide +kernel

example : text .indented (array [string "x\n"]) = "[\n  \"x\\n\"\n]" := by decide +kernel

end Json

end Netlist

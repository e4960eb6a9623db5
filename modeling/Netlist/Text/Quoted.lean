import Netlist.Text.Combining
import Netlist.Text.Printable

/-!
# Quoted characters

A message that speaks of one character shows it between apostrophes.  What
would not be readable there is written as an escape: the apostrophe and the
backslash themselves, the four controls that have a letter of their own, and by
code point every character that combines with its neighbour or has no printed
form.
-/

namespace Netlist.Text

/-- The escape of a character by its code point, in lower case and without padding. -/
def codePointEscape (c : Char) : String :=
  "\\u\x7b" ++ String.ofList (Nat.toDigits 16 c.toNat) ++ "\x7d"

/-- A character as it stands between apostrophes. -/
def shown (c : Char) : String :=
  match c with
  | '\x00' => "\\0"
  | '\t' => "\\t"
  | '\r' => "\\r"
  | '\n' => "\\n"
  | '\x27' => "\\'"
  | '\\' => "\\\\"
  | _ => if isCombining c || !isPrintable c then codePointEscape c else c.toString

/-- A character between apostrophes. -/
def quoted (c : Char) : String := "'" ++ shown c ++ "'"

example : quoted '$' = "'$'" ∧ quoted '\t' = "'\\t'" := by decide +kernel

example : quoted '\u0301' = "'\\u\x7b301\x7d'" := by decide +kernel

end Netlist.Text

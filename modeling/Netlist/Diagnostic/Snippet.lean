import Netlist.Diagnostic
import Netlist.Text.Lines

/-!
# Diagnostics shown in their source

A diagnostic is easiest to read below the line that it speaks of.  Its snippet
is five lines: what is wrong, where, an empty line, the source line after its
number, and a row of carets under the text at fault.  A sixth line names the
words that could have been meant, if there are any.

    error: expected a device type, found 'CLK'
     --> line 1, column 15
      |
    1 | (DEVICE g1 is CLK 5)
      |               ^^^
      = help: did you mean 'CLOCK'?

Carriage returns at the end of the source line are left out, and the carets are
indented by the tabs of the source line itself, so that they stand under the
text however wide a tab is.
-/

namespace Netlist.Diagnostic

/-- The line of the source that a position is on, without carriage returns at its end. -/
def shownLine (source : String) (position : Position) : List Char :=
  Text.dropTrailing (· == '\r') ((Text.lines source.toList)[position.line - 1]?.getD [])

/-- What moves the carets under the text at fault: a tab for a tab and a space for all else. -/
def indent (line : List Char) (position : Position) : List Char :=
  (line.take (position.column - 1)).map fun c => if c = '\t' then '\t' else ' '

/-- One caret for each character of the text at fault, and one for the end of the text. -/
def carets (text : String) : List Char :=
  List.replicate (max 1 text.toList.length) '^'

/-- The help about the words that could have been meant. -/
def help? : List String → Option String
  | [] => none
  | [only] => some ("did you mean '" ++ only ++ "'?")
  | several =>
    some ("did you mean one of " ++ ", ".intercalate (several.map fun word => "'" ++ word ++ "'")
      ++ "?")

/-- The lines of the snippet. -/
def snippet (diagnostic : Diagnostic) (source : String) : List String :=
  let position := diagnostic.position
  let number := toString position.line
  let gutter := String.ofList (List.replicate number.length ' ')
  let line := shownLine source position
  ["error: " ++ diagnostic.wording,
    gutter ++ "--> " ++ position.describe,
    gutter ++ " |",
    number ++ " | " ++ String.ofList line,
    gutter ++ " | " ++ String.ofList (indent line position ++ carets diagnostic.text)]
  ++ ((help? diagnostic.suggestions).map fun help => gutter ++ " = help: " ++ help).toList

/-- The snippet as a text, each line ended by a line feed. -/
def render (diagnostic : Diagnostic) (source : String) : String :=
  String.join ((diagnostic.snippet source).map fun line => line ++ "\n")

end Netlist.Diagnostic

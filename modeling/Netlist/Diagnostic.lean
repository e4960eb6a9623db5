import Netlist.Device
import Netlist.Position
import Netlist.Suggestion
import Netlist.Text.Quoted

/-!
# Diagnostics

A *diagnostic* says what is wrong at one position of a definition's text.  A
*lexical error* is text that is no token.  A *syntax error* is a token, or the
end of the text, at a place where the grammar has no use for it.

What went wrong is a *cause*, a value of its own type.  The wording of each
cause is in one place, `LexicalCause.wording` and `SyntaxCause.wording`.  Two
causes speak of a word that should have been a reserved word; for those the
diagnostic carries the reserved words most like it (`SyntaxError.make`).
-/

namespace Netlist

/-! ## Lexical errors -/

/-- Why a piece of text is no token. -/
inductive LexicalCause
  /-- No token begins with this character. -/
  | strayCharacter (character : Char)
  /-- The number has several digits, of which the first is zero. -/
  | leadingZero
  /-- The number does not fit into 32 bits. -/
  | numberTooLarge
  /-- The block comment has no end. -/
  | openComment
deriving DecidableEq

/-- What a message says about the cause. -/
def LexicalCause.wording : LexicalCause → String
  | strayCharacter character => "unrecognized character " ++ Text.quoted character
  | leadingZero => "number has a leading zero"
  | numberTooLarge => "number is too large (maximum " ++ toString (UInt32.size - 1) ++ ")"
  | openComment => "block comment is never closed"

/-- A piece of text that is no token. -/
structure LexicalError where
  /-- Why it is none. -/
  cause : LexicalCause
  /-- The text, or for a comment without end the mark that opens it. -/
  text : String
  /-- Where the text begins. -/
  position : Position
deriving DecidableEq

/-- The message on one line. -/
def LexicalError.message (error : LexicalError) : String :=
  "Lexical error at " ++ error.position.describe ++ ": " ++ error.cause.wording

/-! ## Syntax errors -/

/-- Why a token cannot stand where it does. -/
inductive SyntaxCause
  /-- Something else has to stand there. -/
  | expected (what : String)
  /-- The declared names are not followed by `is` or `are`. -/
  | missingCopula
  /-- The device type takes a number and none follows. -/
  | missingQualifier (type : DeviceType)
  /-- The device type takes no number and one follows. -/
  | unexpectedQualifier (type : DeviceType)
  /-- The source of a connection is not followed by `to`. -/
  | missingTo
  /-- A dot is not followed by the name of a pin. -/
  | danglingDot
  /-- The text ends before the statement does. -/
  | unterminated
  /-- No statement begins with this token. -/
  | unknownStatement
  /-- No device type has this name. -/
  | unknownDeviceType
deriving DecidableEq

namespace SyntaxCause

/-- A statement has to begin. -/
def expectedOpening : SyntaxCause := expected "'('"

/-- The statement has to end. -/
def expectedClosing : SyntaxCause := expected "')'"

/-- A device has to be named. -/
def expectedDevice : SyntaxCause := expected "a device name"

/-- What a message says about the cause. -/
def wording : SyntaxCause → String
  | expected what => "expected " ++ what
  | missingCopula => "expected 'is' or 'are' after device names"
  | missingQualifier type => "device type " ++ type.spelling ++ " requires a number"
  | unexpectedQualifier type => "device type " ++ type.spelling ++ " takes no number"
  | missingTo => "expected 'to' between connection terminals"
  | danglingDot => "expected a pin name after '.'"
  | unterminated => "statement is missing its closing ')'"
  | unknownStatement => "expected DEVICE, CONNECT or MONITOR"
  | unknownDeviceType => "expected a device type"

/-- The words that could have been meant. -/
def candidates : SyntaxCause → List String
  | unknownStatement => Keyword.openers.map Keyword.spelling
  | unknownDeviceType => DeviceType.all.map DeviceType.spelling
  | _ => []

end SyntaxCause

/-- A token, or the end of the text, that cannot stand where it does. -/
structure SyntaxError where
  /-- Why it cannot stand there. -/
  cause : SyntaxCause
  /-- The text of the token, empty at the end of the text. -/
  found : String
  /-- Where the token begins. -/
  position : Position
  /-- Words that could have been meant. -/
  suggestions : List String
deriving DecidableEq

namespace SyntaxError

/-- The error of finding this text at this position, with the words that could have been meant. -/
def make (position : Position) (found : String) (cause : SyntaxCause) : SyntaxError :=
  ⟨cause, found, position, closest found cause.candidates⟩

/-- What a message says about the text that was found. -/
def describeFound (found : String) : String :=
  if found = "" then "end of input" else "'" ++ found ++ "'"

/-- The cause and what was found instead. -/
def wording (error : SyntaxError) : String :=
  error.cause.wording ++ ", found " ++ describeFound error.found

/-- The message on one line. -/
def message (error : SyntaxError) : String :=
  "Syntax error at " ++ error.position.describe ++ ": " ++ error.wording

end SyntaxError

/-! ## Diagnostics -/

/-- What is wrong at one position of a text. -/
inductive Diagnostic
  /-- Text that is no token. -/
  | lexical (error : LexicalError)
  /-- A token out of place. -/
  | syntactic (error : SyntaxError)
deriving DecidableEq

namespace Diagnostic

/-- The error of finding this text at this position. -/
def misplaced (position : Position) (found : String) (cause : SyntaxCause) : Diagnostic :=
  syntactic (.make position found cause)

/-- Where the text at fault begins. -/
def position : Diagnostic → Position
  | lexical error => error.position
  | syntactic error => error.position

/-- The text at fault, empty at the end of the text. -/
def text : Diagnostic → String
  | lexical error => error.text
  | syntactic error => error.found

/-- What is wrong, without the position. -/
def wording : Diagnostic → String
  | lexical error => error.cause.wording
  | syntactic error => error.wording

/-- Words that could have been meant. -/
def suggestions : Diagnostic → List String
  | lexical _ => []
  | syntactic error => error.suggestions

/-- The message on one line. -/
def message : Diagnostic → String
  | lexical error => error.message
  | syntactic error => error.message

end Diagnostic

end Netlist

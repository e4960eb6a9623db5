import Netlist.Diagnostic.Snippet
import Netlist.Reader

/-!
# Definition files

A *source file* is a path together with what the system gives for it: its
bytes, or the reason why there are none.  Reading it can fail in two ways: it
is larger than the caller allows, or its bytes cannot be had or are no text.

The size of a file is the number of its bytes, and a file that is too large is
refused whatever the bytes are.  What has no bytes has no size here.  A system
may know more: it gives a size to a directory, or to a file that may not be
read, and a reader that asks for the size before the bytes calls these too large
under a low limit.  Here they are unreadable under every limit.

A *problem* is anything that keeps a file from being a definition: the file
could not be read, or its text is at fault.
-/

namespace Netlist

/-- Why the text of a file cannot be had. -/
inductive ReadFailure
  /-- There is no such file. -/
  | notFound
  /-- The bytes are not UTF-8. -/
  | notText
  /-- The system gives another reason. -/
  | other (reason : String)
deriving DecidableEq

/-- The reason in words. -/
def ReadFailure.wording : ReadFailure → String
  | notFound => "No such file or directory (os error 2)"
  | notText => "stream did not contain valid UTF-8"
  | other reason => reason

/-- Why a file is not read. -/
inductive FileError
  /-- Its text cannot be had. -/
  | unreadable (path : String) (failure : ReadFailure)
  /-- It has more bytes than the caller allows. -/
  | tooLarge (path : String) (size limit : Nat)
deriving DecidableEq

namespace FileError

/-- The message on one line. -/
def message : FileError → String
  | unreadable path failure =>
    "Failed to read definition file '" ++ path ++ "': " ++ failure.wording
  | tooLarge path size limit =>
    "Definition file '" ++ path ++ "' is " ++ toString size ++ " bytes, exceeding the limit of "
      ++ toString limit ++ " bytes"

/-- The message as it is printed. -/
def render (error : FileError) : String := "error: " ++ error.message ++ "\n"

end FileError

/-- A file that may hold a definition. -/
structure SourceFile where
  /-- Where it is. -/
  path : String
  /-- Its bytes, or why there are none. -/
  content : Except ReadFailure ByteArray

namespace SourceFile

/-- The text of a file, if the file has no more bytes than the limit.  Where there are no bytes, the
limit does not count. -/
def read (file : SourceFile) (limit : Option Nat) : Except FileError String :=
  match file.content with
  | .error failure => .error (.unreadable file.path failure)
  | .ok bytes =>
    if limit.any (· < bytes.size) then
      .error (.tooLarge file.path bytes.size (limit.getD 0))
    else
      match String.fromUTF8? bytes with
      | some text => .ok text
      | none => .error (.unreadable file.path .notText)

example (path reason : String) (limit : Option Nat) :
    read ⟨path, .error (.other reason)⟩ limit = .error (.unreadable path (.other reason)) := rfl

end SourceFile

/-- What keeps a file from being a definition. -/
inductive Problem
  /-- It could not be read. -/
  | file (error : FileError)
  /-- Its text is at fault. -/
  | text (diagnostic : Diagnostic)
deriving DecidableEq

namespace Problem

/-- The message on one line. -/
def message : Problem → String
  | file error => error.message
  | text diagnostic => diagnostic.message

/-- The problem as it is printed, shown in the source if it is about the text. -/
def render (problem : Problem) (source : String) : String :=
  match problem with
  | file error => error.render
  | text diagnostic => diagnostic.render source

end Problem

/-- The definition that a file holds. -/
def SourceFile.parse (file : SourceFile) : Except Problem Definition :=
  match file.read none with
  | .error error => .error (.file error)
  | .ok source => (Netlist.parse .default source).mapError .text

end Netlist

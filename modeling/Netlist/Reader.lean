import Netlist.Config
import Netlist.Definition
import Netlist.Phase

/-!
# Readers

A *reader* holds the items of a text that are still to be read, and can be
asked for them more than once.  It is always one item ahead: the first of its
items has been read, and only what is done with it is still open.  Asking for a
definition with `Reader.parse` stops at the first error; asking for the errors
with `Reader.check` collects them.  Both answer with a reader that goes on
where they stopped.

An item that is no token is reported once.  If a reading stops at it, the text
is *spoiled* there: the reader still stands at that position, and the next
question finds nothing there that could open a statement.
-/

namespace Netlist

/-- The items of a text that are still to be read. -/
structure Reader where
  /-- How they are read. -/
  config : Config
  /-- The end of the text. -/
  stop : Position
  /-- Where the reader stands if the text there was already reported to be no token. -/
  spoiled : Option Position
  /-- The items to come. -/
  items : List Item

/-- What a reader answers. -/
structure Answer (α : Type) where
  /-- The answer. -/
  value : α
  /-- What happened on the way. -/
  events : List Event
  /-- The reader that goes on. -/
  reader : Reader

namespace Reader

/-- A reader for what is still to come in a text. -/
def ofCursor (config : Config) (cursor : Cursor) : Reader where
  config := config
  stop := cursor.stop
  spoiled := none
  items := cursor.items config.comments

/-- A reader for a whole text. -/
def ofText (config : Config) (text : String) : Reader :=
  ofCursor config (.ofText text)

/-- What happens when a reader is made: it reads its first item. -/
def opening (reader : Reader) : List Event := Item.reading reader.items

/-- The reader that goes on with some items after a reading stopped at the first of them. -/
def resume (reader : Reader) : List Item → Reader
  | .fault e :: rest => { reader with spoiled := some e.position, items := rest }
  | items => { reader with spoiled := none, items }

/-- The error of standing at text that was already reported. -/
def stuck (position : Position) : Diagnostic := .misplaced position "" .expectedOpening

/-- The definition in the items to come, or the first error. -/
def parse (reader : Reader) : Answer (Except Diagnostic Definition) :=
  match reader.spoiled with
  | some position => ⟨.error (stuck position), [.error (stuck position)], reader⟩
  | none =>
    let trail := Phase.parse reader.stop .outside reader.items
    let next := reader.resume trail.rest
    match Event.errors trail.events with
    | [] =>
      let statements := Event.statements trail.events
      ⟨.ok ⟨statements⟩, trail.events ++ [.parsed statements.length], next⟩
    | error :: _ => ⟨.error error, trail.events, next⟩

/-- Whether the first item to come is no token. -/
def beginsWithFault (reader : Reader) : Bool :=
  match reader.items with
  | .fault _ :: _ => true
  | _ => false

/-- The record of a check, and the reader that goes on.  Where no error may be reported nothing is
done, unless the first item was found to be no token when the reader was made. -/
def checkEvents (reader : Reader) : List Event × Reader :=
  let cap := reader.config.maxErrors
  match reader.spoiled with
  | some position =>
    if cap = 0 then
      ([], reader)
    else
      let trail := Phase.check reader.stop (.lost position) (cap - 1) reader.items
      (.error (stuck position) :: Item.reading reader.items ++ trail.events,
        reader.resume trail.rest)
  | none =>
    if cap = 0 ∧ ¬reader.beginsWithFault then
      ([], reader)
    else
      let trail := Phase.check reader.stop .outside cap reader.items
      (trail.events, reader.resume trail.rest)

/-- The errors in the items to come, up to the limit of the settings. -/
def check (reader : Reader) : Answer (List Diagnostic) :=
  let record := reader.checkEvents
  let errors := (Event.errors record.1).take reader.config.maxErrors
  ⟨errors, record.1 ++ [.checked errors.length], record.2⟩

end Reader

/-! ## Whole texts -/

/-- The definition that a text holds, or the first error. -/
def parse (config : Config) (text : String) : Except Diagnostic Definition :=
  (Reader.ofText config text).parse.value

/-- The errors in a text, up to the limit of the settings. -/
def check (config : Config) (text : String) : List Diagnostic :=
  (Reader.ofText config text).check.value

end Netlist

import Netlist.Diagnostic.Snippet
import Netlist.Reader

/-!
# The checker inside an editor

An editor checks a text while it is written.  It shows the snippets of all
errors, and for a text without errors an *outline*: what the definition
amounts to, and its canonical text.
-/

namespace Netlist.Editor

/-- What an editor shows of a definition. -/
structure Outline where
  /-- The number of statements. -/
  statements : Nat
  /-- The number of declared devices. -/
  devices : Nat
  /-- The canonical text. -/
  canonical : String
deriving DecidableEq

/-- The outline of a definition. -/
def Outline.of (definition : Definition) : Outline where
  statements := definition.size
  devices := definition.deviceCount
  canonical := definition.text

/-- The outline of a text, or the snippet of its first error. -/
def outline (source : String) : Except String Outline :=
  match parse .default source with
  | .ok definition => .ok (.of definition)
  | .error diagnostic => .error (diagnostic.render source)

/-- The snippets of all errors in a text. -/
def snippets (source : String) : List String :=
  (check .default source).map fun diagnostic => diagnostic.render source

end Netlist.Editor

import Stencil.Fault
/-!
# Log lines

What the engine reports as it works, one line per call: information, warnings, and errors
with the fault they report.
-/

namespace Stencil

/-- How much a log line matters. -/
inductive Level where
  | info
  | warn
  | error
deriving DecidableEq, Repr

/-- A line logged: information, a warning, or a fault. -/
inductive LogLine where
  | info (msg : String)
  | warn (msg : String)
  | error (f : Fault)

namespace LogLine

/-- The level of a line. -/
def level : LogLine → Level
  | .info _ => .info
  | .warn _ => .warn
  | .error _ => .error

/-- The text of a line: its message, or the full text of its fault. -/
def text : LogLine → String
  | .info msg => msg
  | .warn msg => msg
  | .error f => f.text

/-- The line as a recorder keeps it: the level's name, a space, and the text. -/
def render (l : LogLine) : String :=
  (match l.level with
    | .info => "INFO "
    | .warn => "WARN "
    | .error => "ERROR ") ++ l.text

end LogLine

end Stencil

import Stencil.Log.Render
import Stencil.Terminal.Color
/-!
# Loggers and handlers

A *handler* writes lines in the pretty form. It drops lines below its least severity, keeps
attributes given ahead of the lines, and a group prefix for the keys of every attribute. Painted,
a line takes the colour of its level: red for errors, amber for warnings, slate otherwise.

A *logger* is what the engine logs through. It writes each line in the pretty or the structured
form, into its own output or, once sent to the process's error stream, where nothing is kept.
Faults go through the pretty form as their report and through the structured form as the
attribute `error` of the message `operation failed`.
-/

namespace Stencil

/-- The level of a severity: from 8 up an error, from 4 up a warning, else information. -/
def Level.ofSeverity (n : Int) : Level :=
  if n ≥ 8 then .error else if n ≥ 4 then .warn else .info

/-- The colour of a level. -/
def Level.color : Level → Terminal.Tint
  | .error => Terminal.red
  | .warn => Terminal.yellow
  | .info => Terminal.slate

/-- A handler of the pretty form. -/
structure PrettyHandler where
  minimum : Int := 0
  attrs : List (String × AttrValue) := []
  group : String := ""

namespace PrettyHandler

/-- The handler with attributes added after those it has. -/
def withAttrs (h : PrettyHandler) (attrs : List (String × AttrValue)) : PrettyHandler :=
  { h with attrs := h.attrs ++ attrs }

/-- The handler inside a group, nested in the group it is in. -/
def withGroup (h : PrettyHandler) (name : String) : PrettyHandler :=
  if name.isEmpty then h
  else { h with group := if h.group.isEmpty then name else h.group ++ "." ++ name }

/-- Whether a line of a severity is written. -/
def enabled (h : PrettyHandler) (severity : Int) : Bool :=
  severity ≥ h.minimum

/-- The text a line adds to the output, painted or not. -/
def handle (h : PrettyHandler) (painted : Bool) (severity : Int) (msg : String)
    (attrs : List (String × AttrValue)) : String :=
  let level := Level.ofSeverity severity
  Terminal.paint painted level.color (prettyLine level msg h.group (h.attrs ++ attrs)) ++ "\n"

end PrettyHandler

/-- A logger: the form it writes, and whether its output is kept. -/
structure Logger where
  structured : Bool := false
  kept : Bool := true

namespace Logger

/-- The text a line adds to the kept output, logged at `time`; painted lines only in the pretty
form. -/
def write (lg : Logger) (painted : Bool) (time : String) (l : LogLine) : String :=
  if !lg.kept then ""
  else if lg.structured then l.structured time ++ "\n"
  else ({} : PrettyHandler).handle painted (match l.level with
    | .info => 0
    | .warn => 4
    | .error => 8) l.prettyText []

end Logger

end Stencil

import Stencil.Files.Tree
import Stencil.Fault
import Stencil.Trace
/-!
# The host

What the engine runs against: the files of the machine, and the lines it has logged, traced
operations among them. Work that touches either runs in the host's state.
-/

namespace Stencil

/-- The files of the machine, the lines logged so far, whether operations are traced, and the
text that stands for the time a traced operation took. -/
structure Host where
  files : FileTree
  log : Array LogLine := #[]
  tracing : Bool := false
  elapsed : String := ""
deriving Inhabited

/-- Computations against the host. -/
abbrev HostM := StateM Host

namespace Host

/-- Logs a line. -/
def record (l : LogLine) : HostM Unit :=
  modify fun h => { h with log := h.log.push l }

/-- Logs information. -/
def info (msg : String) : HostM Unit := record (.info msg)

/-- Logs a warning. -/
def warn (msg : String) : HostM Unit := record (.warn msg)

/-- Logs a fault. -/
def error (f : Fault) : HostM Unit := record (.error f)

/-- Ends a span: logs its line when operations are traced. -/
def finish (s : Span) : HostM Unit := do
  let h ← get
  if h.tracing then record (s.line h.elapsed)

/-- The files as they are now. -/
def tree : HostM FileTree := do return (← get).files

/-- Replaces the files. -/
def setTree (t : FileTree) : HostM Unit := modify fun h => { h with files := t }

end Host

end Stencil

import Stencil.Log
import Stencil.Format.Json
/-!
# Traces

A span covers one operation: it has a name, attributes, and perhaps a failure. Setting an
attribute again replaces its value and keeps its place. When a traced span ends it is logged as
one line: `trace`, the name, the time it took, and the attributes as `key=value`; information
when it went well, a warning ending in `failed:` and the failure otherwise.
-/

namespace Stencil

/-- The value of a span attribute. -/
inductive SpanValue where
  | text (s : String)
  | int (n : Int)
  | real (x : Double.Finite)
  | flag (b : Bool)
  | texts (xs : List String)
deriving Inhabited

/-- The text of a span attribute: a list is a JSON array with markup characters escaped. -/
def SpanValue.emit : SpanValue → String
  | .text s => s
  | .int n => toString n
  | .real x => x.format .general
  | .flag b => if b then "true" else "false"
  | .texts xs => (JsonValue.array (xs.map .string)).compact JsonValue.quoteMarkup

/-- A span: its name, its attributes in the order first set, and its failure. -/
structure Span where
  name : String
  attrs : List (String × SpanValue) := []
  failure : Option String := none
deriving Inhabited

namespace Span

/-- Sets an attribute: a new key goes last, a known key keeps its place. -/
def set (s : Span) (key : String) (v : SpanValue) : Span :=
  if s.attrs.any (·.1 == key) then
    { s with attrs := s.attrs.map fun (k, w) => if k == key then (k, v) else (k, w) }
  else { s with attrs := s.attrs ++ [(key, v)] }

/-- Records a failure; a later one replaces an earlier. -/
def fail (s : Span) (msg : String) : Span :=
  { s with failure := some msg }

/-- The line logged when the span ends, `elapsed` standing for the time it took. -/
def line (s : Span) (elapsed : String) : LogLine :=
  let text := "trace " ++ s.name ++ " " ++ elapsed ++
    String.join (s.attrs.map fun (k, v) => " " ++ k ++ "=" ++ v.emit)
  match s.failure with
  | some msg => .warn (text ++ " failed: " ++ msg)
  | none => .info text

end Span

/-- Open spans, the innermost first, and whether ended spans are logged. -/
structure Tracer where
  open_ : List Span := []
  logging : Bool := true

namespace Tracer

/-- Opens a span inside the current one. -/
def start (t : Tracer) (name : String) (attrs : List (String × SpanValue)) : Tracer :=
  { t with open_ := attrs.foldl (fun s (k, v) => s.set k v) { name } :: t.open_ }

/-- Applies a change to the innermost open span, if there is one. -/
def change (t : Tracer) (f : Span → Span) : Tracer :=
  match t.open_ with
  | s :: rest => { t with open_ := f s :: rest }
  | [] => t

/-- Ends the innermost open span: the line it logs, if any. -/
def finish (t : Tracer) (elapsed : String) : Option LogLine × Tracer :=
  match t.open_ with
  | s :: rest => (if t.logging then some (s.line elapsed) else none, { t with open_ := rest })
  | [] => (none, t)

end Tracer

end Stencil

import Stencil.Numeric.Decimal
/-!
# Faults

A fault is a chain of messages. The innermost link is a *condition* the engine names (a template
that cannot be found, a corrupt view cache, ...), a message of its own, or the text of a failure
from outside the engine (a file that cannot be opened). Each outer link adds a message that says
what was being attempted, and may carry details (the view, the directive) that do not show in the
text. Several faults can also be reported together, one per line.

The text of a fault is its messages from the outside in, joined by `": "`.
-/

namespace Stencil

/-- The conditions the engine names. Each has one fixed sentence. -/
inductive Condition where
  | notConfigured
  | noTemplatesFound
  | templateNotFound
  | templateOutsideRoots
  | templateReadFailed
  | layoutDepthExceeded
  | reloadTimeout
  | cacheCorrupt
  | cacheReadFailed
  | cacheCreateFailed
  | cacheMarshalFailed
  | cacheWriteFailed
  | invalidCacheBackend
  | invalidCacheFormat
  | configReadFailed
  | configParseFailed
  | configEnvFailed
  | tokenExhausted
  | watcherStartFailed
  | noApplication
  | actionNotFound
  | invalidTag
deriving DecidableEq, Repr

/-- The sentence of a condition. -/
def Condition.text : Condition → String
  | .notConfigured => "at least one view root is required to load view templates from"
  | .noTemplatesFound => "failed to load any view templates"
  | .templateNotFound => "template not found"
  | .templateOutsideRoots => "template path is outside every view root"
  | .templateReadFailed => "failed to read template"
  | .layoutDepthExceeded => "layout nesting too deep"
  | .reloadTimeout => "timed out waiting for template to become readable"
  | .cacheCorrupt => "view cache is corrupt"
  | .cacheReadFailed => "failed to read view cache"
  | .cacheCreateFailed => "failed to create view cache location"
  | .cacheMarshalFailed => "failed to encode view cache"
  | .cacheWriteFailed => "failed to write view cache"
  | .invalidCacheBackend => "invalid cache backend, expected 'file' or 'sqlite'"
  | .invalidCacheFormat => "invalid cache format, expected 'json' or 'yaml'"
  | .configReadFailed => "failed to read config file"
  | .configParseFailed => "failed to parse config file"
  | .configEnvFailed => "failed to apply environment overrides"
  | .tokenExhausted => "failed to mint a unique anti-forgery token"
  | .watcherStartFailed => "failed to start template watcher"
  | .noApplication => "no application registered"
  | .actionNotFound => "action not found"
  | .invalidTag => "tag must be in key=value form"

/-- A value attached to a fault as a detail. -/
inductive Detail where
  | text (s : String)
  | int (n : Int)
  | real (x : Double.Finite)
  | flag (b : Bool)
  | texts (xs : List String)

/-- A chain of failure messages. -/
inductive Fault where
  /-- A condition the engine names. -/
  | condition (c : Condition)
  /-- A message with its details, around an optional inner fault. -/
  | note (msg : String) (details : List (String × Detail)) (cause : Option Fault)
  /-- The text of a failure from outside the engine. -/
  | foreign (text : String)
  /-- Several faults reported together. -/
  | joined (parts : List Fault)
deriving Inhabited

namespace Fault

/-- A new fault with a message of its own. -/
def plain (msg : String) : Fault :=
  .note msg [] none

/-- Adds the message `msg` around `f`. -/
def wrap (f : Fault) (msg : String) : Fault :=
  .note msg [] (some f)

/-- Attaches a detail to the outermost message, after those it has; a key may come again. -/
def withDetail (f : Fault) (key : String) (value : Detail) : Fault :=
  match f with
  | .note msg ds cause => .note msg (ds ++ [(key, value)]) cause
  | other => other

/-- Attaches a text detail. -/
def about (f : Fault) (key value : String) : Fault :=
  f.withDetail key (.text value)

mutual
/-- The text of a fault: its messages from the outside in, joined by `": "`; faults reported
together stand on lines of their own. -/
def text : Fault → String
  | .condition c => c.text
  | .note msg _ none => msg
  | .note msg _ (some inner) => msg ++ ": " ++ inner.text
  | .foreign t => t
  | .joined parts => textLines parts

/-- The texts of faults reported together, one per line. -/
def textLines : List Fault → String
  | [] => ""
  | [f] => f.text
  | f :: rest => f.text ++ "\n" ++ textLines rest
end

mutual
/-- Whether the condition `c` occurs anywhere in the fault. -/
def involves (c : Condition) : Fault → Bool
  | .condition c' => c == c'
  | .note _ _ none => false
  | .note _ _ (some inner) => involves c inner
  | .foreign _ => false
  | .joined parts => involvesAny c parts

/-- Whether the condition `c` occurs in one of the faults. -/
def involvesAny (c : Condition) : List Fault → Bool
  | [] => false
  | f :: rest => involves c f || involvesAny c rest
end

mutual
/-- Whether a failure from outside with text `t` occurs anywhere in the fault. -/
def mentionsForeign (t : String) : Fault → Bool
  | .foreign t' => t == t'
  | .note _ _ none => false
  | .note _ _ (some inner) => mentionsForeign t inner
  | .condition _ => false
  | .joined parts => mentionsForeignAny t parts

/-- Whether a failure from outside with text `t` occurs in one of the faults. -/
def mentionsForeignAny (t : String) : List Fault → Bool
  | [] => false
  | f :: rest => mentionsForeign t f || mentionsForeignAny t rest
end

/-- Reports the faults together; none at all is no fault. -/
def join : List Fault → Option Fault
  | [] => none
  | fs => some (.joined fs)

end Fault

end Stencil

import Stencil.Log
import Stencil.Format.Json
import Stencil.Text.Duration
import Stencil.Text.Quote
import Stencil.Text.Hex
/-!
# Log lines as text

Two forms of a log line. The *pretty* form is for people: a mark for the level (`!` for a warning,
`✗` for an error), the message, the *subjects* (the values of the keys `view`, `path`, `route`
and `location`, in that order) in brackets, then the other attributes as `key=value`. A fault is
reported as its first link after `Error: `, then under `Caused by:` each inner link after an
arrow; each link shows its subjects in brackets and its other details sorted by key, one per line,
a key given twice showing its later value.

The *structured* form is one JSON object per line: the time, the level, the message and the
attributes. A fault there is an object of its message, its details in order (a key given twice
stands twice) and its cause, down to a failure from outside, which is its text.
-/

namespace Stencil

/-- The keys whose values say what a message is about. -/
def subjectKeys : List String := ["view", "path", "route", "location"]

/-- The non-empty subjects among key-value pairs, in the order of the subject keys, in brackets;
empty when there are none. For a key given twice the later value counts. -/
def bracketSubjects (pairs : List (String × String)) : String :=
  let values := subjectKeys.filterMap fun k =>
    match (pairs.reverse.lookup k) with
    | some v => if v.isEmpty then none else some v
    | none => none
  if values.isEmpty then "" else "[" ++ " ".intercalate values ++ "]"

namespace Detail

/-- The plain text of a detail: lists in brackets with spaces between the items. -/
def display : Detail → String
  | .text s => s
  | .int n => toString n
  | .real x => x.format .general
  | .flag b => if b then "true" else "false"
  | .texts xs => "[" ++ " ".intercalate xs ++ "]"

/-- A detail as a JSON value. -/
def toJson : Detail → JsonValue
  | .text s => .string s
  | .int n => .number (toString n)
  | .real x => .number (x.format .interchange)
  | .flag b => .bool b
  | .texts xs => .array (xs.map .string)

end Detail

/-- One link of a fault as a report shows it: a message and its details. -/
structure Link where
  msg : String
  details : List (String × Detail)

namespace Fault

/-- The links of a fault from the outside in. A link with neither message nor details is left
out; a failure from outside, or faults reported together, end the chain with their text. -/
def links : Fault → List Link
  | .condition c => [⟨c.text, []⟩]
  | .note msg ds cause =>
    (if msg != "" || !ds.isEmpty then [⟨msg, ds⟩] else []) ++
      match cause with
      | some inner => links inner
      | none => []
  | .foreign t => [⟨t, []⟩]
  | .joined parts => [⟨(Fault.joined parts).text, []⟩]

/-- The lines of one link: the head and the first line of the message with its subjects, the
further lines of the message, then the other details sorted by key, the last value of a key that
comes again. -/
def linkLines (head indent : String) (l : Link) : List String :=
  let lines := l.msg.splitOn "\n"
  let subjects := bracketSubjects (l.details.filterMap fun (k, v) =>
    if subjectKeys.contains k then some (k, v.display) else none)
  let first := lines.headD "" ++ (if subjects.isEmpty then "" else " " ++ subjects)
  let latest := l.details.filter fun (k, _) => !subjectKeys.contains k
  let latest := latest.zipIdx.filterMap fun ((k, v), i) =>
    if (latest.drop (i + 1)).any (·.1 == k) then none else some (k, v)
  let rest := latest.mergeSort fun a b => decide (a.1 ≤ b.1)
  [head ++ first] ++ (lines.drop 1).map (indent ++ ·) ++
    rest.map fun (k, v) => indent ++ k ++ ": " ++ v.display

/-- The report of a fault for people: `Error: ` and the first link, then the inner links under
`Caused by:`. -/
def report (f : Fault) : String :=
  let ls := f.links
  let first := match ls.head? with
    | some l => linkLines "Error: " "       " l
    | none => []
  let inner := (ls.drop 1).flatMap (linkLines "    → " "      ")
  "\n".intercalate (first ++ (if inner.isEmpty then [] else ["", "  Caused by:"] ++ inner))

/-- A fault as a JSON value: a failure from outside, or faults reported together, as their text;
otherwise an object of the message, the details in order, and the cause. -/
def toJson : Fault → JsonValue
  | .condition c => .object [("msg", .string c.text)]
  | .note msg ds cause =>
    .object ([("msg", .string msg)] ++ ds.map (fun (k, v) => (k, v.toJson)) ++
      match cause with
      | some inner => [("cause", toJson inner)]
      | none => [])
  | .foreign t => .string t
  | .joined parts => .string (Fault.joined parts).text

end Fault

/-- The value of an attribute of a log line. -/
inductive AttrValue where
  | text (s : String)
  | int (n : Int)
  | flag (b : Bool)
  | real (x : Double.Finite)
  | duration (ns : Int)
  | group (attrs : List (String × AttrValue))
deriving Inhabited

namespace AttrValue

mutual
/-- The plain text of a value; a group is its attributes as `key=value` in brackets. -/
def display : AttrValue → String
  | .text s => s
  | .int n => toString n
  | .flag b => if b then "true" else "false"
  | .real x => x.format .general
  | .duration ns => Duration.format ns
  | .group attrs => "[" ++ displayAll attrs ++ "]"

/-- Attributes as `key=value` separated by spaces. -/
def displayAll : List (String × AttrValue) → String
  | [] => ""
  | [(k, v)] => k ++ "=" ++ display v
  | (k, v) :: rest => k ++ "=" ++ display v ++ " " ++ displayAll rest
end

end AttrValue

/-- An attribute as the pretty form writes it: under a group prefix, a length of time rounded to
milliseconds, and the value quoted when it is empty or holds a space, tab, line break, quote or
equals sign. -/
def prettyAttr (group : String) (key : String) (v : AttrValue) : String :=
  let key := if group.isEmpty then key else group ++ "." ++ key
  let value := match v with
    | .duration ns => Duration.format (Duration.roundTo ns 1000000)
    | other => other.display
  let value := if value.isEmpty || value.toList.any (fun c => " \t\n\"=".toList.contains c) then Text.quote value
    else value
  key ++ "=" ++ value

/-- The mark of a level in the pretty form, with the space after it. -/
def Level.mark : Level → String
  | .error => "✗ "
  | .warn => "! "
  | .info => ""

/-- The pretty form of a line, without colour: the mark, the message, the subjects and the other
attributes. Subjects are taken only outside a group. -/
def prettyLine (level : Level) (msg : String) (group : String)
    (attrs : List (String × AttrValue)) : String :=
  let isSubject (k : String) := group.isEmpty && subjectKeys.contains k
  let subjects := bracketSubjects (attrs.filterMap fun (k, v) =>
    if isSubject k then some (k, v.display) else none)
  let parts := (attrs.filter fun (k, _) => !isSubject k).map fun (k, v) => prettyAttr group k v
  level.mark ++ msg ++ (if subjects.isEmpty then "" else " " ++ subjects) ++
    (if parts.isEmpty then "" else " " ++ " ".intercalate parts)

/-- A string literal of the structured form: quotes, backslashes and control characters escaped
(line breaks, returns and tabs by their short escapes, the rest as `\u00XX`), and the line and
paragraph separators escaped. -/
def logQuote (s : String) : String :=
  let esc (c : Char) : List Char :=
    match c with
    | '"' => ['\\', '"']
    | '\\' => ['\\', '\\']
    | '\n' => ['\\', 'n']
    | '\r' => ['\\', 'r']
    | '\t' => ['\\', 't']
    | _ =>
      if c.toNat < 0x20 || c.toNat == 0x2028 || c.toNat == 0x2029 then
        ['\\', 'u'] ++ Text.hexDigits 4 c.toNat
      else [c]
  String.ofList ('"' :: s.toList.flatMap esc ++ ['"'])

mutual
/-- A fault's value in the structured form: its texts and keys as the log writes strings, and
lists and numbers as JSON writes them, markup characters unescaped. -/
def attrJson : JsonValue → String
  | .string s => logQuote s
  | .object ms => "\x7b" ++ attrMembers ms ++ "\x7d"
  | v => v.compact JsonValue.quote

/-- The members of a fault's object in the structured form, separated by commas. -/
def attrMembers : List (String × JsonValue) → String
  | [] => ""
  | [(k, v)] => logQuote k ++ ":" ++ attrJson v
  | (k, v) :: ms => logQuote k ++ ":" ++ attrJson v ++ "," ++ attrMembers ms
end

/-- The name of a level in the structured form. -/
def Level.name : Level → String
  | .info => "INFO"
  | .warn => "WARN"
  | .error => "ERROR"

namespace LogLine

/-- The message and attributes of a line in the pretty form: a fault becomes its report. -/
def prettyText : LogLine → String
  | .info msg => msg
  | .warn msg => msg
  | .error f => f.report

/-- The structured form of a line logged at `time`: a fault is logged as `operation failed` with
the fault as the attribute `error`. -/
def structured (time : String) (l : LogLine) : String :=
  let head := "\x7b\"time\":" ++ logQuote time ++ ",\"level\":" ++ logQuote l.level.name ++
    ",\"msg\":"
  match l with
  | .info msg | .warn msg => head ++ logQuote msg ++ "\x7d"
  | .error f =>
    let value := attrJson f.toJson
    head ++ logQuote "operation failed" ++ ",\"error\":" ++ value ++ "\x7d"

end LogLine

end Stencil

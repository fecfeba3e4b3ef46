import Stencil.Config.File
import Stencil.Text.Duration
import Stencil.Text.Quote
import Stencil.Text.Search
/-!
# Settings from the environment

Variables named `MONTAUK_*` override the project file, field by field: `MONTAUK_ROOT`,
`MONTAUK_VIEWS` (a comma-separated list), `MONTAUK_DEBUG`, `MONTAUK_RESOURCES`, the three
`MONTAUK_CACHE_*`, the three `MONTAUK_WATCH_*`, and `MONTAUK_BUNDLES`, a comma-separated list of
`name=files` pairs. A variable that is unset or empty changes nothing.

A value that does not read as its field's type is reported with the field's name and type, and
every such value is reported, in the order of the fields, as one message starting `env:`.
-/

namespace Stencil

/-- The variables of an environment, by name. -/
abbrev Environment := List (String × String)

namespace Environment

/-- The nonempty value of a variable. -/
def value (env : Environment) (name : String) : Option String :=
  match env.lookup name with
  | some v => if v.isEmpty then none else some v
  | none => none

end Environment

/-- Reads a truth value the way the standard parser does: `1`, `t`, `T`, `true`, `TRUE`,
`True` and their false counterparts. -/
def parseBool (s : String) : Except String Bool :=
  if ["1", "t", "T", "TRUE", "true", "True"].contains s then .ok true
  else if ["0", "f", "F", "FALSE", "false", "False"].contains s then .ok false
  else .error ("strconv.ParseBool: parsing " ++ Text.quote s ++ ": invalid syntax")

/-- Reads a decimal integer that must fit in 32 signed bits, with an optional sign. -/
def parseInt32 (s : String) : Except String Int :=
  let cs := s.toList
  let (neg, ds) := match cs with
    | '-' :: r => (true, r)
    | '+' :: r => (false, r)
    | r => (false, r)
  if ds.isEmpty || !ds.all (fun c => '0' ≤ c && c ≤ '9') then
    .error ("strconv.ParseInt: parsing " ++ Text.quote s ++ ": invalid syntax")
  else
    let n : Nat := ds.foldl (fun n c => n * 10 + (c.toNat - 48)) 0
    let v : Int := if neg then -(n : Int) else n
    if v < -(Nat.pow 2 31 : Int) || v ≥ Nat.pow 2 31 then
      .error ("strconv.ParseInt: parsing " ++ Text.quote s ++ ": value out of range")
    else .ok v

/-- The report of a value that does not read as its field's type. -/
def fieldError (field type msg : String) : String :=
  "parse error on field " ++ Text.quote field ++ " of type " ++ Text.quote type ++ ": " ++ msg

/-- Reads the `name=files` pairs of the bundle overrides. -/
def parsePairs (s : String) : Except String (List (String × String)) :=
  (Text.cut s ",").foldlM (fun acc part =>
    match Text.cut part "=" with
    | k :: v :: rest => .ok (acc ++ [(k, "=".intercalate (v :: rest))])
    | _ => .error (Text.quote part ++ " should be in \"key=value\" format")) []

/-- Sets the entry of a key in a list of pairs: in place if present, else at the end. -/
def setPair {α : Type} (ps : List (String × α)) (k : String) (v : α) : List (String × α) :=
  if ps.any (·.1 == k) then ps.map fun (k', v') => if k' == k then (k', v) else (k', v')
  else ps ++ [(k, v)]

namespace ConfigFile

/-- Applies the environment to what the project file set; the settings, or the report of every
value that does not read. -/
def applyEnvironment (f : ConfigFile) (env : Environment) : Except String ConfigFile :=
  let step {α : Type} (acc : ConfigFile × List String) (name field type : String)
      (read : String → Except String α) (put : ConfigFile → α → ConfigFile) :
      ConfigFile × List String :=
    match env.value name with
    | none => acc
    | some raw =>
      match read raw with
      | .ok v => (put acc.1 v, acc.2)
      | .error e => (acc.1, acc.2 ++ [fieldError field type e])
  let text (s : String) : Except String String := .ok s
  let duration (s : String) : Except String Int :=
    match Duration.parse s with
    | .ok d => .ok d
    | .error e => .error ("unable to parse duration: " ++ e)
  let acc := (f, ([] : List String))
  let acc := step acc "MONTAUK_ROOT" "Root" "string" text fun f v => { f with root := v }
  let acc := step acc "MONTAUK_VIEWS" "Views" "[]string" (fun s => .ok (Text.cut s ","))
    fun f v => { f with views := v }
  let acc := step acc "MONTAUK_DEBUG" "Debug" "bool" parseBool fun f v => { f with debug := v }
  let acc := step acc "MONTAUK_RESOURCES" "Resources" "string" text
    fun f v => { f with resources := v }
  let acc := step acc "MONTAUK_CACHE_BACKEND" "Backend" "string" text
    fun f v => { f with backend := v }
  let acc := step acc "MONTAUK_CACHE_FORMAT" "Format" "string" text
    fun f v => { f with format := v }
  let acc := step acc "MONTAUK_CACHE_PATH" "Path" "string" text fun f v => { f with path := v }
  let acc := step acc "MONTAUK_WATCH_INTERVAL" "Interval" "time.Duration" duration
    fun f v => { f with interval := v }
  let acc := step acc "MONTAUK_WATCH_ATTEMPTS" "Attempts" "int" parseInt32
    fun f v => { f with attempts := v }
  let acc := step acc "MONTAUK_WATCH_DEBOUNCE" "Debounce" "time.Duration" duration
    fun f v => { f with debounce := v }
  let acc := step acc "MONTAUK_BUNDLES" "BundleOverrides" "map[string]string" parsePairs
    fun f v => { f with bundleOverrides := v.foldl (fun ps (k, x) => setPair ps k x) [] }
  match acc with
  | (f, []) => .ok f
  | (_, errs) =>
    let body := String.join (errs.map fun e => " " ++ e ++ ";")
    let trimmed := (("env:" ++ body).toList.reverse.dropWhile (· == ';')).reverse
    .error (String.ofList trimmed)

end ConfigFile

end Stencil

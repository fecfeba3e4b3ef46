import Stencil.Text.Scan
import Stencil.Numeric.Double
/-!
# What a plain YAML scalar means

A scalar written without quotes may stand for something other than text: `null` and `~`, the
booleans `true` and `false`, numbers in decimal, octal, hexadecimal or binary, floats including
`.inf` and `.nan`, dates, and the merge key `<<`. The first character decides which readings are
tried. Text that would read as one of these, or as a boolean or sexagesimal number of the older
YAML version (`yes`, `off`, `1:20`), must be quoted when written.
-/

namespace Stencil.Yaml

/-- What a plain scalar stands for. -/
inductive PlainKind where
  | null
  | bool
  | int
  | float
  | timestamp
  | merge
  | str
deriving DecidableEq, Repr

/-- Whether a character is a decimal digit. -/
def isDigit (c : Char) : Bool := '0' ≤ c && c ≤ '9'

/-- The digits of a base, as a test. -/
def isDigitIn (base : Nat) (c : Char) : Bool :=
  match base with
  | 2 => c == '0' || c == '1'
  | 8 => '0' ≤ c && c ≤ '7'
  | 10 => isDigit c
  | _ => isDigit c || ('a' ≤ c && c ≤ 'f') || ('A' ≤ c && c ≤ 'F')

/-- The value of a digit of any base up to sixteen. -/
def digitValue (c : Char) : Nat :=
  if isDigit c then c.toNat - 48
  else if 'a' ≤ c && c ≤ 'f' then c.toNat - 87
  else c.toNat - 55

/-- The value of a nonempty run of digits of a base, if every character is one. -/
def digitsValue (base : Nat) (cs : List Char) : Option Nat :=
  if cs.isEmpty || !cs.all (isDigitIn base) then none
  else some (cs.foldl (fun n c => n * base + digitValue c) 0)

/-- The base and digits of an unsigned integer with an optional prefix: `0x`, `0o`, `0b`, or a
leading `0` for octal. -/
def baseAndDigits : List Char → Nat × List Char
  | '0' :: 'x' :: r => (16, r)
  | '0' :: 'X' :: r => (16, r)
  | '0' :: 'o' :: r => (8, r)
  | '0' :: 'O' :: r => (8, r)
  | '0' :: 'b' :: r => (2, r)
  | '0' :: 'B' :: r => (2, r)
  | '0' :: d :: r => (8, d :: r)
  | cs => (10, cs)

/-- The magnitude of an integer with an optional base prefix. -/
def unsignedValue (cs : List Char) : Option Nat :=
  let (b, ds) := baseAndDigits cs
  digitsValue b ds

/-- Whether the text is a signed 64-bit integer with an optional base prefix. -/
def isInt64 : List Char → Bool
  | '-' :: r => match unsignedValue r with | some n => n ≤ Nat.pow 2 63 | none => false
  | '+' :: r => match unsignedValue r with | some n => n < Nat.pow 2 63 | none => false
  | r => match unsignedValue r with | some n => n < Nat.pow 2 63 | none => false

/-- Whether the text is an unsigned 64-bit integer with an optional base prefix. -/
def isUInt64 (cs : List Char) : Bool :=
  match unsignedValue cs with
  | some n => n < Nat.pow 2 64
  | none => false

/-- Splits an optional sign from the front. -/
def dropSign : List Char → List Char
  | '-' :: r => r
  | '+' :: r => r
  | r => r

/-- The digits of a decimal float in the YAML style: `[-+]?(\.[0-9]+|[0-9]+(\.[0-9]*)?)`
followed by an optional exponent; returns the mantissa digits, the count of them before the
point, and the exponent. -/
def decimalFloatParts (cs : List Char) : Option (List Char × Nat × Int) :=
  let body := dropSign cs
  let intPart := body.takeWhile isDigit
  let rest := body.drop intPart.length
  let (frac, rest, ok) :=
    match rest with
    | '.' :: r => let f := r.takeWhile isDigit; (f, r.drop f.length, !intPart.isEmpty || !f.isEmpty)
    | r => (([] : List Char), r, !intPart.isEmpty)
  if !ok then none
  else
    let expo : Option Int :=
      match rest with
      | [] => some 0
      | e :: r =>
        if e == 'e' || e == 'E' then
          let (neg, ds) := match r with
            | '-' :: d => (true, d)
            | '+' :: d => (false, d)
            | d => (false, d)
          match digitsValue 10 ds with
          | some n => some (if neg then -(n : Int) else n)
          | none => none
        else none
    expo.map fun x => (intPart ++ frac, intPart.length, x)

/-- The sign, the digits and the power of ten of a decimal float text. -/
def decimalValue (cs : List Char) : Option (Bool × Nat × Int) :=
  (decimalFloatParts cs).map fun (ds, before, x) =>
    (cs.head? == some '-', (digitsValue 10 ds).getD 0, x - ((ds.length - before : Nat) : Int))

/-- Whether a decimal float text stays within the range of double precision once rounded. -/
def floatInRange (cs : List Char) : Bool :=
  match decimalValue cs with
  | some (_, m, e) => (Double.ofDecimal m e).isSome
  | none => false

/-- Whether the text is a YAML-style decimal float that reads without overflow. -/
def isYamlFloat (cs : List Char) : Bool :=
  (decimalFloatParts cs).isSome && floatInRange cs

/-- Whether the underscores of a number stand only between digits: each follows a digit and is
followed by one. -/
def underscoresBetweenDigits (cs : List Char) : Bool :=
  go '^' cs
where
  /-- `last` is `0` after a digit, `_` after an underscore, and another mark otherwise. -/
  go (last : Char) : List Char → Bool
    | [] => last != '_'
    | c :: r =>
      if isDigit c then go '0' r
      else if c == '_' then last == '0' && go '_' r
      else last != '_' && go '!' r

/-- The digits of a float starting with a point, underscores between digits dropped: `.5_0e1`
reads as `.50e1`. -/
def pointFloatText (cs : List Char) : Option (List Char) :=
  if underscoresBetweenDigits cs then some (cs.filter (· != '_')) else none

/-- Whether the text is a float starting with a point, such as `.5e3` or `.5_0`. -/
def isPointFloat (cs : List Char) : Bool :=
  match pointFloatText cs with
  | some ('.' :: r) => (r.takeWhile isDigit).length > 0 && isYamlFloat ('.' :: r)
  | _ => false

/-- The values of the older YAML booleans. -/
def oldBools : List String :=
  ["y", "Y", "yes", "Yes", "YES", "on", "On", "ON", "n", "N", "no", "No", "NO", "off", "Off", "OFF"]

/-- Whether the text is a boolean of the older YAML version. -/
def isOldBool (s : String) : Bool := oldBools.contains s

/-- Whether the text is a sexagesimal float of the older YAML version, such as `190:20:30.15`. -/
def isBase60Float (s : String) : Bool :=
  let cs := dropSign s.toList
  match cs with
  | c :: _ =>
    if !isDigit c then false
    else
      let head := cs.takeWhile (fun c => isDigit c || c == '_')
      let rest := cs.drop head.length
      -- one or more groups `:[0-5]?[0-9]`, then an optional `.[0-9_]*`
      let rec groups (fuel : Nat) (r : List Char) (seen : Bool) : Bool :=
        match fuel, r with
        | 0, _ => false
        | _ + 1, [] => seen
        | f + 1, ':' :: a :: b :: t =>
          if '0' ≤ a && a ≤ '5' && isDigit b then groups f t true
          else if isDigit a then groups f (b :: t) true
          else false
        | f + 1, ':' :: a :: [] => if isDigit a then groups f [] true else false
        | _ + 1, '.' :: t => seen && t.all (fun c => isDigit c || c == '_')
        | _ + 1, _ => false
      groups (rest.length + 1) rest false
  | [] => false

/-- Whether `n` is a number of days that month `m` of year `y` has. -/
def validDay (y m d : Nat) : Bool :=
  let leap := (y % 4 == 0 && y % 100 != 0) || y % 400 == 0
  let days := match m with
    | 2 => if leap then 29 else 28
    | 4 | 6 | 9 | 11 => 30
    | _ => 31
  1 ≤ m && m ≤ 12 && 1 ≤ d && d ≤ days

/-- Reads one or two digits. -/
def twoDigits (cs : List Char) : Option (Nat × List Char) :=
  match cs with
  | a :: b :: r => if isDigit a && isDigit b then some (digitValue a * 10 + digitValue b, r)
    else if isDigit a then some (digitValue a, b :: r) else none
  | [a] => if isDigit a then some (digitValue a, []) else none
  | [] => none

/-- Reads a time of day `h:m:s`, each part one or two digits, with an optional fraction of a
second after a point or a comma: whether it is in range, and what follows it. -/
def clockTime (cs : List Char) : Option (List Char) := do
  let (h, r) ← twoDigits cs
  let r ← match r with | ':' :: t => some t | _ => none
  let (m, r) ← twoDigits r
  let r ← match r with | ':' :: t => some t | _ => none
  let (sec, r) ← twoDigits r
  if !(h < 24 && m < 60 && sec < 60) then none
  match r with
  | p :: d :: t => if (p == '.' || p == ',') && isDigit d then some (t.dropWhile isDigit) else some r
  | _ => some r

/-- Whether a text is a zone offset: `Z`, or a sign and `hh:mm` of at most 24 hours and 60
minutes. -/
def isZone (cs : List Char) : Bool :=
  match cs with
  | ['Z'] => true
  | [s, a, b, ':', c, d] =>
    (s == '+' || s == '-') && isDigit a && isDigit b && isDigit c && isDigit d &&
      digitValue a * 10 + digitValue b ≤ 24 && digitValue c * 10 + digitValue d ≤ 60
  | _ => false

/-- Whether the text is a date `YYYY-M-D`, alone, or followed by `T` (or `t`), a time of day and
a zone, or by spaces and a time of day without a zone. -/
def isTimestamp (s : String) : Bool :=
  let cs := s.toList
  let year := cs.takeWhile isDigit
  if year.length != 4 then false
  else
    match cs.drop 4 with
    | '-' :: r =>
      match twoDigits r with
      | some (m, '-' :: r) =>
        match twoDigits r with
        | some (d, rest) =>
          validDay ((digitsValue 10 year).getD 0) m d &&
            match rest with
            | [] => true
            | 'T' :: t | 't' :: t =>
              match clockTime t with
              | some z => isZone z
              | none => false
            | ' ' :: t =>
              match clockTime (t.dropWhile (· == ' ')) with
              | some [] => true
              | _ => false
            | _ => false
        | none => false
      | _ => false
    | _ => false

/-- The meaning of a plain scalar. -/
def plainKind (s : String) : PlainKind :=
  let cs := s.toList
  match cs with
  | [] => .null
  | c :: _ =>
    if ["true", "True", "TRUE", "false", "False", "FALSE"].contains s then .bool
    else if ["~", "null", "Null", "NULL"].contains s then .null
    else if [".nan", ".NaN", ".NAN", ".inf", ".Inf", ".INF", "+.inf", "+.Inf", "+.INF",
        "-.inf", "-.Inf", "-.INF"].contains s && (c == '.' || c == '+' || c == '-') then .float
    else if c == '.' then (if isPointFloat cs then .float else .str)
    else if isDigit c || c == '+' || c == '-' then
      if isTimestamp s then .timestamp
      else
        let plain := cs.filter (· != '_')
        if isInt64 plain || isUInt64 plain then .int
        else if isYamlFloat plain then .float
        else match plain with
          | '0' :: 'b' :: r => if (digitsValue 2 r).isSome then .int else .str
          | '-' :: '0' :: 'b' :: r => if (digitsValue 2 r).isSome then .int else .str
          | '0' :: 'o' :: r => if (digitsValue 8 r).isSome then .int else .str
          | '-' :: '0' :: 'o' :: r => if (digitsValue 8 r).isSome then .int else .str
          | _ => .str
    else .str

/-- Whether a text may be written as a plain scalar and still read back as text. -/
def plainIsText (s : String) : Bool :=
  plainKind s == .str && !isBase60Float s && !isOldBool s

end Stencil.Yaml

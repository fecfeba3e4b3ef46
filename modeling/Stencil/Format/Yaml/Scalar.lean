import Stencil.Format.Yaml.Resolve
import Stencil.Text.Utf8
/-!
# What a YAML scalar stands for

A scalar is read by its tag: a quoted or block scalar is text; a plain one is what its text
reads as (null, a truth value, an integer, a float, a date, or text); an explicit standard tag
must agree with that reading, except that an integer may be read as a float. Tags outside the
standard ones leave the text as it is, and `!!binary` text is base64.

An integer keeps its value when it fits in 64 bits, signed or unsigned; a float is the double
nearest its decimal text.
-/

namespace Stencil.Yaml

/-- A float as read: not a number, an infinity, or a finite double with its sign. -/
inductive FloatValue where
  | nan
  | infinite (negative : Bool)
  | finite (negative : Bool) (magnitude : Double.Binary)

/-- What a scalar stands for. -/
inductive Resolved where
  | null
  | flag (b : Bool)
  | integer (n : Int)
  | float (x : FloatValue)
  | timestamp
  | text (s : String)

/-- The tags whose scalars are read for what they stand for. -/
def resolvableTags : List String :=
  ["", "!!str", "!!bool", "!!int", "!!float", "!!timestamp", "!!null"]

/-- The texts that stand for fixed values, with their tags. -/
def knownValue (s : String) : Option (String × Resolved) :=
  if ["true", "True", "TRUE"].contains s then some ("!!bool", .flag true)
  else if ["false", "False", "FALSE"].contains s then some ("!!bool", .flag false)
  else if ["", "~", "null", "Null", "NULL"].contains s then some ("!!null", .null)
  else if [".nan", ".NaN", ".NAN"].contains s then some ("!!float", .float .nan)
  else if [".inf", ".Inf", ".INF", "+.inf", "+.Inf", "+.INF"].contains s then
    some ("!!float", .float (.infinite false))
  else if ["-.inf", "-.Inf", "-.INF"].contains s then some ("!!float", .float (.infinite true))
  else if s == "<<" then some ("!!merge", .text "<<")
  else none

/-- What the first character of a scalar suggests it may be: `S` a signed number, `D` a
number, `M` one of the fixed values, `.` a float, `N` for the empty text; nothing for text. -/
def hint (s : String) : Option Char :=
  match s.toList with
  | [] => some 'N'
  | c :: _ =>
    if c == '+' || c == '-' then some 'S'
    else if isDigit c then some 'D'
    else if "yYnNtTfFoO~".toList.contains c then some 'M'
    else if c == '.' then some '.'
    else none

/-- The value of an integer text with an optional sign and base prefix, when it fits in 64 bits,
signed or else unsigned. -/
def integerValue (cs : List Char) : Option Int :=
  if isInt64 cs then
    match cs with
    | '-' :: r => (unsignedValue r).map fun n => -(n : Int)
    | '+' :: r => (unsignedValue r).map fun n => (n : Int)
    | r => (unsignedValue r).map fun n => (n : Int)
  else if isUInt64 cs then (unsignedValue cs).map fun n => (n : Int)
  else none

/-- The float of a decimal text, when it is one and within range. -/
def floatValue (cs : List Char) : Option FloatValue :=
  match decimalValue cs with
  | some (neg, m, e) => (Double.ofDecimal m e).map (.finite neg)
  | none => none

/-- What a scalar reads as without regard to a tag other than `!!str` or `!!timestamp`. -/
def readPlain (tag s : String) : String × Resolved :=
  let text : String × Resolved := ("!!str", .text s)
  if tag == "!!str" then text
  else
    match hint s with
    | none => text
    | some h =>
      match knownValue s with
      | some r => r
      | none =>
        let cs := s.toList
        if h == '.' then
          match (pointFloatText cs).bind floatValue with
          | some x => ("!!float", .float x)
          | none => text
        else if h == 'D' || h == 'S' then
          if (tag == "" || tag == "!!timestamp") && isTimestamp s then ("!!timestamp", .timestamp)
          else
            let plain := cs.filter (· != '_')
            match integerValue plain with
            | some n => ("!!int", .integer n)
            | none =>
              match floatValue plain with
              | some x => ("!!float", .float x)
              | none => text
        else text

/-- The signed 64-bit range. -/
def isInt64Value (n : Int) : Bool := -(Nat.pow 2 63 : Int) ≤ n && n < Nat.pow 2 63

/-- What a scalar with a tag stands for, with the tag it reads as; fails when an explicit
standard tag disagrees with the text. -/
def resolveTagged (tag s : String) : Except String (String × Resolved) :=
  if !resolvableTags.contains tag then .ok (tag, .text s)
  else
    let (rtag, r) := readPlain tag s
    let refuse : Except String (String × Resolved) :=
      .error ("cannot decode " ++ rtag ++ " `" ++ s ++ "` as a " ++ tag)
    if tag == "" || tag == rtag || tag == "!!str" then .ok (rtag, r)
    else if tag == "!!float" && rtag == "!!int" then
      match r with
      | .integer n =>
        if isInt64Value n then
          match Double.nearest n.natAbs 1 with
          | some b => .ok ("!!float", .float (.finite (n < 0) b))
          | none => refuse
        else refuse
      | _ => refuse
    else refuse

/-- The signed 64-bit integer a float converts to on a machine that gives the least integer for
every value out of range; none for a value past the largest signed integer or not a number. -/
def FloatValue.toInt64 : FloatValue → Option Int
  | .nan => none
  | .infinite false => none
  | .infinite true => some (-(Nat.pow 2 63))
  | .finite false b =>
    let t := b.truncate
    if t > Nat.pow 2 63 then none else if t == Nat.pow 2 63 then some (-(Nat.pow 2 63)) else some t
  | .finite true b =>
    let t := b.truncate
    if t ≥ Nat.pow 2 63 then some (-(Nat.pow 2 63)) else some (-(t : Int))

/-- The value of a base64 digit. -/
def base64Digit (c : Char) : Option Nat :=
  if 'A' ≤ c && c ≤ 'Z' then some (c.toNat - 65)
  else if 'a' ≤ c && c ≤ 'z' then some (c.toNat - 71)
  else if '0' ≤ c && c ≤ '9' then some (c.toNat + 4)
  else if c == '+' then some 62
  else if c == '/' then some 63
  else none

/-- The bytes of padded base64 text, line breaks ignored. -/
def decodeBase64 (s : String) : Option (List UInt8) :=
  let cs := s.toList.filter fun c => c != '\r' && c != '\n'
  if cs.length % 4 != 0 then none else go (cs.length + 1) cs
where
  go : Nat → List Char → Option (List UInt8)
    | 0, _ => none
    | _, [] => some []
    | fuel + 1, a :: b :: c :: d :: rest =>
      match base64Digit a, base64Digit b with
      | some x, some y =>
        match base64Digit c, base64Digit d with
        | some z, some w =>
          let n := ((x * 64 + y) * 64 + z) * 64 + w
          (go fuel rest).map fun more =>
            [UInt8.ofNat (n / 65536), UInt8.ofNat (n / 256 % 256), UInt8.ofNat (n % 256)] ++ more
        | some z, none =>
          if d == '=' && rest.isEmpty then
            let n := ((x * 64 + y) * 64 + z) * 64
            some [UInt8.ofNat (n / 65536), UInt8.ofNat (n / 256 % 256)]
          else none
        | none, _ =>
          if c == '=' && d == '=' && rest.isEmpty then
            some [UInt8.ofNat ((x * 64 + y) * 4096 / 65536)]
          else none
      | _, _ => none
    | _ + 1, _ => none

end Stencil.Yaml

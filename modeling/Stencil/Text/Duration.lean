import Stencil.Numeric.Double
import Stencil.Text.Hex
/-!
# Lengths of time

A length of time is written as an optional sign and one or more numbers, each with an optional
fraction and a unit: `ns`, `us` (or `µs`, `μs`), `ms`, `s`, `m` or `h`, as in `1h2m3.5s`; a lone
`0` needs no unit. The value is a whole number of nanoseconds that must fit in 64 signed bits. The
whole part of each number is exact; its fraction is scaled to the unit in double precision and
cut to whole nanoseconds.
-/

namespace Stencil.Duration

/-- Nanoseconds per unit. -/
def unitValue : String → Option Nat
  | "ns" => some 1
  | "us" | "µs" | "μs" => some 1000
  | "ms" => some 1000000
  | "s" => some 1000000000
  | "m" => some 60000000000
  | "h" => some 3600000000000
  | _ => none

/-- A text in double quotes for a message about a length of time: quotes and backslashes
escaped, and every byte of a control or non-ASCII character written `\xNN`. -/
def quote (s : String) : String :=
  let body := s.toList.flatMap fun c =>
    if c.toNat ≥ 0x80 || c.toNat < 0x20 then
      (String.singleton c).toUTF8.toList.flatMap fun b => ['\\', 'x'] ++ Text.hexDigits 2 b.toNat
    else if c == '"' || c == '\\' then ['\\', c]
    else [c]
  String.ofList ('"' :: body ++ ['"'])

/-- Whether a character is a decimal digit. -/
def isDigit (c : Char) : Bool := '0' ≤ c && c ≤ '9'

/-- The bound every partial sum must stay within. -/
def limit : Nat := Nat.pow 2 63

/-- Reads the digits before a point: their value, or `none` when it passes the limit. -/
def leadingInt (ds : List Char) : Option Nat :=
  ds.foldl (fun acc c =>
    acc.bind fun x =>
      if x > limit / 10 then none
      else
        let y := x * 10 + (c.toNat - 48)
        if y > limit then none else some y) (some 0)

/-- Reads the digits after a point: their value and their count, taking no more digits once
the value would pass the limit. -/
def leadingFraction (ds : List Char) : Nat × Nat :=
  let (x, n, _) := ds.foldl (fun (x, n, stopped) c =>
    if stopped then (x, n, true)
    else if x > (limit - 1) / 10 then (x, n, true)
    else
      let y := x * 10 + (c.toNat - 48)
      if y > limit then (x, n, true) else (y, n + 1, false)) (0, 0, false)
  (x, n)

/-- The nanoseconds of a fraction `f / 10 ^ places` of a unit, computed as a machine does it:
the fraction and the ratio of the unit to the scale each rounded to a double, their product
rounded again, then cut to a whole number. -/
def fractionValue (f places unit : Nat) : Nat :=
  match Double.nearest f 1, Double.nearest unit (Nat.pow 10 places) with
  | some a, some b => ((a.mul b).map Double.Binary.truncate).getD limit
  | _, _ => limit

/-- Reads the numbers and units after the sign, adding them up. -/
def readTerms (orig : String) : Nat → List Char → Nat → Except String Nat
  | 0, _, total => .ok total
  | _, [], total => .ok total
  | fuel + 1, cs, total => do
    let invalid : Except String Nat := .error ("time: invalid duration " ++ quote orig)
    match cs with
    | c :: _ =>
      if !(c == '.' || isDigit c) then invalid
      else
        let whole := cs.takeWhile isDigit
        let rest := cs.drop whole.length
        match leadingInt whole with
        | none => invalid
        | some v =>
          let (hasFraction, f, places, rest) :=
            match rest with
            | '.' :: r =>
              let fd := r.takeWhile isDigit
              let (f, places) := leadingFraction fd
              (!fd.isEmpty, f, places, r.drop fd.length)
            | r => (false, 0, 0, r)
          if whole.isEmpty && !hasFraction then invalid
          else
            let unitText := rest.takeWhile fun c => !(c == '.' || isDigit c)
            let rest := rest.drop unitText.length
            if unitText.isEmpty then .error ("time: missing unit in duration " ++ quote orig)
            else
              match unitValue (String.ofList unitText) with
              | none =>
                .error ("time: unknown unit " ++ quote (String.ofList unitText) ++
                  " in duration " ++ quote orig)
              | some unit =>
                if v > limit / unit then invalid
                else
                  let v := v * unit
                  let v := if f > 0 then v + fractionValue f places unit else v
                  if v > limit then invalid
                  else
                    let total := total + v
                    if total > limit then invalid
                    else readTerms orig fuel rest total
    | [] => .ok total

/-- Reads a length of time in nanoseconds, with the message of the first thing wrong. -/
def parse (s : String) : Except String Int :=
  let cs := s.toList
  let (neg, body) := match cs with
    | '-' :: r => (true, r)
    | '+' :: r => (false, r)
    | r => (false, r)
  if body == ['0'] then .ok 0
  else if body.isEmpty then .error ("time: invalid duration " ++ quote s)
  else
    match readTerms s (body.length + 1) body 0 with
    | .error e => .error e
    | .ok d =>
      if neg then .ok (-(d : Int))
      else if d > limit - 1 then .error ("time: invalid duration " ++ quote s)
      else .ok d

/-- The digits of `v` below `10 ^ places` as a fraction after a point, trailing zeros dropped
(no point at all when nothing is left), and the whole part above. -/
def fractionText (v places : Nat) : String × Nat :=
  let digits := (Nat.toDigits 10 (v % Nat.pow 10 places))
  let digits := List.replicate (places - digits.length) '0' ++ digits
  let kept := (digits.reverse.dropWhile (· == '0')).reverse
  ((if kept.isEmpty || places == 0 then "" else "." ++ String.ofList kept), v / Nat.pow 10 places)

/-- The text of a length of time in nanoseconds: below a second in the largest of `ns`, `µs` and
`ms` that fits, with a fraction; otherwise hours, minutes and seconds, leading zero units left
out, seconds with a fraction. Zero is `0s`. -/
def format (d : Int) : String :=
  let u := d.natAbs
  let sign := if d < 0 then "-" else ""
  if u == 0 then "0s"
  else if u < Nat.pow 10 9 then
    let (unit, places) := if u < 1000 then ("ns", 0) else if u < Nat.pow 10 6 then ("µs", 3) else ("ms", 6)
    let (frac, whole) := fractionText u places
    sign ++ toString whole ++ frac ++ unit
  else
    let (frac, secs) := fractionText u 9
    let s := toString (secs % 60) ++ frac ++ "s"
    let mins := secs / 60
    if mins == 0 then sign ++ s
    else
      let m := toString (mins % 60) ++ "m" ++ s
      let hours := mins / 60
      if hours == 0 then sign ++ m else sign ++ toString hours ++ "h" ++ m

/-- A length of time rounded to a multiple of `m`, halves away from zero. -/
def roundTo (d m : Int) : Int :=
  if m ≤ 0 then d
  else
    let r : Int := (d.natAbs % m.natAbs : Nat)
    if d < 0 then (if r + r < m then d + r else d - m + r)
    else (if r + r < m then d - r else d + m - r)

end Stencil.Duration

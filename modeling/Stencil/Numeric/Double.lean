/-!
# Double precision rounding

The numbers of IEEE double precision, kept exactly as a mantissa of at most 53 bits and a power of
two, and the rounding of a positive rational to the nearest of them, ties to the even mantissa.
Readers of configuration and caches meet floating point in two places: a fraction of a length of
time is scaled in double precision before it is cut to whole nanoseconds, and a float read into a
whole-number field is cut to an integer after it has been rounded to a double. Both are computed
here in exact arithmetic, so that the result is the one a machine computes.
-/

namespace Stencil.Double

/-- A finite nonnegative double: `mantissa · 2 ^ exponent`. -/
structure Binary where
  mantissa : Nat
  exponent : Int
deriving DecidableEq, Repr

/-- The numerator and denominator of a product of a natural number and a power of two. -/
def scaled (m : Nat) (e : Int) : Nat × Nat :=
  if 0 ≤ e then (m * Nat.pow 2 e.toNat, 1) else (m, Nat.pow 2 (-e).toNat)

/-- The quotient of `num / den` rounded to the nearest natural number, ties to even. -/
def roundQuotient (num den : Nat) : Nat :=
  let q := num / den
  let r := num % den
  if 2 * r > den || (2 * r == den && q % 2 == 1) then q + 1 else q

/-- The smallest exponent of a double: the step of the subnormal numbers. -/
def minExponent : Int := -1074

/-- The double nearest the rational `num / den`, or `none` when it lies past the largest double.
The exponent is chosen so that the quotient has 53 bits, and never below that of the subnormal
numbers. -/
def nearest (num den : Nat) : Option Binary :=
  if num == 0 || den == 0 then some ⟨0, 0⟩
  else
    let guess : Int := (Nat.log2 num : Int) - Nat.log2 den - 52
    -- the quotient at the guess lies between 2^51 and 2^53; step down once if it is short
    let quotientAt (e : Int) : Nat :=
      if 0 ≤ e then num / (den * Nat.pow 2 e.toNat) else num * Nat.pow 2 (-e).toNat / den
    let e := if quotientAt guess < Nat.pow 2 52 then guess - 1 else guess
    let e := max e minExponent
    let (n, d) := if 0 ≤ e then (num, den * Nat.pow 2 e.toNat) else (num * Nat.pow 2 (-e).toNat, den)
    let m := roundQuotient n d
    let b : Binary := if m == Nat.pow 2 53 then ⟨Nat.pow 2 52, e + 1⟩ else ⟨m, e⟩
    if b.exponent > 971 then none else some b

/-- The whole part of a double. -/
def Binary.truncate (b : Binary) : Nat :=
  if 0 ≤ b.exponent then b.mantissa * Nat.pow 2 b.exponent.toNat
  else b.mantissa / Nat.pow 2 (-b.exponent).toNat

/-- The exact product of two doubles, rounded to the nearest double. -/
def Binary.mul (a b : Binary) : Option Binary :=
  let (n, d) := scaled (a.mantissa * b.mantissa) (a.exponent + b.exponent)
  nearest n d

/-- A decimal number `digits · 10 ^ exponent` rounded to the nearest double. Past 10^310 it
overflows; below 10^-330 it is zero. -/
def ofDecimal (digits : Nat) (exponent : Int) : Option Binary :=
  let width : Int := (Nat.toDigits 10 digits).length
  if digits == 0 || width + exponent < -330 then some ⟨0, 0⟩
  else if width + exponent > 310 then none
  else if 0 ≤ exponent then nearest (digits * Nat.pow 10 exponent.toNat) 1
  else nearest digits (Nat.pow 10 (-exponent).toNat)

end Stencil.Double

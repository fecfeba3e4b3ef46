import Stencil.Numeric.Double
/-!
# Shortest decimals of doubles

The decimal that stands for a double in text is the one with the fewest significant digits that
reads back as the same double, and of two such decimals the nearer to the double. A decimal reads
back as a double when it lies in the double's rounding interval: the reals halfway to its two
neighbours, the ends included when the mantissa is even (ties go to the even mantissa). Below a
power of two the neighbour underneath is half as far away.

Grids of decimals `d · 10 ^ p` are tried from the coarsest at the double's leading digit down to
seventeen digits, which always suffice. On each grid only the two grid points around the double
can be the nearest in the interval, so each grid asks two questions in exact arithmetic.
-/

namespace Stencil.Double

/-- The number of decimal digits of a positive natural number. -/
def digitCount (n : Nat) : Nat :=
  (Nat.toDigits 10 n).length

/-- The exponent of the leading decimal digit of `m · 2 ^ e`, for `m > 0`: the `x` with
`10 ^ x ≤ m · 2 ^ e < 10 ^ (x + 1)`. -/
def leadingExponent (m : Nat) (e : Int) : Int :=
  if 0 ≤ e then (digitCount (m * Nat.pow 2 e.toNat) : Int) - 1
  else
    let den := Nat.pow 2 (-e).toNat
    if m ≥ den then (digitCount (m / den) : Int) - 1
    else
      -- below one: the first power of ten that brings the value to one or above
      let k := digitCount den
      let scaledUp := m * Nat.pow 10 k / den
      (digitCount scaledUp : Int) - 1 - k

/-- The scale factors that put `X · 2 ^ s` and a grid point `d · 10 ^ p` over one denominator:
`X · 2 ^ s ≤ d · 10 ^ p` exactly when `X · left ≤ d · right`. -/
def gridScale (s p : Int) : Nat × Nat :=
  (Nat.pow 2 s.toNat * Nat.pow 10 (-p).toNat, Nat.pow 2 (-s).toNat * Nat.pow 10 p.toNat)

/-- Removes trailing zeros from a decimal `d · 10 ^ p`. -/
def stripZeros (d : Nat) (p : Int) : Nat × Int :=
  go (digitCount d) d p
where
  go : Nat → Nat → Int → Nat × Int
    | 0, d, p => (d, p)
    | f + 1, d, p => if d != 0 && d % 10 == 0 then go f (d / 10) (p + 1) else (d, p)

/-- The shortest decimal `d · 10 ^ p` that reads back as the positive double `b`, the nearer of
two when two have as few digits; an exact tie goes to the even grid point. Zero is `(0, 0)`. -/
def Binary.shortest (b : Binary) : Nat × Int :=
  if b.mantissa == 0 then (0, 0)
  else
    let m := b.mantissa
    -- the double and its interval, in units of 2 ^ (exponent - 2)
    let s := b.exponent - 2
    let v := 4 * m
    let hi := 4 * m + 2
    let lo := if m == Nat.pow 2 52 && b.exponent > minExponent then 4 * m - 1 else 4 * m - 2
    let closed := m % 2 == 0
    let top := leadingExponent m b.exponent
    let inside (d : Nat) (left right : Nat) : Bool :=
      if closed then lo * left ≤ d * right && d * right ≤ hi * left
      else lo * left < d * right && d * right < hi * left
    let attempt (k : Nat) : Option (Nat × Int) :=
      let p := top - k
      let (left, right) := gridScale s p
      let below := v * left / right
      let above := below + 1
      match inside below left right, inside above left right with
      | true, true =>
        -- the nearer of the two, a tie to the even one
        let fromBelow := v * left - below * right
        let toAbove := above * right - v * left
        if fromBelow < toAbove || (fromBelow == toAbove && below % 2 == 0) then some (below, p)
        else some (above, p)
      | true, false => some (below, p)
      | false, true => some (above, p)
      | false, false => none
    let found := (List.range 18).findSome? attempt
    let (d, p) := found.getD (v * (gridScale s (top - 17)).1 / (gridScale s (top - 17)).2, top - 17)
    stripZeros d p

end Stencil.Double

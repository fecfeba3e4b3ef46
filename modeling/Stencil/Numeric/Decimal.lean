import Stencil.Numeric.Shortest
/-!
# Doubles as decimal text

A finite double is written with its shortest decimal. A style says for which decimal exponents of
the leading digit the number is written positionally, and how many digits an exponent has at
least otherwise. Two styles are in use: the general one, positional from `1e-4` up to below `1e6`,
and the one of data interchange, positional from `1e-6` up to below `1e21`, whose negative
exponents are written without padding.
-/

namespace Stencil.Double

/-- A finite double with its sign. -/
structure Finite where
  negative : Bool
  magnitude : Binary
deriving DecidableEq, Repr

/-- The double nearest a signed decimal, or `none` past the largest double. -/
def Finite.ofDecimal (negative : Bool) (digits : Nat) (exponent : Int) : Option Finite :=
  (Double.ofDecimal digits exponent).map (⟨negative, ·⟩)

/-- How a double is written: positionally when the exponent of its leading digit is at least
`low` and below `high`, else with an exponent of at least `width` digits (`negativeWidth` when the
exponent is negative). -/
structure Style where
  low : Int
  high : Int
  width : Nat
  negativeWidth : Nat

/-- The general style: positional from `1e-4` up to below `1e6`, exponents of two digits. -/
def Style.general : Style := ⟨-4, 6, 2, 2⟩

/-- The style of data interchange: positional from `1e-6` up to below `1e21`; a negative exponent
has no padding. -/
def Style.interchange : Style := ⟨-6, 21, 2, 1⟩

/-- A natural number with at least `w` digits. -/
def padded (w n : Nat) : String :=
  let s := toString n
  String.ofList (List.replicate (w - s.length) '0') ++ s

/-- The digits `ds` with the decimal point after `point` of them. -/
def placePoint (ds : List Char) (point : Int) : String :=
  if point ≤ 0 then "0." ++ String.ofList (List.replicate (-point).toNat '0' ++ ds)
  else if ds.length ≤ point.toNat then
    String.ofList (ds ++ List.replicate (point.toNat - ds.length) '0')
  else String.ofList (ds.take point.toNat) ++ "." ++ String.ofList (ds.drop point.toNat)

/-- The text of a finite double in a style. -/
def Finite.format (st : Style) (x : Finite) : String :=
  let sign := if x.negative then "-" else ""
  let (d, p) := x.magnitude.shortest
  if d == 0 then sign ++ "0"
  else
    let ds := (Nat.toDigits 10 d)
    let lead : Int := ds.length - 1 + p
    if st.low ≤ lead && lead < st.high then sign ++ placePoint ds (lead + 1)
    else
      let mantissa := match ds with
        | [c] => String.singleton c
        | c :: rest => String.singleton c ++ "." ++ String.ofList rest
        | [] => "0"
      let exp := if lead < 0 then "-" ++ padded st.negativeWidth (-lead).toNat
        else "+" ++ padded st.width lead.toNat
      sign ++ mantissa ++ "e" ++ exp

end Stencil.Double

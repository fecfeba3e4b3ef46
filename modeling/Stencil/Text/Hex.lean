/-!
# Hexadecimal text

Writing a 64-bit word as sixteen lower-case hexadecimal digits, and reading a text of hexadecimal
digit pairs back into bytes. Reading checks the pairs from the left, so a bad digit that comes
before the end is reported in preference to an odd length.
-/

namespace Stencil.Text

/-- The lower-case hexadecimal digit of `n % 16`. -/
def hexDigit (n : Nat) : Char :=
  let d := n % 16
  if d < 10 then Char.ofNat (48 + d) else Char.ofNat (87 + d)

/-- The value of a hexadecimal digit of either case. -/
def hexValue (c : Char) : Option Nat :=
  if '0' ≤ c ∧ c ≤ '9' then some (c.toNat - 48)
  else if 'a' ≤ c ∧ c ≤ 'f' then some (c.toNat - 87)
  else if 'A' ≤ c ∧ c ≤ 'F' then some (c.toNat - 55)
  else none

/-- The `width` lowest hexadecimal digits of `n`, most significant first. -/
def hexDigits (width n : Nat) : List Char :=
  (List.range width).reverse.map fun i => hexDigit (n / Nat.pow 16 i)

/-- A 64-bit word as exactly sixteen lower-case hexadecimal digits. -/
def hex16 (w : UInt64) : String :=
  String.ofList (hexDigits 16 w.toNat)

/-- Why a text is not a sequence of hexadecimal byte pairs. -/
inductive HexError where
  /-- A byte that is no hexadecimal digit. -/
  | invalidByte (b : UInt8)
  /-- The digits do not pair up. -/
  | oddLength
deriving DecidableEq, Repr

/-- Whether a byte, read as a code point, is shown beside its number in a message: the visible
characters of the first two blocks of code points. -/
def byteIsVisible (b : UInt8) : Bool :=
  (0x20 ≤ b ∧ b < 0x7F) || (0xA1 ≤ b ∧ b ≠ 0xAD)

/-- The message for a reading failure. -/
def HexError.message : HexError → String
  | .invalidByte b =>
    let code := "U+" ++ String.ofList ((hexDigits 4 b.toNat).map Char.toUpper)
    let shown := if byteIsVisible b then " '" ++ (Char.ofNat b.toNat).toString ++ "'" else ""
    "encoding/hex: invalid byte: " ++ code ++ shown
  | .oddLength => "encoding/hex: odd length hex string"

/-- Reads digit pairs into bytes, checking each pair from the left. -/
def readHexBytes : List UInt8 → Except HexError (List UInt8)
  | [] => .ok []
  | [a] =>
    match hexValue (Char.ofNat a.toNat) with
    | none => .error (.invalidByte a)
    | some _ => .error .oddLength
  | a :: b :: rest =>
    match hexValue (Char.ofNat a.toNat), hexValue (Char.ofNat b.toNat) with
    | none, _ => .error (.invalidByte a)
    | some _, none => .error (.invalidByte b)
    | some x, some y => (readHexBytes rest).map fun bs => (x * 16 + y).toUInt8 :: bs

/-- Reads a text of hexadecimal digit pairs into the bytes they spell. -/
def decodeHex (s : String) : Except HexError (List UInt8) :=
  readHexBytes s.toUTF8.toList

end Stencil.Text

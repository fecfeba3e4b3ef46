/-!
# Reading bytes as UTF-8

Bytes that should hold UTF-8 text are read one character at a time. A byte that does not start a
well-formed sequence (an overlong form, a surrogate, a code point past U+10FFFF, or a sequence cut
short) stands for one replacement character U+FFFD, and reading goes on at the next byte.
-/

namespace Stencil.Text

/-- Whether a byte continues a sequence within the bounds `lo` to `hi`. -/
def within (b : UInt8) (lo hi : UInt8) : Bool := lo ≤ b && b ≤ hi

/-- The character at the front of the bytes and how many bytes it takes; a malformed start takes
one byte and reads as U+FFFD. -/
def decodeFront (bs : List UInt8) : Char × Nat :=
  let bad : Char × Nat := ('�', 1)
  match bs with
  | [] => bad
  | b0 :: rest =>
    let n0 := b0.toNat
    if n0 < 0x80 then (Char.ofNat n0, 1)
    else if within b0 0xC2 0xDF then
      match rest with
      | b1 :: _ => if within b1 0x80 0xBF then (Char.ofNat ((n0 % 32) * 64 + b1.toNat % 64), 2) else bad
      | _ => bad
    else if within b0 0xE0 0xEF then
      let (lo, hi) : UInt8 × UInt8 :=
        if b0 == 0xE0 then (0xA0, 0xBF) else if b0 == 0xED then (0x80, 0x9F) else (0x80, 0xBF)
      match rest with
      | b1 :: b2 :: _ =>
        if within b1 lo hi && within b2 0x80 0xBF then
          (Char.ofNat ((n0 % 16) * 4096 + (b1.toNat % 64) * 64 + b2.toNat % 64), 3)
        else bad
      | _ => bad
    else if within b0 0xF0 0xF4 then
      let (lo, hi) : UInt8 × UInt8 :=
        if b0 == 0xF0 then (0x90, 0xBF) else if b0 == 0xF4 then (0x80, 0x8F) else (0x80, 0xBF)
      match rest with
      | b1 :: b2 :: b3 :: _ =>
        if within b1 lo hi && within b2 0x80 0xBF && within b3 0x80 0xBF then
          (Char.ofNat ((n0 % 8) * 262144 + (b1.toNat % 64) * 4096 + (b2.toNat % 64) * 64 +
            b3.toNat % 64), 4)
        else bad
      | _ => bad
    else bad

/-- The text of bytes read as UTF-8, each malformed byte read as U+FFFD. -/
def decodeLossy (bs : List UInt8) : String :=
  String.ofList (go bs.length bs)
where
  go : Nat → List UInt8 → List Char
    | 0, _ => []
    | _, [] => []
    | fuel + 1, bs =>
      let (c, n) := decodeFront bs
      c :: go fuel (bs.drop n)

end Stencil.Text

import Stencil.Text.Hex
/-!
# The 64-bit xxHash digest

The xxHash64 digest with seed zero: four lanes absorb 32-byte stripes, the lanes are merged, and
the tail is absorbed eight, four and one byte at a time before the final avalanche. Words are read
little-endian. A template's fingerprint is this digest of its text, in sixteen hexadecimal digits.
-/

namespace Stencil.Digest

/-- The first prime of the digest. -/
def prime1 : UInt64 := 0x9E3779B185EBCA87
/-- The second prime of the digest. -/
def prime2 : UInt64 := 0xC2B2AE3D27D4EB4F
/-- The third prime of the digest. -/
def prime3 : UInt64 := 0x165667B19E3779F9
/-- The fourth prime of the digest. -/
def prime4 : UInt64 := 0x85EBCA77C2B2AE63
/-- The fifth prime of the digest. -/
def prime5 : UInt64 := 0x27D4EB2F165667C5

/-- Rotates a word left by `r` bits. -/
def rotl (x : UInt64) (r : UInt64) : UInt64 :=
  (x <<< r) ||| (x >>> (64 - r))

/-- The little-endian word of the first `n` bytes. -/
def readLE (bs : List UInt8) (n : Nat) : UInt64 :=
  ((bs.take n).zipIdx.foldl (fun acc (b, i) => acc ||| (b.toUInt64 <<< (8 * i).toUInt64)) 0)

/-- One lane step: a word is mixed into an accumulator. -/
def round (acc input : UInt64) : UInt64 :=
  rotl (acc + input * prime2) 31 * prime1

/-- Folds a finished lane into the merged accumulator. -/
def mergeRound (acc v : UInt64) : UInt64 :=
  (acc ^^^ round 0 v) * prime1 + prime4

/-- The four lane accumulators. -/
structure Lanes where
  v1 : UInt64
  v2 : UInt64
  v3 : UInt64
  v4 : UInt64

/-- Absorbs whole 32-byte stripes; returns the lanes and the bytes left over. -/
def absorbStripes (l : Lanes) (bs : List UInt8) : Lanes × List UInt8 :=
  if _h : 32 ≤ bs.length then
    let l' : Lanes :=
      { v1 := round l.v1 (readLE bs 8)
        v2 := round l.v2 (readLE (bs.drop 8) 8)
        v3 := round l.v3 (readLE (bs.drop 16) 8)
        v4 := round l.v4 (readLE (bs.drop 24) 8) }
    absorbStripes l' (bs.drop 32)
  else (l, bs)
termination_by bs.length
decreasing_by simp only [List.length_drop]; omega

/-- Absorbs the tail: eight bytes, then four, then single bytes. -/
def absorbTail (h : UInt64) (bs : List UInt8) : UInt64 :=
  if _h : 8 ≤ bs.length then
    let h' := rotl (h ^^^ round 0 (readLE bs 8)) 27 * prime1 + prime4
    absorbTail h' (bs.drop 8)
  else if 4 ≤ bs.length then
    let h' := rotl (h ^^^ readLE bs 4 * prime1) 23 * prime2 + prime3
    absorbTail h' (bs.drop 4)
  else
    match bs with
    | [] => h
    | b :: rest => absorbTail (rotl (h ^^^ b.toUInt64 * prime5) 11 * prime1) rest
termination_by bs.length
decreasing_by all_goals simp <;> omega

/-- The final mixing that spreads every input bit over the word. -/
def avalanche (h : UInt64) : UInt64 :=
  let h := (h ^^^ (h >>> 33)) * prime2
  let h := (h ^^^ (h >>> 29)) * prime3
  h ^^^ (h >>> 32)

/-- The xxHash64 digest of a byte sequence, seed zero. -/
def xxHash64 (bs : List UInt8) : UInt64 :=
  let start : UInt64 :=
    if 32 ≤ bs.length then
      let (l, _) := absorbStripes ⟨prime1 + prime2, prime2, 0, 0 - prime1⟩ bs
      let h := rotl l.v1 1 + rotl l.v2 7 + rotl l.v3 12 + rotl l.v4 18
      mergeRound (mergeRound (mergeRound (mergeRound h l.v1) l.v2) l.v3) l.v4
    else prime5
  let rest := if 32 ≤ bs.length then (absorbStripes ⟨prime1 + prime2, prime2, 0, 0 - prime1⟩ bs).2
    else bs
  avalanche (absorbTail (start + bs.length.toUInt64) rest)

/-- The fingerprint of a text: the digest of its UTF-8 bytes in sixteen hexadecimal digits. -/
def fingerprint (s : String) : String :=
  Text.hex16 (xxHash64 s.toUTF8.toList)

end Stencil.Digest

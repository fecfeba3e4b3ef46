import Stencil.Directive.Handlers
import Stencil.Text.Hex
/-!
# Issuing anti-forgery tokens

An issuer hands out anti-forgery tokens and takes each back once. A token is two 128-bit
identifiers written as hexadecimal without dashes: 64 lower-case digits. An issuer
remembers the tokens it handed out and not yet taken back; a fresh token that is still out is
drawn again, up to eight times before giving up. Taking back a token the issuer does not hold
fails, so a token is good once.

The identifiers come from a supply; `IdSupply.splitMix` is a deterministic one of random
identifiers of version 4, drawing words from a seed by the SplitMix64 mixing function.
-/

namespace Stencil

/-- A supply of 128-bit identifiers: the `n`-th draw, counted from zero, gives an identifier or
fails. -/
structure IdSupply where
  draw : Nat → Except Fault Nat

/-- The SplitMix64 finaliser: mixes a 64-bit word so that nearby inputs give unrelated outputs. -/
def splitMixWord (z : UInt64) : UInt64 :=
  let z := z + 0x9e3779b97f4a7c15
  let z := (z ^^^ (z >>> 30)) * 0xbf58476d1ce4e5b9
  let z := (z ^^^ (z >>> 27)) * 0x94d049bb133111eb
  z ^^^ (z >>> 31)

/-- A random word as an identifier of version 4: bits 76 to 79 say version 4, and bits 62 and 63
say the standard variant. -/
def versionFour (w : Nat) : Nat :=
  let w := w % Nat.pow 2 128
  let w := w - (w / Nat.pow 2 76 % 16) * Nat.pow 2 76 + 4 * Nat.pow 2 76
  w - (w / Nat.pow 2 62 % 4) * Nat.pow 2 62 + 2 * Nat.pow 2 62

/-- A deterministic supply of random identifiers of version 4: the `n`-th is made of the mixed
words `2n` and `2n + 1` past the seed. -/
def IdSupply.splitMix (seed : UInt64) : IdSupply :=
  ⟨fun n =>
    let step : UInt64 := 0x9e3779b97f4a7c15
    let hi := splitMixWord (seed + step * (2 * n).toUInt64)
    let lo := splitMixWord (seed + step * (2 * n + 1).toUInt64)
    .ok (versionFour (hi.toNat * Nat.pow 2 64 + lo.toNat))⟩

/-- An identifier as 32 lower-case hexadecimal digits. -/
def identifierHex (w : Nat) : String :=
  String.ofList (Text.hexDigits 32 w)

/-- The tokens of a supply of words as the compiler draws them: the `n`-th token is made of the
words `2n` and `2n + 1`. -/
def IdSupply.tokens (s : IdSupply) : TokenSupply :=
  ⟨fun n => do
    let a ← s.draw (2 * n)
    let b ← s.draw (2 * n + 1)
    return identifierHex a ++ identifierHex b⟩

/-- An issuer: where it draws randomness, how many words it drew, and the tokens out. -/
structure TokenIssuer where
  supply : IdSupply
  drawn : Nat := 0
  issued : List String := []

namespace TokenIssuer

/-- The most draws of a token before giving up. -/
def maxAttempts : Nat := 8

/-- The fault of a failed read of randomness. -/
def randomnessFailed (f : Fault) : Fault :=
  f.wrap "failed to read randomness for anti-forgery token"

/-- The fault of a token drawn `maxAttempts` times, every time one still out. -/
def exhausted : Fault :=
  ((Fault.condition .tokenExhausted).wrap "cannot create anti-forgery token").withDetail
    "attempts" (.int maxAttempts)

/-- Draws a token: two identifiers, or the failure to read randomness. Every draw uses up a word
of the supply, a failed one too. -/
def mint (s : TokenIssuer) : Except Fault String × TokenIssuer :=
  match s.supply.draw s.drawn with
  | .error e => (.error (randomnessFailed e), { s with drawn := s.drawn + 1 })
  | .ok a =>
    match s.supply.draw (s.drawn + 1) with
    | .error e => (.error (randomnessFailed e), { s with drawn := s.drawn + 2 })
    | .ok b => (.ok (identifierHex a ++ identifierHex b), { s with drawn := s.drawn + 2 })

/-- Hands out a fresh token, drawing again while the token drawn is still out. A failure leaves
the tokens out as they were, with the words drawn used up. -/
def create (s : TokenIssuer) : Except Fault String × TokenIssuer :=
  go maxAttempts s
where
  go : Nat → TokenIssuer → Except Fault String × TokenIssuer
    | 0, s => (.error exhausted, s)
    | n + 1, s =>
      match s.mint with
      | (.error e, s) => (.error e, s)
      | (.ok tok, s) =>
        if s.issued.contains tok then go n s
        else (.ok tok, { s with issued := s.issued ++ [tok] })

/-- Takes back a token: whether it was out. -/
def consume (s : TokenIssuer) (tok : String) : Bool × TokenIssuer :=
  if s.issued.contains tok then (true, { s with issued := s.issued.erase tok }) else (false, s)

/-- How many tokens are out. -/
def size (s : TokenIssuer) : Nat := s.issued.length

end TokenIssuer

end Stencil

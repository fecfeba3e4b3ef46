import Stencil.Text.Hex
/-!
# Tables of code points

Sets of code points and maps from keys to text, as the character classes of Unicode, its case
folding and the named references of HTML need them. A table is written once as compact text and
read into a sorted array; a look-up halves the part of the array still in question until the key
is found or nothing is left.

A set is written as hexadecimal ranges separated by blanks: `20-7e`, or `ad` for a single code
point. A map is written as entries `key:value` separated by blanks, where the value is one or more
hexadecimal code points joined by `+`.
-/

namespace Stencil.Unicode

/-- The value of a text of hexadecimal digits; a character that is no digit counts as zero. -/
def hexNumber (s : String) : Nat :=
  s.foldl (fun n c => n * 16 + (Text.hexValue c).getD 0) 0

/-- The words of a table text: its pieces between blanks. -/
def words (s : String) : List String :=
  (s.splitOn " ").filter (· != "")

/-- A set of code points: closed ranges, sorted and apart. -/
structure RangeTable where
  ranges : Array (Nat × Nat)

namespace RangeTable

/-- Reads a set written as ranges separated by blanks. -/
def ofText (s : String) : RangeTable :=
  ⟨(words s).toArray.map fun w =>
    match w.splitOn "-" with
    | [a, b] => (hexNumber a, hexNumber b)
    | _ => (hexNumber w, hexNumber w)⟩

/-- Whether a code point lies in one of the ranges from index `lo` up to, not including, `hi`. -/
def within (t : RangeTable) (n lo hi : Nat) : Bool :=
  if lo < hi then
    let mid := (lo + hi) / 2
    let (a, b) := t.ranges.getD mid (0, 0)
    if n < a then t.within n lo mid
    else if b < n then t.within n (mid + 1) hi
    else true
  else false
termination_by hi - lo

/-- Whether a character is in the set. -/
def contains (t : RangeTable) (c : Char) : Bool :=
  t.within c.toNat 0 t.ranges.size

end RangeTable

/-- A map from keys to texts, sorted by key. -/
structure TextMap (κ : Type) where
  entries : Array (κ × String)

namespace TextMap

variable {κ : Type}

/-- The text of hexadecimal code points joined by `+`. -/
def codePointsText (s : String) : String :=
  String.ofList ((s.splitOn "+").map fun w => Char.ofNat (hexNumber w))

/-- Reads a map written as `key:value` entries separated by blanks, the key read by `key`. -/
def ofText (key : String → κ) (s : String) : TextMap κ :=
  ⟨(words s).toArray.map fun w =>
    match w.splitOn ":" with
    | [k, v] => (key k, codePointsText v)
    | _ => (key w, "")⟩

/-- The text of a key among the entries from index `lo` up to, not including, `hi`. -/
def findIn [Ord κ] (m : TextMap κ) (k : κ) (lo hi : Nat) : Option String :=
  if lo < hi then
    let mid := (lo + hi) / 2
    match m.entries[mid]? with
    | some (k', v) =>
      match compare k k' with
      | .lt => m.findIn k lo mid
      | .gt => m.findIn k (mid + 1) hi
      | .eq => some v
    | none => none
  else none
termination_by hi - lo

/-- The text of a key. -/
def find? [Ord κ] (m : TextMap κ) (k : κ) : Option String :=
  m.findIn k 0 m.entries.size

end TextMap

end Stencil.Unicode

import Stencil.Text.Search
/-!
# Scanning text for matches

A *recogniser* looks at the front of a text and either refuses or accepts a nonempty prefix,
with a value read from it. Scanning tries the recogniser at every position from the left; a match
is taken whole and the scan goes on after it, so matches never overlap. A *line recogniser* is
also told whether its position starts a line (the start of the text, or just after a newline).

`replaceMatches` puts the image of each match in its place; `firstMatch` finds the leftmost match;
`allMatches` lists the values of all of them.
-/

namespace Stencil.Text

/-- Accepts a prefix of the given length, with a value, or refuses. Lengths of zero count as
refusals. -/
abbrev Recogniser (α : Type) := List Char → Option (α × Nat)

/-- A recogniser told whether its position starts a line. -/
abbrev LineRecogniser (α : Type) := Bool → List Char → Option (α × Nat)

/-- Whether the whitespace class of patterns holds `c`: space, tab, newline, form feed and
carriage return. -/
def isSpace (c : Char) : Bool :=
  c == ' ' || c == '\t' || c == '\n' || c == '\x0c' || c == '\r'

/-- Whether `c` is a word character: an ASCII letter, digit or underscore. -/
def isWordChar (c : Char) : Bool :=
  ('a' ≤ c && c ≤ 'z') || ('A' ≤ c && c ≤ 'Z') || ('0' ≤ c && c ≤ '9') || c == '_'

/-- Whether `c` is an ASCII letter or digit. -/
def isAlnum (c : Char) : Bool :=
  ('a' ≤ c && c ≤ 'z') || ('A' ≤ c && c ≤ 'Z') || ('0' ≤ c && c ≤ '9')

variable {α : Type}

/-- Replaces every match of `m` by `f` of its value, scanning from the left. -/
def replaceMatches (m : Recogniser α) (f : α → List Char) : List Char → List Char
  | [] => []
  | c :: cs =>
    match m (c :: cs) with
    | some (v, n + 1) => f v ++ replaceMatches m f ((c :: cs).drop (n + 1))
    | _ => c :: replaceMatches m f cs
termination_by s => s.length
decreasing_by
  · exact length_drop_succ_lt _ _ _
  · simp

/-- The leftmost match of `m`: the text before it, its value and the text after it. -/
def firstMatch (m : Recogniser α) : List Char → Option (List Char × α × List Char)
  | [] => none
  | c :: cs =>
    match m (c :: cs) with
    | some (v, n + 1) => some ([], v, (c :: cs).drop (n + 1))
    | _ => (firstMatch m cs).map fun (pre, v, post) => (c :: pre, v, post)

/-- The values of every match of `m`, scanning from the left. -/
def allMatches (m : Recogniser α) : List Char → List α
  | [] => []
  | c :: cs =>
    match m (c :: cs) with
    | some (v, n + 1) => v :: allMatches m ((c :: cs).drop (n + 1))
    | _ => allMatches m cs
termination_by s => s.length
decreasing_by
  · exact length_drop_succ_lt _ _ _
  · simp

/-- Replaces every match of a line recogniser by `f` of its value; `atStart` says whether the
text starts a line. -/
def replaceLineMatches (m : LineRecogniser α) (f : α → List Char) (atStart : Bool) :
    List Char → List Char
  | [] => []
  | c :: cs =>
    match m atStart (c :: cs) with
    | some (v, n + 1) =>
      f v ++ replaceLineMatches m f (((c :: cs).take (n + 1)).getLast? == some '\n')
        ((c :: cs).drop (n + 1))
    | _ => c :: replaceLineMatches m f (c == '\n') cs
termination_by s => s.length
decreasing_by
  · exact length_drop_succ_lt _ _ _
  · simp

/-- The length of the longest prefix whose characters all satisfy `p`. -/
def spanLength (p : Char → Bool) (s : List Char) : Nat :=
  (s.takeWhile p).length

/-- Recognises `opener body closer` with a body of at least one character, the shortest such
body; the value is the body. -/
def blockAt (opener closer : List Char) : Recogniser (List Char) := fun s =>
  if opener.isPrefixOf s then
    match s.drop opener.length with
    | [] => none
    | c :: rest =>
      match breakOn closer rest with
      | none => none
      | some (b, _) => some (c :: b, opener.length + 1 + b.length + closer.length)
  else none

end Stencil.Text

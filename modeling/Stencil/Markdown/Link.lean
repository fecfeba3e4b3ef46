import Stencil.Markdown.Tag
import Stencil.Unicode.Fold
/-!
# Link parts

The parts of links shared by link reference definitions and inline links: the label in square
brackets, the destination (in angle brackets, or a run without blanks whose parentheses balance),
and the title (in double quotes, single quotes or parentheses). Labels are matched after folding
case and collapsing blanks. Backslash escapes of ASCII punctuation and character references are
resolved in destinations and titles.
-/

namespace Stencil.Markdown

/-- Where a link points: its destination and title as written, escapes and references still in
them; a link without a title has none. -/
structure LinkTarget where
  dest : String
  title : Option String
deriving Inhabited

/-- The value of a run of decimal or hexadecimal digits. -/
def numericValue (hex : Bool) (ds : List Char) : Nat :=
  ds.foldl (fun n c =>
    let d := if isAsciiDigit c then c.toNat - 48
      else if 'a' ≤ c && c ≤ 'f' then c.toNat - 87 else c.toNat - 55
    n * (if hex then 16 else 10) + d) 0

/-- Reads a character reference `&name;`, `&#123;` or `&#x1F;` at the front (after the `&`):
its characters and the length read after the `&`. -/
def readReference (cs : List Char) : Option (String × Nat) :=
  match cs with
  | '#' :: x :: rest =>
    if x == 'x' || x == 'X' then
      let ds := rest.takeWhile fun c => isAsciiDigit c || ('a' ≤ c && c ≤ 'f') || ('A' ≤ c && c ≤ 'F')
      if 1 ≤ ds.length && ds.length ≤ 6 && (rest.drop ds.length).head? == some ';' then
        some ((codePoint (numericValue true ds)).toString, ds.length + 3)
      else none
    else
      let ds := (x :: rest).takeWhile isAsciiDigit
      if 1 ≤ ds.length && ds.length ≤ 7 && ((x :: rest).drop ds.length).head? == some ';' then
        some ((codePoint (numericValue false ds)).toString, ds.length + 2)
      else none
  | _ =>
    let name := cs.takeWhile fun c => isAsciiLetter c || isAsciiDigit c
    if name.isEmpty || (cs.drop name.length).head? != some ';' then none
    else (entity? (String.ofList name)).map fun s => (s, name.length + 1)

/-- Resolves backslash escapes and character references. -/
def unescape (cs : List Char) : String :=
  let rec go (fuel : Nat) (acc : String) (r : List Char) : String :=
    match fuel with
    | 0 => acc ++ String.ofList r
    | f + 1 =>
      match r with
      | [] => acc
      | '\\' :: c :: t => if isAsciiPunct c then go f (acc.push c) t else go f (acc.push '\\') (c :: t)
      | '&' :: t =>
        match readReference t with
        | some (s, n) => go f (acc ++ s) (t.drop n)
        | none => go f (acc.push '&') t
      | c :: t => go f (acc.push c) t
  go (cs.length + 1) "" cs

/-- Reads a link label `[...]` at the front: its text and the length read. The label may hold
no unescaped `[`; its length is not limited here. -/
def readLabel (cs : List Char) : Option (List Char × Nat) :=
  match cs with
  | '[' :: rest =>
    let rec go (fuel : Nat) (n : Nat) (r : List Char) : Option Nat :=
      match fuel with
      | 0 => none
      | f + 1 =>
        match r with
          | [] => none
          | ']' :: _ => some n
          | '[' :: _ => none
          | '\\' :: c :: t => if isAsciiPunct c then go f (n + 2) t else go f (n + 1) (c :: t)
          | _ :: t => go f (n + 1) t
    (go (rest.length + 1) 0 rest).map fun n => (rest.take n, n + 2)
  | _ => none

/-- A label as it is matched: runs of blanks collapsed to one space, trimmed, and case folded. -/
def normalizeLabel (cs : List Char) : String :=
  let isGap : Char → Bool := fun c =>
    c == ' ' || c == '\t' || c == '\n' || c == '\r' || c == '\x0b' || c == '\x0c'
  let (out, _) := cs.foldl (fun (acc, gap) c =>
    if isGap c then (acc, true)
    else ((if gap && !acc.isEmpty then acc.push ' ' else acc).push c, false)) ("", false)
  Unicode.foldCase out

/-- Whether a label is too long to name a definition: more than 999 bytes. -/
def labelTooLong (cs : List Char) : Bool :=
  (String.ofList cs).utf8ByteSize > 999

/-- The length of blanks, including line breaks, at the front. -/
def blankRun (cs : List Char) : Nat :=
  (cs.takeWhile isBlankSpace).length

/-- Reads a link destination at the front, on one line: the raw text and the length read; `none`
when there is none. In angle brackets it may be empty and only an escaped `>` does not close it;
otherwise it is a run without blanks that stops before a `)` closing more than it opens. -/
def readDestination (cs : List Char) : Option (List Char × Nat) :=
  match cs with
  | '<' :: rest =>
    let rec angle (fuel : Nat) (n : Nat) (r : List Char) : Option Nat :=
      match fuel with
      | 0 => none
      | f + 1 =>
        match r with
        | [] => none
        | '>' :: _ => some n
        | '\\' :: c :: t => if isAsciiPunct c then angle f (n + 2) t else angle f (n + 1) (c :: t)
        | '\n' :: _ => none
        | _ :: t => angle f (n + 1) t
    (angle (rest.length + 1) 0 rest).map fun n => (rest.take n, n + 2)
  | _ =>
    let rec raw (fuel : Nat) (n depth : Nat) (r : List Char) : Nat :=
      match fuel with
      | 0 => n
      | f + 1 =>
        match r with
        | [] => n
        | '\\' :: c :: t => if isAsciiPunct c then raw f (n + 2) depth t else raw f (n + 1) depth (c :: t)
        | '(' :: t => raw f (n + 1) (depth + 1) t
        | ')' :: t => if depth == 0 then n else raw f (n + 1) (depth - 1) t
        | c :: t => if isBlankSpace c then n else raw f (n + 1) depth t
    let n := raw (cs.length + 1) 0 0 cs
    if n == 0 then none else some (cs.take n, n)

/-- Reads a link title at the front: its raw text and the length read. -/
def readTitle (cs : List Char) : Option (List Char × Nat) :=
  let closerOf : Char → Option Char
    | '"' => some '"'
    | '\'' => some '\''
    | '(' => some ')'
    | _ => none
  match cs with
  | o :: rest =>
    match closerOf o with
    | none => none
    | some close =>
      let rec go (fuel : Nat) (n : Nat) (r : List Char) : Option Nat :=
        match fuel with
        | 0 => none
        | f + 1 =>
          match r with
          | [] => none
          | '\\' :: c :: t => if isAsciiPunct c then go f (n + 2) t else go f (n + 1) (c :: t)
          | c :: t =>
            if c == close then some n
            else if o == '(' && c == '(' then none
            else go f (n + 1) t
      (go (rest.length + 1) 0 rest).map fun n => (rest.take n, n + 2)
  | [] => none

/-- Whether a text is blank up to the end of its first line. -/
def lineBlank (cs : List Char) : Bool := (cs.takeWhile (· != '\n')).all isBlankSpace

/-- The number of line breaks in the first `n` characters: the line, counted from the first, that
the character at `n` stands on. -/
def lineAt (cs : List Char) (n : Nat) : Nat := (cs.take n).count '\n'

/-- A link reference definition read from a paragraph: the label it defines and where it points,
the number of characters read, and the lines it takes, counted from the line reading started on:
from `firstLine` up to but not including `endLine`. -/
structure Definition where
  label : String
  target : LinkTarget
  length : Nat
  firstLine : Nat
  endLine : Nat

/-- Reads one link reference definition at the front of a paragraph's text. Blanks and line
breaks may stand before the label, after the colon, and between destination and title; the
destination ends its line unless a title follows. A title that does not close leaves the
definition without one, taking the destination's line; reading goes on from the line after the
title's opener. A title with more than blanks after it on its line is kept when the destination
ended its line, but the definition then takes the lines before the destination's line only, or
the first line when that is the destination's, and reading goes on after the title. -/
def readDefinition (cs : List Char) : Option Definition := do
  let lead := blankRun cs
  let firstLine := lineAt cs lead
  let (label, n1) ← readLabel (cs.drop lead)
  let norm := normalizeLabel label
  if norm.isEmpty then none
  match cs.drop (lead + n1) with
  | ':' :: r2 =>
    let sp1 := blankRun r2
    let r3 := r2.drop sp1
    let (dest, n2) ← readDestination r3
    let afterDest := r3.drop n2
    let destEnd := lead + n1 + 1 + sp1 + n2
    let destLine := lineAt cs destEnd
    let endsLine := lineBlank afterDest
    let sp2 := blankRun afterDest
    let r4 := afterDest.drop sp2
    let bare (length : Nat) : Option Definition :=
      if endsLine then some ⟨norm, ⟨String.ofList dest, none⟩, length, firstLine, destLine + 1⟩
      else none
    match r4 with
    | o :: _ =>
      if o == '"' || o == '\'' || o == '(' then
        if sp2 == 0 then none
        else match readTitle r4 with
          | none =>
            let opener := destEnd + sp2
            bare (opener + 1 + ((cs.drop (opener + 1)).takeWhile (· != '\n')).length + 1)
          | some (t, n3) =>
            let afterTitle := r4.drop n3
            let titleEnd := destEnd + sp2 + n3
            let target : LinkTarget := ⟨String.ofList dest, some (String.ofList t)⟩
            if lineBlank afterTitle then
              some ⟨norm, target, titleEnd, firstLine, lineAt cs titleEnd + 1⟩
            else if endsLine then
              some ⟨norm, target, titleEnd, firstLine, max destLine (firstLine + 1)⟩
            else none
      else bare destEnd
    | [] => bare destEnd
  | _ => none

/-- The lines of a text that ends each with a line feed, without the lines that ranges `[s, e)`
take; the ranges come in order, and each is taken from the lines left by those before it as if
the lines up to the end of the one before had gone. -/
def dropLineRanges (lines : List String) (ranges : List (Nat × Nat)) : List String :=
  (ranges.foldl (fun (ls, offset) (s, e) =>
    if ls.isEmpty then (ls, offset) else (ls.take (s - offset) ++ ls.drop (e - offset), e))
    (lines, 0)).1

/-- Reads link reference definitions from the front of a paragraph's text, the first definition
of a label winning; returns the definitions and the text left: the lines no definition takes. -/
def readDefinitions (defs : List (String × LinkTarget)) (cs : List Char) :
    List (String × LinkTarget) × List Char :=
  let rec go (fuel : Nat) (defs : List (String × LinkTarget)) (r : List Char) (line : Nat)
      (taken : List (Nat × Nat)) : List (String × LinkTarget) × List (Nat × Nat) :=
    match fuel with
    | 0 => (defs, taken)
    | f + 1 =>
      match readDefinition r with
      | some d =>
        let defs := if defs.any (·.1 == d.label) then defs else defs ++ [(d.label, d.target)]
        let taken := taken ++ [(line + d.firstLine, line + d.endLine)]
        if d.length == 0 then (defs, taken) else go f defs (r.drop d.length) (line + lineAt r d.length) taken
      | none => (defs, taken)
  let (defs, taken) := go (cs.length + 1) defs cs 0 []
  if taken.isEmpty then (defs, cs)
  else
    let lines := (String.ofList cs).splitOn "\n"
    let lines := lines.take (lines.length - 1)
    (defs, (dropLineRanges lines taken).flatMap fun l => l.toList ++ ['\n'])

end Stencil.Markdown

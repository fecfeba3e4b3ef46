import Stencil.Format.Yaml.Resolve
import Stencil.Text.Hex
import Stencil.Unicode.Class
/-!
# Writing YAML

YAML documents in block style, two spaces per level, with text scalars written in the first
style that keeps them intact:

* *plain*, when the text reads back as text and has no character that would be taken for YAML
  syntax (an indicator at its start, `: ` or ` #` inside, blanks at either end, line breaks);
* *single-quoted*, when only the plain form is refused, `'` written twice;
* *literal* (`|`), for text with a newline that has no trailing blank, no blank before a break and
  no character outside the printable set; a chomping mark says whether it ends without a break
  (`-`), with one, or with more (`+`), and an indentation mark comes first when the text starts
  with a blank;
* *double-quoted* otherwise, with escapes for everything outside the printable set.

The printable set is the newline, the visible ASCII characters and the code points from U+00A0 to
U+FFFD apart from the surrogates and the byte order mark; characters beyond U+FFFF are not in it.
-/

namespace Stencil.Yaml

/-- A YAML node: text, a sequence, or a mapping with text keys. -/
inductive Node where
  | scalar (s : String)
  | seq (items : List Node)
  | map (entries : List (String × Node))

/-- Whether a character is in the printable set. -/
def isPrintable (c : Char) : Bool :=
  let n := c.toNat
  n == 0x0A || (0x20 ≤ n && n ≤ 0x7E) || (0xA0 ≤ n && n ≤ 0xD7FF) ||
    (0xE000 ≤ n && n ≤ 0xFFFD && n != 0xFEFF)

/-- Whether a character breaks a line. -/
def isBreak (c : Char) : Bool :=
  c == '\n' || c == '\r' || c.toNat == 0x85 || c.toNat == 0x2028 || c.toNat == 0x2029

/-- Whether a character is a space or a tab. -/
def isBlankChar (c : Char) : Bool := c == ' ' || c == '\t'

/-- What the characters of a text allow. -/
structure Allowed where
  multiline : Bool
  flowPlain : Bool
  blockPlain : Bool
  singleQuoted : Bool
  block : Bool

/-- The state of the scan of a scalar. -/
structure ScanState where
  blockIndicators : Bool := false
  flowIndicators : Bool := false
  lineBreaks : Bool := false
  special : Bool := false
  tabs : Bool := false
  leadingSpace : Bool := false
  leadingBreak : Bool := false
  trailingSpace : Bool := false
  trailingBreak : Bool := false
  breakSpace : Bool := false
  spaceBreak : Bool := false
  precededByWhitespace : Bool := true
  previousSpace : Bool := false
  previousBreak : Bool := false

/-- Scans one character at index `i`; `next` is the character after it, if any. -/
def scanChar (st : ScanState) (i : Nat) (c : Char) (next : Option Char) : ScanState :=
  let followed := match next with
    | none => true
    | some d => isBlankChar d || isBreak d
  let last := next.isNone
  let st :=
    if i == 0 then
      if "#,[]{}&*!|>'\"%@`".toList.contains c then
        { st with flowIndicators := true, blockIndicators := true }
      else if c == '?' || c == ':' then
        { st with flowIndicators := true, blockIndicators := st.blockIndicators || followed }
      else if c == '-' && followed then
        { st with flowIndicators := true, blockIndicators := true }
      else st
    else
      if ",?[]{}".toList.contains c then { st with flowIndicators := true }
      else if c == ':' then
        { st with flowIndicators := true, blockIndicators := st.blockIndicators || followed }
      else if c == '#' && st.precededByWhitespace then
        { st with flowIndicators := true, blockIndicators := true }
      else st
  let st :=
    if c == '\t' then { st with tabs := true }
    else if !isPrintable c then { st with special := true }
    else st
  let st :=
    if c == ' ' then
      { st with leadingSpace := st.leadingSpace || i == 0
                trailingSpace := st.trailingSpace || last
                breakSpace := st.breakSpace || st.previousBreak
                previousSpace := true, previousBreak := false }
    else if isBreak c then
      { st with lineBreaks := true
                leadingBreak := st.leadingBreak || i == 0
                trailingBreak := st.trailingBreak || last
                spaceBreak := st.spaceBreak || st.previousSpace
                previousSpace := false, previousBreak := true }
    else { st with previousSpace := false, previousBreak := false }
  { st with precededByWhitespace := isBlankChar c || isBreak c }

/-- Scans every character. -/
def scanAll (st : ScanState) (i : Nat) : List Char → ScanState
  | [] => st
  | c :: rest => scanAll (scanChar st i c rest.head?) (i + 1) rest

/-- What a text allows. -/
def analyse (s : String) : Allowed :=
  let cs := s.toList
  if cs.isEmpty then ⟨false, false, true, true, false⟩
  else
    let st0 : ScanState :=
      if cs.take 3 == ['-', '-', '-'] || cs.take 3 == ['.', '.', '.'] then
        { blockIndicators := true, flowIndicators := true }
      else {}
    let st := scanAll st0 0 cs
    let edge := st.leadingSpace || st.leadingBreak || st.trailingSpace || st.trailingBreak
    let bad := st.spaceBreak || st.tabs || st.special
    { multiline := st.lineBreaks
      flowPlain := !(edge || st.breakSpace || bad || st.lineBreaks || st.flowIndicators)
      blockPlain := !(edge || st.breakSpace || bad || st.lineBreaks || st.blockIndicators)
      singleQuoted := !(st.breakSpace || bad)
      block := !(st.trailingSpace || st.spaceBreak || st.special) }

/-- The styles of a scalar. -/
inductive Style where
  | plain
  | singleQuoted
  | doubleQuoted
  | literal
deriving DecidableEq, Repr

/-- The style a text scalar is written in; `simpleKey` when it is a mapping key. -/
def styleOf (s : String) (simpleKey : Bool) : Style :=
  let a := analyse s
  let wanted : Style :=
    if s.toList.contains '\n' then .literal
    else if plainIsText s then .plain
    else .doubleQuoted
  let wanted := if simpleKey && a.multiline then .doubleQuoted else wanted
  let wanted :=
    if wanted == .plain && (!a.blockPlain || (s.isEmpty && simpleKey)) then .singleQuoted
    else wanted
  let wanted := if wanted == .singleQuoted && !a.singleQuoted then .doubleQuoted else wanted
  if wanted == .literal && (!a.block || simpleKey) then .doubleQuoted else wanted

/-- The escape of a character in a double-quoted scalar, if it needs one. -/
def escapeOf (c : Char) : Option String :=
  let n := c.toNat
  if isPrintable c && n != 0xFEFF && !isBreak c && c != '"' && c != '\\' then none
  else some <|
    match n with
    | 0x00 => "\\0"
    | 0x07 => "\\a"
    | 0x08 => "\\b"
    | 0x09 => "\\t"
    | 0x0A => "\\n"
    | 0x0B => "\\v"
    | 0x0C => "\\f"
    | 0x0D => "\\r"
    | 0x1B => "\\e"
    | 0x22 => "\\\""
    | 0x5C => "\\\\"
    | 0x85 => "\\N"
    | 0xA0 => "\\_"
    | 0x2028 => "\\L"
    | 0x2029 => "\\P"
    | _ =>
      let up (cs : List Char) := String.ofList (cs.map Char.toUpper)
      if n ≤ 0xFF then "\\x" ++ up (Text.hexDigits 2 n)
      else if n ≤ 0xFFFF then "\\u" ++ up (Text.hexDigits 4 n)
      else "\\U" ++ up (Text.hexDigits 8 n)

/-- A double-quoted scalar. -/
def doubleQuoted (s : String) : String :=
  "\"" ++ String.join (s.toList.map fun c => (escapeOf c).getD c.toString) ++ "\""

/-- The spaces of an indentation. -/
def spaces (n : Nat) : String := String.ofList (List.replicate n ' ')

/-- A single-quoted scalar whose lines continue at `indent`. -/
def singleQuoted (indent : Nat) (s : String) : String :=
  let (out, _) := s.toList.foldl (fun (acc, breaks) c =>
      if isBreak c then
        (acc ++ (if !breaks && c == '\n' then "\n" else "") ++ c.toString, true)
      else
        let pre := if breaks then spaces indent else ""
        (acc ++ pre ++ (if c == '\'' then "''" else c.toString), false)) ("", false)
  "'" ++ out ++ "'"

/-- The header marks of a literal scalar: indentation when it starts with a blank or break, and
chomping by how it ends. Also whether it ends with more than one break. -/
def literalHints (s : String) : String × Bool :=
  let cs := s.toList
  let ind := match cs.head? with
    | some c => if c == ' ' || isBreak c then "2" else ""
    | none => ""
  match cs.reverse with
  | [] => (ind ++ "-", false)
  | c :: rest =>
    if !isBreak c then (ind ++ "-", false)
    else match rest with
      | [] => (ind ++ "+", true)
      | d :: _ => if isBreak d then (ind ++ "+", true) else (ind, false)

/-- The lines of a literal scalar at `indent`. A line break that starts the text ends the
header line; otherwise the first line starts on a new line. -/
def literalBody (indent : Nat) (s : String) : String :=
  let (out, _, _) := s.toList.foldl (fun (acc, breaks, fresh) c =>
      if isBreak c then (acc ++ c.toString, true, true)
      else
        let pre := if breaks then (if fresh then "" else "\n") ++ spaces indent else ""
        (acc ++ pre ++ c.toString, false, false)) ("", true, false)
  out

/-- A scalar in a value position whose continuation lines sit at `indent`: its text, and whether
it leaves the document open (a literal ending in several breaks). -/
def scalarText (indent : Nat) (s : String) : String × Bool :=
  match styleOf s false with
  | .plain => (s, false)
  | .singleQuoted => (singleQuoted indent s, false)
  | .doubleQuoted => (doubleQuoted s, false)
  | .literal =>
    let (hints, openEnded) := literalHints s
    ("|" ++ hints ++ literalBody indent s, openEnded)

/-- A mapping key. -/
def keyText (s : String) : String :=
  match styleOf s true with
  | .plain => s
  | .singleQuoted => singleQuoted 0 s
  | _ => doubleQuoted s

/-- Whether a key is written in the simple form `key:`: it stays on one line and takes at most
128 bytes. Any other key is written after `?`, its value after `:` on a line of its own. -/
def isSimpleKey (k : String) : Bool :=
  !(analyse k).multiline && k.utf8ByteSize ≤ 128

/-- The emitter's output so far and whether the document is left open: a literal scalar ending in
several breaks leaves it open until an indicator (`-`, `?` or `:`) is written after it. -/
structure Out where
  text : String := ""
  openEnded : Bool := false

/-- Writes an indicator or other text that closes an open literal. -/
def Out.put (o : Out) (s : String) : Out := { text := o.text ++ s, openEnded := false }

/-- Writes a text scalar standing after an indicator, whose continuation lines sit at
`indent`. -/
def emitScalar (indent : Nat) (o : Out) (s : String) : Out :=
  let (t, oe) := scalarText indent s
  let lineEnd := if t.toList.getLast?.map isBreak == some true then "" else "\n"
  { text := o.text ++ " " ++ t ++ lineEnd
    openEnded := if (styleOf s false) == .literal then oe else o.openEnded }

mutual
/-- Writes a node standing after `key:` or `- `, whose block content sits at `indent`. -/
def emitValue (indent : Nat) (o : Out) : Node → Out
  | .scalar s => emitScalar indent o s
  | .seq [] => { o with text := o.text ++ " []\n" }
  | .map [] => { o with text := o.text ++ " \x7b\x7d\n" }
  | .seq (x :: xs) => emitItems indent false { o with text := o.text ++ "\n" } (x :: xs)
  | .map (e :: es) => emitEntries indent false { o with text := o.text ++ "\n" } (e :: es)

/-- Writes sequence items at `indent`; with `inline` the first item continues the current line,
one column before `indent`. -/
def emitItems (indent : Nat) (inline : Bool) (o : Out) : List Node → Out
  | [] => o
  | x :: xs =>
    let o := o.put ((if inline then " " else spaces indent) ++ "-")
    let o := match x with
      | .map (e :: es) => emitEntries (indent + 2) true { o with text := o.text ++ " " } (e :: es)
      | other => emitValue (indent + 2) o other
    emitItems indent false o xs

/-- Writes mapping entries at `indent`; with `inline` the first key continues the current line. -/
def emitEntries (indent : Nat) (inline : Bool) (o : Out) : List (String × Node) → Out
  | [] => o
  | (k, v) :: rest =>
    let pre := if inline then "" else spaces indent
    let o :=
      if isSimpleKey k then emitValue (indent + 2) (o.put (pre ++ keyText k ++ ":")) v
      else
        -- the value follows `:` on a line of its own; a sequence starts on that line
        let o := emitScalar (indent + 2) (o.put (pre ++ "?")) k
        let o := o.put (spaces indent ++ ":")
        match v with
        | .seq (x :: xs) => emitItems (indent + 2) true o (x :: xs)
        | other => emitValue (indent + 2) o other
    emitEntries indent false o rest
end

/-- Whether one text key comes before another in the order mappings are written in. Keys are
compared character by character: at the first difference two letters go by code point; a letter
and another character put the letter last, unless a digit came just before, which puts it
first; otherwise the runs of digits starting there are compared as numbers (the digits just
before counting when they are not all zeros), then by length, then the characters by code point.
A key that is a prefix of the other comes first. -/
def keyLess (a b : String) : Bool :=
  let ar := a.toList.toArray
  let br := b.toList.toArray
  go ar br 0 false (min ar.size br.size + 1)
where
  /-- A number as a signed 64-bit word: the value wraps around past the range. -/
  wrap (n : Int) : Int :=
    let m := n % 18446744073709551616
    if m ≥ 9223372036854775808 then m - 18446744073709551616 else m
  /-- The value of the run of digits from index `i`, starting from `n`, and the index after it. -/
  digitRun (cs : Array Char) (i : Nat) (n : Int) : Nat → Nat × Int
    | 0 => (i, n)
    | fuel + 1 =>
      match cs[i]? with
      | some c =>
        if Unicode.isDecimalDigit c then digitRun cs (i + 1) (wrap (n * 10 + (c.toNat - 48 : Nat))) fuel
        else (i, n)
      | none => (i, n)
  /-- Whether a digit other than zero is among the digits just before index `i`. -/
  nonzeroBefore (cs : Array Char) : Nat → Bool
    | 0 => false
    | j + 1 =>
      match cs[j]? with
      | some c => Unicode.isDecimalDigit c && (c != '0' || nonzeroBefore cs j)
      | none => false
  go (ar br : Array Char) (i : Nat) (digits : Bool) : Nat → Bool
    | 0 => ar.size < br.size
    | fuel + 1 =>
      match ar[i]?, br[i]? with
      | some x, some y =>
        if x == y then go ar br (i + 1) (Unicode.isDecimalDigit x) fuel
        else
          let al := Unicode.isLetter x
          let bl := Unicode.isLetter y
          if al && bl then x < y
          else if al || bl then (if digits then al else bl)
          else
            let start : Int := if (x == '0' || y == '0') && nonzeroBefore ar i then 1 else 0
            let (ai, an) := digitRun ar i start ar.size
            let (bi, bn) := digitRun br i start br.size
            if an != bn then an < bn
            else if ai != bi then ai < bi
            else x < y
      | _, _ => ar.size < br.size

/-- Sorts mapping entries by their keys, inserting each entry in turn into the sorted entries
before it, moving it back past every entry whose key comes after its own. -/
def sortEntries {α : Type} (es : List (String × α)) : List (String × α) :=
  es.foldl (fun sorted e => insertBack e sorted) []
where
  insertBack (e : String × α) (sorted : List (String × α)) : List (String × α) :=
    (go e sorted.reverse).reverse
  go (e : String × α) : List (String × α) → List (String × α)
    | [] => [e]
    | d :: ds => if keyLess e.1 d.1 then d :: go e ds else e :: d :: ds

/-- A document whose root is a mapping; an open document is closed by `...`. -/
def document (entries : List (String × Node)) : String :=
  match entries with
  | [] => "{}\n"
  | _ =>
    let o := emitEntries 0 false {} entries
    if o.openEnded then o.text ++ "...\n" else o.text

end Stencil.Yaml

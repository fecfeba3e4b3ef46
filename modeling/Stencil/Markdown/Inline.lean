import Stencil.Markdown.Block
/-!
# Markdown inlines

The inline content of a paragraph or heading, read left to right. Code spans, backslash escapes,
character references, autolinks and inline HTML are read where they start. Runs of `*` and `_`
and the brackets of links are first kept as pieces; a `]` looks back for the nearest bracket and
makes a link when an inline destination, a reference label or the bracketed text itself names
one; emphasis is decided last, between the runs that remain, by the rules of flanking and the rule
of three.
-/

namespace Stencil.Markdown

/-- An inline element. Text holds characters with escapes and references resolved; link
targets hold their destination and title as written. -/
inductive Inline where
  | text (s : String)
  | code (s : String)
  | softBreak
  | hardBreak
  | rawHtml
  | emphasis (strong : Bool) (children : List Inline)
  | link (target : LinkTarget) (children : List Inline)
  | image (target : LinkTarget) (children : List Inline)
  | autolink (address : String) (email : Bool)
deriving Inhabited

/-- Whether an inline is or holds a link. -/
def Inline.hasLink : Inline → Bool
  | .link _ _ => true
  | .emphasis _ cs => anyLink cs
  | .image _ cs => anyLink cs
  | _ => false
where
  anyLink : List Inline → Bool
    | [] => false
    | c :: cs => c.hasLink || anyLink cs

/-- A piece of inline content while it is read: a finished inline, a run of emphasis characters
with what is left of it, or an opening bracket waiting for its `]`. -/
inductive Piece where
  | done (i : Inline)
  | run (ch : Char) (count length : Nat) (canOpen canClose : Bool)
  | opener (image : Bool) (start : Nat)
deriving Inhabited

/-- A piece as an inline, runs and brackets left over becoming text. -/
def Piece.toInline : Piece → Inline
  | .done i => i
  | .run ch count _ _ _ => .text (String.ofList (List.replicate count ch))
  | .opener image _ => .text (if image then "![" else "[")

/-! ## Emphasis -/

/-- How many characters an opener and a closer give to one emphasis: none when one of them could
both open and close and their lengths add up to a multiple of three (unless both are), else two
when both have two left, else one. -/
def emphasisUse (oCount oLength : Nat) (oClose : Bool) (cCount cLength : Nat) (cOpen : Bool) :
    Nat :=
  if (oClose || cOpen) && (oLength + cLength) % 3 == 0 && cLength % 3 != 0 then 0
  else if oCount ≥ 2 && cCount ≥ 2 then 2 else 1

/-- The nearest run before a closer that can open emphasis with it: its index and the number of
characters used, and whether a run of the same character that can open was seen at all. -/
def findOpener (ps : Array Piece) (closer : Nat) (ch : Char) (cCount cLength : Nat)
    (cOpen : Bool) : Option (Nat × Nat) × Bool :=
  go closer false
where
  go : Nat → Bool → Option (Nat × Nat) × Bool
    | 0, seen => (none, seen)
    | j + 1, seen =>
      match ps[j]? with
      | some (.run ch' count length canOpen canClose) =>
        if canOpen && ch' == ch then
          let use := emphasisUse count length canClose cCount cLength cOpen
          if use > 0 then (some (j, use), true) else go j true
        else go j seen
      | _ => go j seen

/-- The characters left in runs. -/
def runCharacters (ps : Array Piece) : Nat :=
  ps.foldl (fun n p => match p with
    | .run _ count _ _ _ => n + count
    | _ => n) 0

/-- Turns runs of `*` and `_` into emphasis: each closer, from the left, takes the nearest opener
that may match it; pieces between them become its content. -/
def resolveEmphasis (ps : Array Piece) : List Inline :=
  (go ps 0 ((runCharacters ps + 1) * (ps.size + 1))).toList.map Piece.toInline
where
  go (ps : Array Piece) (closer : Nat) : Nat → Array Piece
    | 0 => ps
    | fuel + 1 =>
      match ps[closer]? with
      | none => ps
      | some (.run ch count length canOpen canClose) =>
        if !canClose then go ps (closer + 1) fuel
        else
          match findOpener ps closer ch count length canOpen with
          | (none, seen) =>
            let ps := if !seen && !canOpen then ps.set! closer (.done (Piece.run ch count length
              canOpen canClose).toInline) else ps
            go ps (closer + 1) fuel
          | (some (j, use), _) =>
            match ps[j]? with
            | some (.run _ oCount oLength oOpen oClose) =>
              let inner := (ps.extract (j + 1) closer).toList.map Piece.toInline
              let before := ps.extract 0 j ++
                (if oCount > use then #[Piece.run ch (oCount - use) oLength oOpen oClose] else #[])
              let mid := before.push (.done (.emphasis (use == 2) inner))
              let after := (if count > use then #[Piece.run ch (count - use) length canOpen canClose]
                else #[]) ++ ps.extract (closer + 1) ps.size
              go (mid ++ after) mid.size fuel
            | _ => go ps (closer + 1) fuel
      | some _ => go ps (closer + 1) fuel

/-! ## Reading -/

/-- Whether a character ends a run of plain text. -/
def isSpecial (c : Char) : Bool :=
  c == '\n' || c == '`' || c == '\\' || c == '&' || c == '<' || c == '*' || c == '_' ||
    c == '[' || c == ']' || c == '!'

/-- Whether a character is blank for the purposes of link syntax. -/
def isLinkSpace (c : Char) : Bool := isBlankSpace c

/-- A code span at the front: its content and the length read. The closing run of backticks has
the opening run's length. The content is kept as written, line breaks too, except that content
with more than blanks in it that starts and ends with a space or line feed loses one character at
each end. -/
def codeSpan (cs : List Char) : Option (String × Nat) :=
  let n := (cs.takeWhile (· == '`')).length
  let rec find (fuel : Nat) (i : Nat) (r : List Char) : Option Nat :=
    match fuel with
    | 0 => none
    | f + 1 =>
      match r with
      | [] => none
      | '`' :: _ =>
        let m := (r.takeWhile (· == '`')).length
        if m == n then some i else find f (i + m) (r.drop m)
      | _ :: t => find f (i + 1) t
  match find (cs.length + 1) 0 (cs.drop n) with
  | some i =>
    let body := (cs.drop n).take i
    let edge (c : Option Char) : Bool := c == some ' ' || c == some '\n'
    let body := if !body.all isBlankSpace && edge body.head? && edge body.getLast?
      then (body.drop 1).dropLast else body
    some (String.ofList body, n + i + n)
  | none => none

/-- Whether a character may stand in an autolink's scheme after its first letter. -/
def isSchemeChar (c : Char) : Bool := isAsciiLetter c || isAsciiDigit c || c == '+' || c == '.' || c == '-'

/-- Whether a character may stand in the local part of an address. -/
def isAddressChar (c : Char) : Bool :=
  isAsciiLetter c || isAsciiDigit c || ".!#$%&'*+/=?^_`{|}~-".toList.contains c

/-- The length of a domain label at the front: a letter or digit, then up to 62 more letters,
digits and hyphens, as many as can be taken ending in a letter or digit. -/
def domainLabelLength (cs : List Char) : Nat :=
  match cs with
  | c :: rest =>
    if isAsciiLetter c || isAsciiDigit c then
      let run := (rest.takeWhile fun d => isAsciiLetter d || isAsciiDigit d || d == '-').take 62
      1 + (run.reverse.dropWhile (· == '-')).length
    else 0
  | [] => 0

/-- The length of a domain at the front: labels joined by dots, a dot counting only when a label
follows it. -/
def domainLength (cs : List Char) : Nat :=
  let first := domainLabelLength cs
  if first == 0 then 0 else go cs.length first (cs.drop first)
where
  go (fuel n : Nat) (r : List Char) : Nat :=
    match fuel, r with
    | f + 1, '.' :: t =>
      let k := domainLabelLength t
      if k == 0 then n else go f (n + 1 + k) (t.drop k)
    | _, _ => n

/-- An autolink `<scheme:...>` or `<local@domain>` at the front: the address, whether it is an
e-mail address, and the length read. -/
def autolink (cs : List Char) : Option (String × Bool × Nat) :=
  match cs with
  | '<' :: rest =>
    let user := rest.takeWhile isAddressChar
    let email : Option (String × Bool × Nat) :=
      if user.isEmpty then none
      else match rest.drop user.length with
        | '@' :: r =>
          let dom := r.take (domainLength r)
          match r.drop dom.length with
          | '>' :: _ =>
            if dom.isEmpty then none
            else some (String.ofList (user ++ '@' :: dom), true, user.length + dom.length + 3)
          | _ => none
        | _ => none
    match email with
    | some e => some e
    | none =>
      match rest with
      | c :: _ =>
        if !isAsciiLetter c then none
        else
          let scheme := rest.takeWhile isSchemeChar
          if scheme.length < 2 || scheme.length > 32 then none
          else match rest.drop scheme.length with
            | ':' :: r =>
              let body := r.takeWhile fun c => c.toNat > 0x20 && c != '<' && c != '>' && c.toNat != 0x7F
              match r.drop body.length with
              | '>' :: _ => some (String.ofList (scheme ++ ':' :: body), false, scheme.length + body.length + 3)
              | _ => none
            | _ => none
      | [] => none
  | _ => none

/-- The rest of a bracketed or quoted part up to its closer, escapes skipped; another opener
before it ends the search. Returns the part and the length through the closer. -/
def closedBy (opener closer : Char) (cs : List Char) : Option (List Char × Nat) :=
  let rec go (fuel : Nat) (n : Nat) (r : List Char) : Option Nat :=
    match fuel with
    | 0 => none
    | f + 1 =>
      match r with
      | [] => none
      | '\\' :: c :: t => if isAsciiPunct c then go f (n + 2) t else go f (n + 1) (c :: t)
      | c :: t =>
        if c == closer then some n
        else if c == opener then none
        else go f (n + 1) t
  (go (cs.length + 1) 0 cs).map fun n => (cs.take n, n + 1)

/-- A destination inside `(...)`: in angle brackets on one line, or a run without blanks whose
parentheses do not close more than they open. Returns it and the length read. -/
def inlineDestination (cs : List Char) : Option (List Char × Nat) :=
  match cs with
  | '<' :: rest =>
    let rec angle (fuel : Nat) (n : Nat) (r : List Char) : Option Nat :=
      match fuel with
      | 0 => none
      | f + 1 =>
        match r with
        | [] => none
        | '\n' :: _ => none
        | '\\' :: c :: t => if isAsciiPunct c then angle f (n + 2) t else angle f (n + 1) (c :: t)
        | '>' :: _ => some n
        | _ :: t => angle f (n + 1) t
    (angle (rest.length + 1) 0 rest).map fun n => (rest.take n, n + 2)
  | _ =>
    let rec raw (fuel : Nat) (n : Nat) (depth : Nat) (r : List Char) : Nat :=
      match fuel with
      | 0 => n
      | f + 1 =>
        match r with
        | [] => n
        | '\\' :: c :: t => if isAsciiPunct c then raw f (n + 2) depth t else raw f (n + 1) depth (c :: t)
        | '(' :: t => raw f (n + 1) (depth + 1) t
        | ')' :: t => if depth == 0 then n else raw f (n + 1) (depth - 1) t
        | c :: t => if isLinkSpace c then n else raw f (n + 1) depth t
    let n := raw (cs.length + 1) 0 0 cs
    if n == 0 then none else some (cs.take n, n)

/-- An inline link's parenthesised part `(destination "title")` at the front: the target and the
length read. -/
def inlineTarget (cs : List Char) : Option (LinkTarget × Nat) :=
  match cs with
  | '(' :: rest =>
    let sp1 := (rest.takeWhile isLinkSpace).length
    let r1 := rest.drop sp1
    match r1 with
    | ')' :: _ => some (⟨"", none⟩, sp1 + 2)
    | _ =>
      match inlineDestination r1 with
      | none => none
      | some (dest, n1) =>
        let r2 := r1.drop n1
        let sp2 := (r2.takeWhile isLinkSpace).length
        let r3 := r2.drop sp2
        let base := 1 + sp1 + n1 + sp2
        match r3 with
        | ')' :: _ => some (⟨String.ofList dest, none⟩, base + 1)
        | o :: r4 =>
          let closer := if o == '(' then ')' else o
          if o != '"' && o != '\'' && o != '(' then none
          else match closedBy o closer r4 with
            | none => none
            | some (title, n2) =>
              let r5 := r4.drop n2
              let sp3 := (r5.takeWhile isLinkSpace).length
              match r5.drop sp3 with
              | ')' :: _ =>
                some (⟨String.ofList dest, some (String.ofList title)⟩, base + 1 + n2 + sp3 + 1)
              | _ => none
        | [] => none
  | _ => none

/-- What follows a closing bracket: a link target and where reading goes on, nothing (the
bracket is text), or no decision yet (the bracketed text itself may name a definition). -/
inductive Follow where
  | target (t : LinkTarget) (next : Nat)
  | none
  | shortcut

/-- The inline reader: the characters of the text and the link definitions of the document. -/
structure Reader where
  chars : Array Char
  defs : Definitions

namespace Reader

/-- The characters from an index on. -/
def after (r : Reader) (i : Nat) : List Char := r.chars.toList.drop i

/-- The character at an index; past the end, a line feed. -/
def charAt (r : Reader) (i : Nat) : Char := r.chars.getD i '\n'

/-- The definition a label names. -/
def lookup (r : Reader) (label : List Char) : Option LinkTarget :=
  let key := normalizeLabel label
  if key.isEmpty then none else (r.defs.find? (·.1 == key)).map (·.2)

/-- What follows the `]` at an index, given the raw text between the brackets. -/
def follow (r : Reader) (close : Nat) (label : List Char) : Follow :=
  let next := close + 1
  match r.charAt next with
  | '(' =>
    match inlineTarget (r.after next) with
    | some (t, n) => .target t (next + n)
    | none => .shortcut
  | '[' =>
    match closedBy '[' ']' (r.after (next + 1)) with
    | some (ref, n) =>
      let key := if ref.all isLinkSpace then label else ref
      if labelTooLong key then .none
      else match r.lookup key with
        | some t => .target t (next + 1 + n)
        | none => .none
    | none => .shortcut
  | _ => .shortcut

/-- How far the brackets still waiting for a `]` reach: from the first one's `[` (or `![`) to the
end of the last one; one bracket alone reaches over itself only. -/
def waitingSpan (ps : Array Piece) : Nat :=
  let starts := ps.toList.filterMap fun p => match p with
    | .opener image start => some (image, start)
    | _ => none
  match starts.head?, starts.getLast? with
  | some (image, first), some (_, last) => last + (if image then 2 else 1) - first
  | _, _ => 0

/-- Reads a `]` at an index: a link or image with the pieces since its bracket as content, or
plain text. The bracket stays text when the brackets before it that still wait for a `]` reach
over more than 998 characters. -/
def closeBracket (r : Reader) (ps : Array Piece) (pos : Nat) : Array Piece × Nat :=
  let opener := (ps.zipIdx.toList.reverse.find? fun (p, _) => match p with
    | .opener _ _ => true
    | _ => false).map (·.2)
  let asText (ps : Array Piece) : Array Piece × Nat := (ps.push (.done (.text "]")), pos + 1)
  match opener with
  | none => asText ps
  | some k =>
    match ps[k]? with
    | some (.opener image start) =>
      let label := (r.after start).take (pos - start)
      let plain := asText (ps.set! k (.done (.text (if image then "![" else "["))))
      let inner := ps.extract (k + 1) ps.size
      if waitingSpan (ps.extract 0 k) > 998 then plain
      else if !image && inner.any (fun p => (p.toInline).hasLink) then plain
      else
        let found := match r.follow pos label with
          | .target t n => some (t, n)
          | .none => none
          | .shortcut =>
            if labelTooLong label then none else (r.lookup label).map fun t => (t, pos + 1)
        match found with
        | some (t, n) =>
          let kids := resolveEmphasis inner
          let node := if image then Inline.image t kids else Inline.link t kids
          ((ps.extract 0 k).push (.done node), n)
        | none => plain
    | _ => asText ps

/-- Reads a run of `*` or `_` at an index, deciding from the characters around it whether it may
open or close emphasis. -/
def delimiterRun (r : Reader) (pos : Nat) (c : Char) : Piece × Nat :=
  let n := (r.after pos |>.takeWhile (· == c)).length
  let before := if pos == 0 then '\n' else r.charAt (pos - 1)
  let following := r.charAt (pos + n)
  let afterSpace := isUnicodeSpace following
  let afterPunct := isPunct following
  let beforeSpace := isUnicodeSpace before
  let beforePunct := isPunct before
  let left := !afterSpace && (!afterPunct || beforeSpace || beforePunct)
  let right := !beforeSpace && (!beforePunct || afterSpace || afterPunct)
  let (canOpen, canClose) :=
    if c == '_' then (left && (!right || beforePunct), right && (!left || afterPunct))
    else (left, right)
  (.run c n n canOpen canClose, pos + n)

/-- Reads one element at an index: the pieces after it and the index after it, which is always
further on. -/
def step (r : Reader) (ps : Array Piece) (pos : Nat) : Array Piece × Nat :=
  let c := r.charAt pos
  let push (i : Inline) (n : Nat) : Array Piece × Nat := (ps.push (.done i), n)
  let skipBlanks (i : Nat) : Nat := i + ((r.after i).takeWhile isSpaceTab).length
  match c with
  | '\n' =>
    let spaced (i : Nat) : Bool := pos ≥ i && r.charAt (pos - i) == ' ' && r.charAt (pos - i + 1) == ' '
    let hard := spaced 2 || (r.charAt (pos - 1) == '\r' && spaced 3)
    push (if hard then .hardBreak else .softBreak) (skipBlanks (pos + 1))
  | '`' =>
    match codeSpan (r.after pos) with
    | some (body, n) => push (.code body) (pos + n)
    | none =>
      let n := ((r.after pos).takeWhile (· == '`')).length
      push (.text (String.ofList (List.replicate n '`'))) (pos + max n 1)
  | '\\' =>
    let d := r.charAt (pos + 1)
    let breaks := pos == 0 || r.charAt (pos - 1) != '\\'
    if pos + 1 < r.chars.size && isAsciiPunct d then push (.text d.toString) (pos + 2)
    else if breaks && pos + 1 < r.chars.size && d == '\n' then push .hardBreak (skipBlanks (pos + 2))
    else if breaks && pos + 2 < r.chars.size && d == '\r' && r.charAt (pos + 2) == '\n' then
      push .hardBreak (skipBlanks (pos + 3))
    else push (.text "\\") (pos + 1)
  | '&' =>
    match readReference (r.after (pos + 1)) with
    | some (s, n) => push (.text s) (pos + 1 + n)
    | none => push (.text "&") (pos + 1)
  | '<' =>
    match autolink (r.after pos) with
    | some (address, email, n) => push (.autolink address email) (pos + n)
    | none =>
      match inlineHtmlLength (r.after pos) with
      | some n => push .rawHtml (pos + max n 1)
      | none => push (.text "<") (pos + 1)
  | '*' | '_' =>
    let (p, n) := r.delimiterRun pos c
    (ps.push p, max n (pos + 1))
  | '[' => (ps.push (.opener false (pos + 1)), pos + 1)
  | '!' =>
    if r.charAt (pos + 1) == '[' && pos + 1 < r.chars.size then
      (ps.push (.opener true (pos + 2)), pos + 2)
    else push (.text "!") (pos + 1)
  | ']' =>
    let (ps', n) := r.closeBracket ps pos
    (ps', max n (pos + 1))
  | _ =>
    let run := (r.after pos).takeWhile fun c => !isSpecial c
    let run := if run.isEmpty then [c] else run
    let stop := pos + run.length
    let run := if r.charAt stop == '\n' && stop < r.chars.size
      then (run.reverse.dropWhile isBlankSpace).reverse else run
    push (.text (String.ofList run)) stop

/-- Reads every element from an index on. -/
def readAll (r : Reader) (ps : Array Piece) (pos : Nat) : Array Piece :=
  if pos < r.chars.size then
    let (ps', next) := r.step ps pos
    if pos < next then r.readAll ps' next else ps'
  else ps
termination_by r.chars.size - pos

end Reader

/-- Reads the inlines of a paragraph's or heading's text; blanks at its end do not count. -/
def readInlines (defs : Definitions) (s : String) : List Inline :=
  let cs := (s.toList.reverse.dropWhile isBlankSpace).reverse
  let r : Reader := { chars := cs.toArray, defs }
  resolveEmphasis (r.readAll #[] 0)

end Stencil.Markdown

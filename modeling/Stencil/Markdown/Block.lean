import Stencil.Markdown.Link
/-!
# Markdown blocks

The block structure of a Markdown document, read one line at a time. The open blocks form a
stack from the document down to the block that takes text. Each line first continues as many of
the open blocks as its prefixes allow (a `>` for a quote, enough indentation for a list item),
then may open new blocks (quotes, headings, fences, HTML, thematic breaks, list items, indented
code), and what is left of it is text for the innermost block. A paragraph line that continues no
prefix may still belong to the open paragraph: a lazy continuation.

Blocks are closed when a line does not continue them. Closing a paragraph takes the link
reference definitions from its front; closing a list decides whether it is tight, from the blank
lines recorded between and inside its items.
-/

namespace Stencil.Markdown

/-- The marker of a list: a bullet character, or the delimiter after an ordered item's number. -/
inductive Marker where
  | bullet (c : Char)
  | ordered (delim : Char)
deriving DecidableEq, Inhabited

/-- What an item's opening line fixes: its marker, its number, the column of its marker and how
far past that column its content starts. -/
structure ItemShape where
  marker : Marker
  start : Nat
  markerOffset : Nat
  padding : Nat
deriving Inhabited

/-- A block of a parsed document. The text of paragraphs and headings stays raw: its inlines are
read once every link definition is known. A paragraph that held link definitions only leaves
`definitions` in its place: it writes nothing, but counts among the children of its parent. -/
inductive Block where
  | paragraph (text : String)
  | definitions
  | heading (level : Nat) (text : String)
  | thematicBreak
  | fencedCode (info : String) (body : String)
  | indentedCode (body : String)
  | html (closed : Bool)
  | quote (children : List Block)
  | list (ordered : Bool) (start : Nat) (tight : Bool) (items : List Block)
  | item (children : List Block)
deriving Inhabited

/-- Link definitions by normalised label, the first definition of a label first. -/
abbrev Definitions := List (String × LinkTarget)

/-! ## Positions in a line -/

/-- A position in a line: its characters, the index of the next one, its column (tabs stop every
four columns), and whether part of the tab before it has been used. -/
structure Cursor where
  chars : Array Char
  offset : Nat := 0
  column : Nat := 0
  partialTab : Bool := false

namespace Cursor

/-- The character at an index; the end of the line reads as a line feed. -/
def charAt (c : Cursor) (i : Nat) : Char := c.chars.getD i '\n'

/-- The index and column of the first character from the offset on that is not a space or tab. -/
def firstNonspace (c : Cursor) : Nat × Nat :=
  go c.offset c.column
where
  go (pos col : Nat) : Nat × Nat :=
    if h : pos < c.chars.size then
      if c.chars[pos] == ' ' then go (pos + 1) (col + 1)
      else if c.chars[pos] == '\t' then go (pos + 1) (col + (4 - col % 4))
      else (pos, col)
    else (pos, col)
  termination_by c.chars.size - pos

/-- The columns of blank space before the first character that is not a space or tab. -/
def indent (c : Cursor) : Nat := c.firstNonspace.2 - c.column

/-- Whether nothing but blanks is left: spaces, tabs and carriage returns. -/
def isBlank (c : Cursor) : Bool := (c.chars.toList.drop c.offset).all isBlankSpace

/-- Moves on by a number of characters or, with `columns`, of columns, a tab counting for the
columns up to its stop and possibly being used in part. -/
def advance (c : Cursor) (count : Nat) (columns : Bool) : Cursor :=
  if hc : count = 0 then c
  else if h : c.offset < c.chars.size then
    if c.chars[c.offset] == '\t' then
      let toTab := 4 - c.column % 4
      if columns then
        let partialTab := decide (toTab > count)
        let step := min count toTab
        have : count - step < count := by omega
        advance { c with column := c.column + step,
                         offset := if partialTab then c.offset else c.offset + 1, partialTab }
          (count - step) columns
      else
        advance { c with partialTab := false, column := c.column + toTab, offset := c.offset + 1 }
          (count - 1) columns
    else
      advance { c with partialTab := false, offset := c.offset + 1, column := c.column + 1 }
        (count - 1) columns
  else c
termination_by count

/-- Moves to the first character that is not a space or tab. -/
def skipBlank (c : Cursor) : Cursor := c.advance (c.firstNonspace.1 - c.offset) false

/-- Moves over what is left of a blank line: to its end when a line feed ended it, else to its
last character. -/
def skipBlankLine (c : Cursor) (ended : Bool) : Cursor :=
  c.advance (c.chars.size - c.offset - (if ended then 0 else 1)) false

/-- The text from the offset on, a partly used tab standing as the spaces left of it. -/
def rest (c : Cursor) : String :=
  if c.partialTab then
    String.ofList (List.replicate (4 - c.column % 4) ' ') ++
      String.ofList (c.chars.toList.drop (c.offset + 1))
  else String.ofList (c.chars.toList.drop c.offset)

/-- The characters from an index on. -/
def after (c : Cursor) (i : Nat) : List Char := c.chars.toList.drop i

end Cursor

/-! ## Recognising block starts -/

/-- Whether a character is a space or a tab. -/
def isSpaceTab (c : Char) : Bool := c == ' ' || c == '\t'

/-- Whether a character is blank in the sense of an empty paragraph. -/
def isBlankChar (c : Char) : Bool := isBlankSpace c

/-- An ATX heading opening: its level and the length of its hashes and the blanks after them. -/
def atxStart (cs : List Char) : Option (Nat × Nat) :=
  let hashes := (cs.takeWhile (· == '#')).length
  if hashes == 0 || hashes > 6 then none
  else
    match cs.drop hashes with
    | [] => some (hashes, hashes)
    | c :: r => if isBlankSpace c then some (hashes, hashes + 1 + (r.takeWhile isBlankSpace).length)
      else none

/-- A code fence opening: its character and length. A backtick fence has no backtick after it. -/
def fenceStart (cs : List Char) : Option (Char × Nat) :=
  match cs with
  | c :: _ =>
    if c == '`' || c == '~' then
      let n := (cs.takeWhile (· == c)).length
      if n < 3 then none
      else if c == '`' && (cs.drop n).contains '`' then none
      else some (c, n)
    else none
  | [] => none

/-- The length of a closing fence of a given character: the run, with nothing but blanks after. -/
def fenceCloseLength (ch : Char) (cs : List Char) : Nat :=
  let n := (cs.takeWhile (· == ch)).length
  if n ≥ 3 && (cs.drop n).all isBlankSpace then n else 0

/-- A setext underline: level one for `=`, two for `-`. -/
def setextLevel (cs : List Char) : Option Nat :=
  match cs with
  | c :: _ =>
    if c == '=' || c == '-' then
      let n := (cs.takeWhile (· == c)).length
      if (cs.drop n).all isBlankSpace then some (if c == '=' then 1 else 2) else none
    else none
  | [] => none

/-- A thematic break: three or more of one of `*`, `-`, `_`, with only blanks between. -/
def isThematicBreak (cs : List Char) : Bool :=
  match cs with
  | c :: _ =>
    (c == '*' || c == '-' || c == '_') && cs.all (fun d => d == c || isBlankSpace d) &&
      (cs.filter (· == c)).length ≥ 3
  | [] => false

/-- A list marker: its kind, number and length. Interrupting a paragraph, an item needs text
after its marker, and an ordered one must start at 1. -/
def listMarker (cs : List Char) (interrupts : Bool) : Option (Marker × Nat × Nat) :=
  let spaceAfter (r : List Char) : Bool :=
    match r with
    | [] => true
    | c :: _ => c == ' ' || c == '\t'
  let textAfter (r : List Char) : Bool := !(r.dropWhile isBlankSpace).isEmpty
  match cs with
  | c :: r =>
    if c == '*' || c == '-' || c == '+' then
      if !spaceAfter r then none
      else if interrupts && !textAfter r then none
      else some (.bullet c, 0, 1)
    else if isAsciiDigit c then
      let ds := (cs.takeWhile isAsciiDigit).take 9
      let start := ds.foldl (fun n d => n * 10 + (d.toNat - 48)) 0
      if interrupts && start != 1 then none
      else
        match cs.drop ds.length with
        | d :: r' =>
          if (d == '.' || d == ')') && spaceAfter r' && !(interrupts && !textAfter r') then
            some (.ordered d, start, ds.length + 1)
          else none
        | [] => none
    else none
  | [] => none

/-- Cuts a closing sequence of hashes, and the blanks around it, from the end of a heading line. -/
def chopClosingHashes (cs : List Char) : List Char :=
  let trimmed := (cs.reverse.dropWhile isBlankSpace).reverse
  let hashes := (trimmed.reverse.takeWhile (· == '#')).length
  let before := trimmed.take (trimmed.length - hashes)
  if hashes == 0 then trimmed
  else
    match before.getLast? with
    | some c =>
      if isBlankSpace c then (before.reverse.dropWhile isBlankSpace).reverse
      else trimmed
    | none => trimmed

/-- The information text of a code fence from what follows its run: trimmed of blanks. A line
that no line feed ends needs two characters after the run to have one. -/
def fenceInfo (rest : String) (ended : Bool) : String :=
  if (ended && rest.length ≥ 1) || rest.length ≥ 2 then
    String.ofList ((rest.toList.dropWhile isBlankSpace).reverse.dropWhile isBlankSpace).reverse
  else ""

/-! ## Open blocks -/

/-- The kinds of open block. -/
inductive Open where
  | document
  | quote
  | list (shape : ItemShape)
  | item (shape : ItemShape) (line : Nat)
  | paragraph
  | heading (level : Nat) (setext : Bool)
  | fenced (fence : Char) (length : Nat) (indent : Nat)
  | indented
  | html (kind : Nat)
  | thematicBreak
deriving Inhabited

/-- Whether a block of one kind may hold a block of another: the document, quotes and items hold
any block but an item, and lists hold items only. -/
def Open.canContain : Open → Open → Bool
  | .document, .item _ _ => false
  | .quote, .item _ _ => false
  | .item _ _, .item _ _ => false
  | .document, _ => true
  | .quote, _ => true
  | .item _ _, _ => true
  | .list _, .item _ _ => true
  | _, _ => false

/-- Whether a block takes the text of lines rather than other blocks. -/
def Open.takesLines : Open → Bool
  | .paragraph | .heading _ _ | .fenced _ _ _ | .indented => true
  | _ => false

/-- Whether two list markers belong to one list. -/
def ItemShape.sameList (a b : ItemShape) : Bool := a.marker == b.marker

/-- A closed block with the facts about blank lines that decide whether a list is loose. -/
structure Closed where
  block : Block
  /-- The last line of the block was blank. -/
  blankAfter : Bool := false
  /-- For a list or item: its last child ends with a blank line. -/
  tailBlank : Bool := false
  /-- For an item: which of its children end with a blank line. -/
  childEnds : List Bool := []

/-- Whether a closed block ends with a blank line, looking into the last item of lists. -/
def Closed.endsBlank (n : Closed) : Bool := n.blankAfter || n.tailBlank

/-- An open block: its kind, its lines of text, its closed children, and whether its last line
was blank. An HTML block also records whether a line after its first one ended it. -/
structure Frame where
  kind : Open
  lines : Array String := #[]
  children : Array Closed := #[]
  blankAfter : Bool := false
  closure : Bool := false

/-- A paragraph's text: its lines, each ended by a line feed. -/
def Frame.text (f : Frame) : String := f.lines.foldl (fun acc l => acc ++ l ++ "\n") ""

/-- Drops the blank lines at the end of indented code. -/
def dropTrailingBlankLines (ls : List String) : List String :=
  (ls.reverse.dropWhile (fun l => l.toList.all isBlankChar)).reverse

/-- Whether a list is tight: no item but the last ends with a blank line, and no child of an item
ends with one unless it is the last child of the last item. -/
def isTight (items : List Closed) : Bool :=
  let n := items.length
  (items.zipIdx).all fun (it, i) =>
    let notLast := i + 1 < n
    !(it.blankAfter && notLast) &&
      (it.childEnds.zipIdx).all fun (e, j) => !((notLast || j + 1 < it.childEnds.length) && e)

/-- Closes a block: what it becomes and the definitions known after it. -/
def Frame.close (f : Frame) (defs : Definitions) : Option Closed × Definitions :=
  let kids := f.children.toList
  match f.kind with
  | .paragraph =>
    let (defs, rest) := readDefinitions defs f.text.toList
    if rest.all isBlankChar then (some { block := .definitions, blankAfter := f.blankAfter }, defs)
    else (some { block := .paragraph (String.ofList rest), blankAfter := f.blankAfter }, defs)
  | .heading level _ =>
    (some { block := .heading level ("\n".intercalate f.lines.toList), blankAfter := f.blankAfter },
      defs)
  | .fenced _ _ _ =>
    let ls := f.lines.toList
    let info := ls.headD ""
    let body := (ls.drop 1).foldl (fun acc l => acc ++ l ++ "\n") ""
    (some { block := .fencedCode info body, blankAfter := f.blankAfter }, defs)
  | .indented =>
    let body := (dropTrailingBlankLines f.lines.toList).foldl (fun acc l => acc ++ l ++ "\n") ""
    (some { block := .indentedCode body, blankAfter := f.blankAfter }, defs)
  | .html _ => (some { block := .html f.closure, blankAfter := f.blankAfter }, defs)
  | .thematicBreak => (some { block := .thematicBreak, blankAfter := f.blankAfter }, defs)
  | .quote => (some { block := .quote (kids.map (·.block)), blankAfter := f.blankAfter }, defs)
  | .item _ _ =>
    (some { block := .item (kids.map (·.block)), blankAfter := f.blankAfter,
            tailBlank := (kids.getLast?.map Closed.endsBlank).getD false,
            childEnds := kids.map Closed.endsBlank }, defs)
  | .list shape =>
    let ordered := match shape.marker with
      | .ordered _ => true
      | .bullet _ => false
    (some { block := .list ordered shape.start (isTight kids) (kids.map (·.block)),
            blankAfter := f.blankAfter,
            tailBlank := (kids.getLast?.map Closed.endsBlank).getD false }, defs)
  | .document => (some { block := .quote (kids.map (·.block)) }, defs)

/-! ## The builder -/

/-- The state between lines: the open blocks from the document down, the link definitions met
so far, the number of the last line read, and whether a line feed ended it. -/
structure Builder where
  stack : Array Frame := #[{ kind := .document }]
  defs : Definitions := []
  line : Nat := 0
  ended : Bool := true

namespace Builder

/-- The kind of the open block at a depth. -/
def kindAt (b : Builder) (i : Nat) : Open := (b.stack[i]?.map (·.kind)).getD .document

/-- Whether the open block at a depth has a child, closed or open. -/
def hasChild (b : Builder) (i : Nat) : Bool :=
  (b.stack[i]?.map fun f => !f.children.isEmpty).getD false || i + 1 < b.stack.size

/-- Whether the innermost open block is a paragraph. -/
def tipIsParagraph (b : Builder) : Bool :=
  match b.stack.back?.map Frame.kind with
  | some Open.paragraph => true
  | _ => false

/-- Closes the innermost open block, handing it to the block around it. The document stays. -/
def closeTip (b : Builder) : Builder :=
  match b.stack.back? with
  | none => b
  | some f =>
    let rest := b.stack.pop
    if rest.isEmpty then b
    else
      let (node, defs) := f.close b.defs
      let rest := match node with
        | some n => rest.modify (rest.size - 1) fun p => { p with children := p.children.push n }
        | none => rest
      { b with stack := rest, defs }

/-- Closes the open blocks deeper than a depth. -/
def closeAbove (b : Builder) (depth : Nat) : Builder :=
  go b b.stack.size
where
  go (b : Builder) : Nat → Builder
    | 0 => b
    | n + 1 => if b.stack.size > depth + 1 then go b.closeTip n else b

/-- Opens a block inside the one at a depth: the blocks deeper than it close, and so do it and
its parents until one can hold the new block. -/
def push (b : Builder) (depth : Nat) (f : Frame) : Builder :=
  let b := b.closeAbove depth
  let b := fit b b.stack.size
  { b with stack := b.stack.push f }
where
  fit (b : Builder) : Nat → Builder
    | 0 => b
    | n + 1 =>
      match b.stack.back? with
      | some p => if p.kind.canContain f.kind || b.stack.size ≤ 1 then b else fit b.closeTip n
      | none => b

/-- Changes the open block at a depth. -/
def update (b : Builder) (i : Nat) (g : Frame → Frame) : Builder :=
  { b with stack := b.stack.modify i g }

/-- Marks the last child of the open block at a depth as ending with a blank line. -/
def markLastChild (b : Builder) (i : Nat) : Builder :=
  if i + 1 < b.stack.size then b.update (i + 1) fun f => { f with blankAfter := true }
  else b.update i fun f =>
    { f with children := f.children.modify (f.children.size - 1)
                           fun n => { n with blankAfter := true } }

/-- What continuing the open blocks gives: the depth of the last block continued and the
position after the prefixes, or the end of a fenced code block, which uses up the line. -/
inductive Continued where
  | upTo (depth : Nat) (cur : Cursor)
  | fenceClosed

/-- Continues the open blocks with a line's prefixes. -/
def continueOpen (b : Builder) (cur : Cursor) : Continued :=
  go 1 cur b.stack.size
where
  go (i : Nat) (cur : Cursor) : Nat → Continued
    | 0 => .upTo (i - 1) cur
    | fuel + 1 =>
      match b.stack[i]? with
      | none => .upTo (i - 1) cur
      | some f =>
        let (fns, _) := cur.firstNonspace
        let indent := cur.indent
        let blank := cur.isBlank
        match f.kind with
        | .quote =>
          if indent ≤ 3 && cur.charAt fns == '>' then
            let cur := cur.advance (indent + 1) true
            let cur := if isSpaceTab (cur.charAt cur.offset) then cur.advance 1 true else cur
            go (i + 1) cur fuel
          else .upTo (i - 1) cur
        | .item shape _ =>
          if indent ≥ shape.markerOffset + shape.padding then
            go (i + 1) (cur.advance (shape.markerOffset + shape.padding) true) fuel
          else if blank && b.hasChild i then go (i + 1) (cur.skipBlankLine b.ended) fuel
          else .upTo (i - 1) cur
        | .fenced ch len off =>
          let closing := if indent ≤ 3 then fenceCloseLength ch (cur.after fns) else 0
          if closing ≥ len && closing > 0 then .fenceClosed
          else go (i + 1) (skipIndent off cur 5) fuel
        | .indented =>
          if indent ≥ 4 then go (i + 1) (cur.advance 4 true) fuel
          else if blank then go (i + 1) (cur.advance indent true) fuel
          else .upTo (i - 1) cur
        | .heading _ _ => .upTo (i - 1) cur
        | .html kind => if kind ≤ 5 || !blank then go (i + 1) cur fuel else .upTo (i - 1) cur
        | .paragraph => if blank then .upTo (i - 1) cur else go (i + 1) cur fuel
        | _ => go (i + 1) cur fuel
  /-- Skips up to `n` columns of blanks, the indentation of a fence. -/
  skipIndent (n : Nat) (cur : Cursor) : Nat → Cursor
    | 0 => cur
    | fuel + 1 =>
      if n > 0 && isSpaceTab (cur.charAt cur.offset) then skipIndent (n - 1) (cur.advance 1 true) fuel
      else cur

/-- The padding after a list marker: the blanks up to the text, or one column when the text is
more than four columns away, when there is no text, or when there are no blanks. Its tab stops
count from `base`, the column where the line starts as the list reads it, so a tab may reach
further than it does on the page. The position moves to where the content starts; a tab that
reaches past that is left in part, its column set back by what is left of it. -/
def markerPadding (cur : Cursor) (base len : Nat) : Cursor × Nat :=
  let blanks := (cur.after cur.offset).takeWhile isSpaceTab
  let width := blanks.foldl (fun w c => w + widthAt w c) 0
  if cur.isBlank || width == 0 then
    (if width > 0 then cur.advance 1 true else cur, len + 1)
  else
    let target := if width > 4 then 1 else width
    (go cur 0 target blanks.length, len + target)
where
  /-- The columns a blank takes, `w` columns past the marker. -/
  widthAt (w : Nat) (c : Char) : Nat := if c == '\t' then 4 - (cur.column - base + w) % 4 else 1
  /-- Moves over blanks, `w` columns past the marker, until `target` columns are covered. -/
  go (c : Cursor) (w target : Nat) : Nat → Cursor
    | 0 => c
    | fuel + 1 =>
      let ch := c.charAt c.offset
      if w ≥ target || !isSpaceTab ch then c
      else
        let w' := w + widthAt w ch
        let next := c.advance 1 false
        if w' > target then { next with offset := c.offset, column := next.column - (w' - target), partialTab := true }
        else go next w' target fuel

/-- The result of opening blocks on a line: the builder, the depth of the block the rest of the
line goes to, the position, and whether any block was opened. -/
structure Opened where
  builder : Builder
  depth : Nat
  cur : Cursor
  opened : Bool

/-- Opens at most one block where the position stands: the new state and whether more blocks
may open after it on the line; `none` when no block opens. A setext underline under a paragraph
of link definitions only closes that paragraph, and the line is read again as if none were open;
`retries` bounds how often. -/
def openOne (retries : Nat) (o : Opened) (allMatched maybeLazy : Bool) : Option (Opened × Bool) :=
  let b := o.builder
  let cur := o.cur
  let kind := b.kindAt o.depth
  let isPara := match kind with
    | .paragraph => true
    | _ => false
  let (fns, _) := cur.firstNonspace
  let indent := cur.indent
  let indented := indent ≥ 4
  let blank := cur.isBlank
  let line := cur.after fns
  let opened (b : Builder) (cur : Cursor) : Opened := ⟨b, b.stack.size - 1, cur, true⟩
  if !indented && cur.charAt fns == '>' then
    let cur := cur.advance (fns + 1 - cur.offset) false
    let cur := if isSpaceTab (cur.charAt cur.offset) then cur.advance 1 true else cur
    some (opened (b.push o.depth { kind := .quote }) cur, true)
  else match (if indented then none else atxStart line) with
  | some (level, len) =>
    let cur := cur.advance (fns + len - cur.offset) false
    some (opened (b.push o.depth { kind := .heading level false }) cur, false)
  | none =>
  match (if indented then none else fenceStart line) with
  | some (ch, len) =>
    let frame : Frame := { kind := .fenced ch len (fns - cur.offset) }
    let cur := cur.advance (fns + len - cur.offset) false
    some (opened (b.push o.depth frame) cur, false)
  | none =>
  let lead := if cur.partialTab then cur.offset + 1 else cur.offset
  let spacesOnly := ((cur.after lead).take (fns - lead)).all (· == ' ')
  let withBreak := if b.ended then line ++ ['\n'] else line
  match (if indented || !spacesOnly then none else htmlBlockStart withBreak b.tipIsParagraph) with
  | some k => some (opened (b.push o.depth { kind := .html k }) cur, false)
  | none =>
  match (if !indented && isPara then setextLevel line else none) with
  | some level =>
    let f := (b.stack[o.depth]?).getD { kind := .paragraph }
    let (defs, rest) := readDefinitions b.defs f.text.toList
    if rest.all isBlankChar then
      let again : Opened := { o with builder := b.closeTip, depth := o.depth - 1 }
      match retries with
      | 0 => some (again, false)
      | r + 1 => (openOne r again allMatched maybeLazy).getD (again, false)
    else
      let b := { b with defs }
      let text := String.ofList (rest.take (rest.length - 1))
      let b := b.update o.depth fun f => { f with kind := .heading level true, lines := #[text] }
      some ({ o with builder := b, cur := cur.advance (cur.chars.size - cur.offset) false }, false)
  | none =>
  if !indented && !(isPara && !allMatched) && isThematicBreak line then
    let b := b.push o.depth { kind := .thematicBreak }
    let cur := cur.advance (cur.chars.size - cur.offset) false
    some (opened b cur, true)
  else match (if indent < 4 && spacesOnly then listMarker line isPara else none) with
  | some (marker, start, len) =>
    let base := cur.column
    let cur := cur.advance (fns + len - cur.offset) false
    let (cur, padding) := markerPadding cur base len
    let shape : ItemShape := { marker, start, markerOffset := indent, padding }
    let continues := match kind with
      | .list s => s.sameList shape
      | _ => false
    let b := if continues then b else b.push o.depth { kind := .list shape }
    let b := b.push (if continues then o.depth else b.stack.size - 1)
      { kind := .item shape b.line }
    some (opened b cur, true)
  | none =>
  if indented && !maybeLazy && !blank then
    let cur := cur.advance 4 true
    some (opened (b.push o.depth { kind := .indented }) cur, false)
  else none

/-- Opens the new blocks that a line starts, from the last block it continued. -/
def openBlocks (b : Builder) (depth : Nat) (allMatched maybeLazy : Bool) (cur : Cursor) : Opened :=
  go ⟨b, depth, cur, false⟩ maybeLazy (cur.chars.size + 2)
where
  go (o : Opened) (maybeLazy : Bool) : Nat → Opened
    | 0 => o
    | fuel + 1 =>
      match o.builder.kindAt o.depth with
      | .fenced _ _ _ | .indented | .html _ => o
      | _ =>
        match openOne 1 o allMatched maybeLazy with
        | none => o
        | some (o', more) =>
          if more && !(o'.builder.kindAt o'.depth).takesLines then go o' false fuel else o'

/-- Adds what is left of a line to the block it belongs to, after recording blank lines. -/
def addText (lastMatched : Nat) (o : Opened) : Builder :=
  let cur := o.cur
  let depth := o.depth
  let b := o.builder
  let (fns, _) := cur.firstNonspace
  let blank := cur.isBlank
  let b := if blank && b.hasChild depth then b.markLastChild depth else b
  let kind := b.kindAt depth
  let lastBlank := blank && match kind with
    | .quote | .heading _ _ | .thematicBreak | .fenced _ _ _ => false
    | .item _ line => b.hasChild depth || line != b.line
    | _ => true
  let marks (i : Nat) (f : Frame) : Frame :=
    if i == depth then { f with blankAfter := lastBlank }
    else if i < depth then { f with blankAfter := false } else f
  let b := { b with stack := b.stack.mapIdx marks }
  if !o.opened && b.stack.size - 1 != lastMatched && !blank && b.tipIsParagraph then
    let lazy := String.ofList ((cur.after cur.offset).dropWhile isBlankSpace)
    b.update (b.stack.size - 1) fun f => { f with lines := f.lines.push lazy }
  else
    let b := b.closeAbove depth
    match kind with
    | .fenced _ _ _ =>
      b.update depth fun f =>
        { f with lines := f.lines.push (if f.lines.isEmpty then fenceInfo cur.rest b.ended else cur.rest) }
    | .indented => b.update depth fun f => { f with lines := f.lines.push cur.rest }
    | .html k =>
      let b := b.update depth fun f => { f with lines := f.lines.push cur.rest }
      if htmlBlockEnds k (cur.after fns) then
        let b := b.update depth fun f => { f with closure := f.lines.size > 1 }
        b.closeTip
      else b
    | .paragraph =>
      if blank then b
      else b.update depth fun f =>
        { f with lines := f.lines.push (String.ofList ((cur.after fns).dropWhile isBlankSpace)) }
    | .heading _ setext =>
      if blank then b
      else
        let text := if setext then cur.after fns
          else (chopClosingHashes cur.chars.toList).drop fns
        b.update depth fun f => { f with lines := f.lines.push (String.ofList text) }
    | _ =>
      if blank then b
      else b.push depth { kind := .paragraph, lines := #[String.ofList ((cur.after fns).dropWhile isBlankSpace)] }

/-- Reads one line; `ended` tells whether a line feed ended it. -/
def feed (b : Builder) (text : String) (ended : Bool) : Builder :=
  let b := { b with line := b.line + 1, ended }
  let cur : Cursor := { chars := text.toList.toArray }
  match b.continueOpen cur with
  | .fenceClosed => b.closeTip
  | .upTo lastMatched cur =>
    let allMatched := lastMatched + 1 == b.stack.size
    let o := b.openBlocks lastMatched allMatched b.tipIsParagraph cur
    addText lastMatched o

/-- Closes every open block: the document's blocks and the link definitions. -/
def finish (b : Builder) : List Block × Definitions :=
  let b := b.closeAbove 0
  ((b.stack[0]?.map fun f => f.children.toList.map (·.block)).getD [], b.defs)

end Builder

/-- Splits text into lines at line feeds, each with whether a line feed ended it; a line feed at
the end closes the last line rather than opening an empty one. A carriage return is part of its
line. -/
def splitLines (s : String) : List (String × Bool) :=
  let rec go (cur : List Char) (acc : List (String × Bool)) : List Char → List (String × Bool)
    | [] => if cur.isEmpty then acc.reverse else ((String.ofList cur.reverse, false) :: acc).reverse
    | '\n' :: t => go [] ((String.ofList cur.reverse, true) :: acc) t
    | c :: t => go (c :: cur) acc t
  go [] [] s.toList

/-- Reads the block structure of a document and the link definitions in it. -/
def readBlocks (s : String) : List Block × Definitions :=
  ((splitLines s).foldl (fun (b : Builder) (l, ended) => b.feed l ended) {}).finish

end Stencil.Markdown

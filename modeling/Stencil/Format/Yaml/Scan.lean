/-!
# YAML tokens

Reading YAML text into tokens. Indentation is turned into explicit starts and ends of block
collections; a key written without `?` is only recognised when its `:` is found, so the scanner
remembers where a key could have started (a *simple key*) and inserts the key token, and the start
of a block mapping if the key opens one, at that place afterwards.

Every token carries the positions where it starts and ends. When the text cannot be read, the
scanner stops with a problem and the positions it concerns; the tokens read before it stay, and
the error is reported once the parser looks close enough to it.
-/

namespace Stencil.Yaml

/-- A position in the text: character index, line and column, all counted from zero. -/
structure Mark where
  index : Nat := 0
  line : Nat := 0
  column : Nat := 0
deriving Inhabited, Repr

/-- The ways a scalar can be written. -/
inductive ScalarStyle where
  | plain
  | singleQuoted
  | doubleQuoted
  | literal
  | folded
deriving DecidableEq, Inhabited, Repr

/-- The kinds of token. -/
inductive TokenKind where
  | streamStart
  | streamEnd
  | versionDirective (major minor : Nat)
  | tagDirective (handle pre : String)
  | documentStart
  | documentEnd
  | blockSequenceStart
  | blockMappingStart
  | blockEnd
  | flowSequenceStart
  | flowSequenceEnd
  | flowMappingStart
  | flowMappingEnd
  | blockEntry
  | flowEntry
  | key
  | value
  | alias (name : String)
  | anchor (name : String)
  | tag (handle suffix : String)
  | scalar (text : String) (style : ScalarStyle)
deriving Inhabited, Repr

/-- A token with the positions it spans. -/
structure Token where
  kind : TokenKind
  start : Mark
  stop : Mark
deriving Inhabited, Repr

/-- Why a text cannot be read: what was being read and where it began, and the problem and where
it was found. `scanning` tells a problem of the scanner from one of the parser. -/
structure Problem where
  context : String := ""
  contextMark : Mark := {}
  problem : String
  problemMark : Mark := {}
  scanning : Bool := false
deriving Inhabited, Repr

/-- A place where a key without `?` could start. -/
structure SimpleKey where
  possible : Bool := false
  required : Bool := false
  tokenNumber : Nat := 0
  mark : Mark := {}
deriving Inhabited

/-- The state of the scanner: the text, the position, the tokens so far, the indentation
levels of the open block collections, the possible simple key of each flow level, and the depth
of flow collections. -/
structure Scanner where
  chars : Array Char
  mark : Mark := {}
  tokens : Array Token := #[]
  indent : Int := -1
  indents : List Int := []
  simpleKeyAllowed : Bool := false
  simpleKeys : Array SimpleKey := #[]
  flowLevel : Nat := 0

/-- The scanner's computations, which may stop with a problem. -/
abbrev ScanM := StateT Scanner (Except Problem)

/-! ## Characters -/

/-- The character standing for the end of the text. -/
def endChar : Char := '\x00'

/-- Whether a character is a space or a tab. -/
def isBlank (c : Char) : Bool := c == ' ' || c == '\t'

/-- Whether a character breaks a line. -/
def isLineBreak (c : Char) : Bool :=
  c == '\r' || c == '\n' || c == '\u0085' || c == '\u2028' || c == '\u2029'

/-- Whether a character breaks a line or ends the text. -/
def isBreakOrEnd (c : Char) : Bool := isLineBreak c || c == endChar

/-- Whether a character is blank, breaks a line or ends the text. -/
def isBlankOrEnd (c : Char) : Bool := isBlank c || isBreakOrEnd c

/-- Whether a character may stand in an anchor name or a tag handle. -/
def isWordChar (c : Char) : Bool :=
  ('0' ≤ c && c ≤ '9') || ('a' ≤ c && c ≤ 'z') || ('A' ≤ c && c ≤ 'Z') || c == '_' || c == '-'

/-- Whether a character is a hexadecimal digit. -/
def isHexChar (c : Char) : Bool :=
  ('0' ≤ c && c ≤ '9') || ('a' ≤ c && c ≤ 'f') || ('A' ≤ c && c ≤ 'F')

/-- The value of a hexadecimal digit. -/
def hexValue (c : Char) : Nat :=
  if '0' ≤ c && c ≤ '9' then c.toNat - 48
  else if 'a' ≤ c && c ≤ 'f' then c.toNat - 87 else c.toNat - 55

/-- Whether a character may be read at all: tab, line feed, carriage return, the printable
characters, and none of the surrogates or the two non-characters at the end of the basic plane. -/
def isReadable (c : Char) : Bool :=
  let n := c.toNat
  n == 0x09 || n == 0x0A || n == 0x0D || (0x20 ≤ n && n ≤ 0x7E) || n == 0x85 ||
    (0xA0 ≤ n && n ≤ 0xD7FF) || (0xE000 ≤ n && n ≤ 0xFFFD) || (0x10000 ≤ n && n ≤ 0x10FFFF)

namespace Scanner

/-- The character some places ahead; past the end, the end character. -/
def ahead (s : Scanner) (k : Nat) : Char := s.chars.getD (s.mark.index + k) endChar

/-- Moves over one character of a line. -/
def skipOne (s : Scanner) : Scanner :=
  { s with mark := { s.mark with index := s.mark.index + 1, column := s.mark.column + 1 } }

/-- Moves over a line break, a carriage return and line feed counting as one. -/
def skipBreak (s : Scanner) : Scanner :=
  if s.ahead 0 == '\r' && s.ahead 1 == '\n' then
    { s with mark := { index := s.mark.index + 2, line := s.mark.line + 1, column := 0 } }
  else if isLineBreak (s.ahead 0) then
    { s with mark := { index := s.mark.index + 1, line := s.mark.line + 1, column := 0 } }
  else s

/-- The text of a line break as it is kept in a scalar: a line feed, except that the line and
paragraph separators stay themselves. -/
def breakText (c : Char) : String :=
  if c == '\u2028' || c == '\u2029' then c.toString else "\n"

end Scanner

/-- The character some places ahead. -/
def peekAt (k : Nat) : ScanM Char := do return (← get).ahead k

/-- The current position. -/
def here : ScanM Mark := do return (← get).mark

/-- Moves over one character. -/
def skip : ScanM Unit := modify Scanner.skipOne

/-- Moves over one character, adding it to a text. -/
def readInto (acc : String) : ScanM String := do
  let c ← peekAt 0
  skip
  return acc.push c

/-- Moves over a line break, adding its kept form to a text. -/
def readBreakInto (acc : String) : ScanM String := do
  let c ← peekAt 0
  modify Scanner.skipBreak
  return acc ++ Scanner.breakText c

/-- Stops with a problem of the scanner found at the current position. -/
def scanError {α : Type} (context : String) (contextMark : Mark) (problem : String) : ScanM α := do
  let m ← here
  throw { context, contextMark, problem, problemMark := m, scanning := true }

/-- Adds a token at the end. -/
def emit (kind : TokenKind) (start stop : Mark) : ScanM Unit :=
  modify fun s => { s with tokens := s.tokens.push ⟨kind, start, stop⟩ }

/-- Inserts a token at a place among those already read. -/
def insertAt (n : Nat) (t : Token) : ScanM Unit :=
  modify fun s => { s with tokens := (s.tokens.extract 0 n).push t ++ s.tokens.extract n s.tokens.size }

/-- The number of characters left, a bound for every loop over the text. -/
def budget : ScanM Nat := do
  let s ← get
  return s.chars.size - s.mark.index + 2

/-! ## Simple keys and indentation -/

/-- The possible simple key of the innermost flow level. -/
def currentKey : ScanM SimpleKey := do
  let s ← get
  return s.simpleKeys.back?.getD {}

/-- Replaces the possible simple key of the innermost flow level. -/
def setCurrentKey (k : SimpleKey) : ScanM Unit :=
  modify fun s => { s with simpleKeys := s.simpleKeys.modify (s.simpleKeys.size - 1) fun _ => k }

/-- Whether a possible simple key still may be one: on the current line and at most 1024
characters back. A required key that can no longer be one is an error. -/
def keyStillValid (k : SimpleKey) : ScanM Bool := do
  if !k.possible then return false
  let m ← here
  if k.mark.line < m.line || k.mark.index + 1024 < m.index then
    if k.required then
      scanError "while scanning a simple key" k.mark "could not find expected ':'"
    else return false
  else return true

/-- Forgets the possible simple key of the innermost flow level; a required one is an error. -/
def removeSimpleKey : ScanM Unit := do
  let k ← currentKey
  if k.possible then
    if k.required then
      let m ← here
      throw { context := "while scanning a simple key", contextMark := k.mark,
              problem := "could not find expected ':'", problemMark := m, scanning := true }
    setCurrentKey { k with possible := false }

/-- Remembers that a simple key could start here, if keys are allowed here. In block context a
key at the indentation of the block is required. -/
def saveSimpleKey : ScanM Unit := do
  let s ← get
  let required := s.flowLevel == 0 && s.indent == (s.mark.column : Int)
  if s.simpleKeyAllowed then
    let key : SimpleKey :=
      { possible := true, required, tokenNumber := s.tokens.size, mark := s.mark }
    removeSimpleKey
    setCurrentKey key

/-- Opens a flow level. -/
def increaseFlowLevel : ScanM Unit := do
  let m ← here
  modify fun s => { s with simpleKeys := s.simpleKeys.push { mark := m }, flowLevel := s.flowLevel + 1 }
  let s ← get
  if s.flowLevel > 10000 then
    scanError "while increasing flow level" m "exceeded max depth of 10000"

/-- Closes a flow level. -/
def decreaseFlowLevel : ScanM Unit :=
  modify fun s =>
    if s.flowLevel > 0 then { s with flowLevel := s.flowLevel - 1, simpleKeys := s.simpleKeys.pop }
    else s

/-- Opens a block collection at a column deeper than the current indentation, placing its start
token at a given place or at the end. -/
def rollIndent (column : Nat) (number : Option Nat) (kind : TokenKind) (m : Mark) : ScanM Unit := do
  let s ← get
  if s.flowLevel > 0 then return
  if s.indent < (column : Int) then
    set { s with indents := s.indent :: s.indents, indent := column }
    if s.indents.length + 1 > 10000 then
      let k ← currentKey
      scanError "while increasing indent level" k.mark "exceeded max depth of 10000"
    match number with
    | some n => insertAt n ⟨kind, m, m⟩
    | none => emit kind m m

/-- Closes the block collections indented deeper than a column, each with an end token placed
just before the given position. -/
def unrollIndent (column : Int) (scanMark : Mark) : ScanM Unit := do
  let s ← get
  if s.flowLevel > 0 then return
  let blockMark := { scanMark with index := scanMark.index - 1 }
  for _ in [0:s.indents.length + 1] do
    let s ← get
    if s.indent > column then
      emit .blockEnd blockMark blockMark
      modify fun s => match s.indents with
        | i :: rest => { s with indent := i, indents := rest }
        | [] => { s with indent := -1 }
    else break

/-! ## Between tokens -/

/-- Moves over blanks, comments and line breaks up to the next token. Tabs count as blanks only
in flow context or where no simple key may start. -/
def scanToNextToken : ScanM Unit := do
  let n ← budget
  for _ in [0:n] do
    let m ← budget
    for _ in [0:m] do
      let s ← get
      let c := s.ahead 0
      if c == ' ' || ((s.flowLevel > 0 || !s.simpleKeyAllowed) && c == '\t') then skip else break
    if (← peekAt 0) == '#' then
      for _ in [0:m] do
        if isBreakOrEnd (← peekAt 0) then break
        skip
    if isLineBreak (← peekAt 0) then
      modify Scanner.skipBreak
      modify fun s => if s.flowLevel == 0 then { s with simpleKeyAllowed := true } else s
    else break

/-! ## Tokens -/

/-- The start of the stream. -/
def fetchStreamStart : ScanM Unit := do
  modify fun s => { s with indent := -1, simpleKeys := #[{}], simpleKeyAllowed := true }
  let m ← here
  emit .streamStart m m

/-- The end of the stream: all blocks close. -/
def fetchStreamEnd : ScanM Unit := do
  modify fun s => if s.mark.column != 0 then
    { s with mark := { s.mark with column := 0, line := s.mark.line + 1 } } else s
  unrollIndent (-1) (← here)
  removeSimpleKey
  modify fun s => { s with simpleKeyAllowed := false }
  let m ← here
  emit .streamEnd m m

/-- A document start `---` or end `...` marker. -/
def fetchDocumentIndicator (kind : TokenKind) : ScanM Unit := do
  unrollIndent (-1) (← here)
  removeSimpleKey
  modify fun s => { s with simpleKeyAllowed := false }
  let start ← here
  skip; skip; skip
  emit kind start (← here)

/-- A `[` or `{`. -/
def fetchFlowCollectionStart (kind : TokenKind) : ScanM Unit := do
  saveSimpleKey
  increaseFlowLevel
  modify fun s => { s with simpleKeyAllowed := true }
  let start ← here
  skip
  emit kind start (← here)

/-- A `]` or `}`. -/
def fetchFlowCollectionEnd (kind : TokenKind) : ScanM Unit := do
  removeSimpleKey
  decreaseFlowLevel
  modify fun s => { s with simpleKeyAllowed := false }
  let start ← here
  skip
  emit kind start (← here)

/-- A `,` between flow entries. -/
def fetchFlowEntry : ScanM Unit := do
  removeSimpleKey
  modify fun s => { s with simpleKeyAllowed := true }
  let start ← here
  skip
  emit .flowEntry start (← here)

/-- A `-` starting a block sequence entry. -/
def fetchBlockEntry : ScanM Unit := do
  let s ← get
  if s.flowLevel == 0 then
    if !s.simpleKeyAllowed then
      scanError "" s.mark "block sequence entries are not allowed in this context"
    rollIndent s.mark.column none .blockSequenceStart s.mark
  removeSimpleKey
  modify fun s => { s with simpleKeyAllowed := true }
  let start ← here
  skip
  emit .blockEntry start (← here)

/-- A `?` starting a complex key. -/
def fetchKey : ScanM Unit := do
  let s ← get
  if s.flowLevel == 0 then
    if !s.simpleKeyAllowed then
      scanError "" s.mark "mapping keys are not allowed in this context"
    rollIndent s.mark.column none .blockMappingStart s.mark
  removeSimpleKey
  modify fun s => { s with simpleKeyAllowed := s.flowLevel == 0 }
  let start ← here
  skip
  emit .key start (← here)

/-- A `:`. If a simple key could start before it, the key token (and the start of a block
mapping, if one opens) goes in at that place. -/
def fetchValue : ScanM Unit := do
  let k ← currentKey
  let valid ← keyStillValid k
  if valid then
    insertAt k.tokenNumber ⟨.key, k.mark, k.mark⟩
    rollIndent k.mark.column (some k.tokenNumber) .blockMappingStart k.mark
    setCurrentKey { k with possible := false }
    modify fun s => { s with simpleKeyAllowed := false }
  else
    let s ← get
    if s.flowLevel == 0 then
      if !s.simpleKeyAllowed then
        scanError "" s.mark "mapping values are not allowed in this context"
      rollIndent s.mark.column none .blockMappingStart s.mark
    modify fun s => { s with simpleKeyAllowed := s.flowLevel == 0 }
  let start ← here
  skip
  emit .value start (← here)

/-- An anchor `&name` or alias `*name`. -/
def fetchAnchor (isAlias : Bool) : ScanM Unit := do
  saveSimpleKey
  modify fun s => { s with simpleKeyAllowed := false }
  let start ← here
  skip
  let n ← budget
  let mut name := ""
  for _ in [0:n] do
    if isWordChar (← peekAt 0) then name ← readInto name else break
  let stop ← here
  let c ← peekAt 0
  if name.isEmpty || !(isBlankOrEnd c || c == '?' || c == ':' || c == ',' || c == ']' ||
      c == '}' || c == '%' || c == '@' || c == '`') then
    scanError (if isAlias then "while scanning an alias" else "while scanning an anchor") start
      "did not find expected alphabetic or numeric character"
  emit (if isAlias then .alias name else .anchor name) start stop

/-- Whether a character may stand in a tag's URI; inside `!<...>` also `,`, `[` and `]`. -/
def isUriChar (verbatim : Bool) (c : Char) : Bool :=
  isWordChar c || ";/?:@&=+$.%!~*'()".toList.contains c ||
    (verbatim && (c == ',' || c == '[' || c == ']'))

/-- Reads the URI part of a tag, decoding `%` escapes. -/
def scanTagUri (verbatim directive : Bool) (head : String) (start : Mark) : ScanM String := do
  let mut s := String.ofList (head.toList.drop 1)
  let mut seen := !head.isEmpty
  let n ← budget
  for _ in [0:n] do
    let c ← peekAt 0
    if !isUriChar verbatim c then break
    if c == '%' then
      let mut bytes : Array UInt8 := #[]
      let mut width := 0
      for _ in [0:4] do
        let a ← peekAt 1
        let b ← peekAt 2
        if (← peekAt 0) != '%' || !isHexChar a || !isHexChar b then
          scanError (if directive then "while parsing a %TAG directive" else "while parsing a tag")
            start "did not find URI escaped octet"
        let octet := hexValue a * 16 + hexValue b
        let leading := width == 0
        if leading then
          width := if octet &&& 0x80 == 0 then 1 else if octet &&& 0xE0 == 0xC0 then 2
            else if octet &&& 0xF0 == 0xE0 then 3 else if octet &&& 0xF8 == 0xF0 then 4 else 0
        if leading && width == 0 then
          scanError (if directive then "while parsing a %TAG directive" else "while parsing a tag")
            start "found an incorrect leading UTF-8 octet"
        if !leading && octet &&& 0xC0 != 0x80 then
          scanError (if directive then "while parsing a %TAG directive" else "while parsing a tag")
            start "found an incorrect trailing UTF-8 octet"
        bytes := bytes.push octet.toUInt8
        skip; skip; skip
        if bytes.size == width then break
      s := s ++ (String.fromUTF8? (ByteArray.mk bytes)).getD ""
    else
      s ← readInto s
    seen := true
  if !seen then
    scanError (if directive then "while parsing a %TAG directive" else "while parsing a tag") start
      "did not find expected tag URI"
  return s

/-- Reads a tag handle: `!`, `!!` or `!name!`. -/
def scanTagHandle (directive : Bool) (start : Mark) : ScanM String := do
  if (← peekAt 0) != '!' then
    scanError (if directive then "while scanning a %TAG directive" else "while scanning a tag") start
      "did not find expected '!'"
  let mut s ← readInto ""
  let n ← budget
  for _ in [0:n] do
    if isWordChar (← peekAt 0) then s ← readInto s else break
  if (← peekAt 0) == '!' then
    s ← readInto s
  else if directive && s != "!" then
    scanError "while parsing a %TAG directive" start "did not find expected '!'"
  return s

/-- A tag: `!<uri>`, `!handle!suffix`, `!suffix` or `!`. -/
def fetchTag : ScanM Unit := do
  saveSimpleKey
  modify fun s => { s with simpleKeyAllowed := false }
  let start ← here
  let mut handle := ""
  let mut suffix := ""
  if (← peekAt 1) == '<' then
    skip; skip
    suffix ← scanTagUri true false "" start
    if (← peekAt 0) != '>' then
      scanError "while scanning a tag" start "did not find the expected '>'"
    skip
  else
    let h ← scanTagHandle false start
    if h.length > 1 && h.startsWith "!" && h.endsWith "!" then
      handle := h
      suffix ← scanTagUri false false "" start
    else
      suffix ← scanTagUri false false h start
      handle := "!"
      if suffix.isEmpty then
        handle := ""
        suffix := "!"
  let c ← peekAt 0
  let s ← get
  if !isBlankOrEnd c then
    if s.flowLevel == 0 || c != ',' then
      scanError "while scanning a tag" start "did not find expected whitespace or line break"
  emit (.tag handle suffix) start (← here)

/-- Moves over the indentation and empty lines before or inside a block scalar, collecting the
line breaks; fixes the indentation from the longest blank prefix if it is not known yet. -/
def blockScalarBreaks (indent : Nat) (start : Mark) : ScanM (Nat × String × Mark) := do
  let mut stop ← here
  let mut breaks := ""
  let mut maxIndent := 0
  let n ← budget
  for _ in [0:n] do
    for _ in [0:n] do
      let m ← here
      if (indent == 0 || m.column < indent) && (← peekAt 0) == ' ' then skip else break
    let m ← here
    if m.column > maxIndent then maxIndent := m.column
    if (indent == 0 || m.column < indent) && (← peekAt 0) == '\t' then
      scanError "while scanning a block scalar" start
        "found a tab character where an indentation space is expected"
    if !isLineBreak (← peekAt 0) then break
    breaks ← readBreakInto breaks
    stop ← here
  let mut ind := indent
  if ind == 0 then
    let s ← get
    ind := maxIndent
    if (ind : Int) < s.indent + 1 then ind := (s.indent + 1).toNat
    if ind < 1 then ind := 1
  return (ind, breaks, stop)

/-- A literal `|` or folded `>` block scalar with its header. -/
def fetchBlockScalar (literal : Bool) : ScanM Unit := do
  removeSimpleKey
  modify fun s => { s with simpleKeyAllowed := true }
  let start ← here
  skip
  let mut chomping : Int := 0
  let mut increment := 0
  let c ← peekAt 0
  if c == '+' || c == '-' then
    chomping := if c == '+' then 1 else -1
    skip
    let d ← peekAt 0
    if '0' ≤ d && d ≤ '9' then
      if d == '0' then
        scanError "while scanning a block scalar" start "found an indentation indicator equal to 0"
      increment := d.toNat - 48
      skip
  else if '0' ≤ c && c ≤ '9' then
    if c == '0' then
      scanError "while scanning a block scalar" start "found an indentation indicator equal to 0"
    increment := c.toNat - 48
    skip
    let d ← peekAt 0
    if d == '+' || d == '-' then
      chomping := if d == '+' then 1 else -1
      skip
  let n ← budget
  for _ in [0:n] do
    if isBlank (← peekAt 0) then skip else break
  if (← peekAt 0) == '#' then
    for _ in [0:n] do
      if isBreakOrEnd (← peekAt 0) then break
      skip
  if !isBreakOrEnd (← peekAt 0) then
    scanError "while scanning a block scalar" start "did not find expected comment or line break"
  if isLineBreak (← peekAt 0) then modify Scanner.skipBreak
  let s ← get
  let mut indent : Nat := 0
  if increment > 0 then
    indent := if s.indent ≥ 0 then s.indent.toNat + increment else increment
  let (ind, firstBreaks, stop0) ← blockScalarBreaks indent start
  indent := ind
  let mut stop := stop0
  let mut text := ""
  let mut leadingBreak := ""
  let mut trailingBreaks := firstBreaks
  let mut leadingBlank := false
  for _ in [0:n] do
    let m ← here
    if !(m.column == indent && (← peekAt 0) != endChar) then break
    let trailingBlank := isBlank (← peekAt 0)
    let fold := !literal && !leadingBlank && !trailingBlank && leadingBreak.startsWith "\n"
    if fold && trailingBreaks.isEmpty then text := text.push ' '
    if !fold then text := text ++ leadingBreak
    leadingBreak := ""
    text := text ++ trailingBreaks
    trailingBreaks := ""
    leadingBlank := isBlank (← peekAt 0)
    for _ in [0:n] do
      if isBreakOrEnd (← peekAt 0) then break
      text ← readInto text
    if isLineBreak (← peekAt 0) then
      leadingBreak ← readBreakInto leadingBreak
    let (_, more, stop') ← blockScalarBreaks indent start
    trailingBreaks := more
    stop := stop'
  if chomping != -1 then text := text ++ leadingBreak
  if chomping == 1 then text := text ++ trailingBreaks
  emit (.scalar text (if literal then .literal else .folded)) start stop

/-- Whether a document marker `---` or `...` starts at the current position. -/
def atDocumentMarker : ScanM Bool := do
  let m ← here
  let a ← peekAt 0
  let b ← peekAt 1
  let c ← peekAt 2
  let d ← peekAt 3
  return m.column == 0 && ((a == '-' && b == '-' && c == '-') || (a == '.' && b == '.' && c == '.')) &&
    isBlankOrEnd d

/-- A single- or double-quoted scalar. -/
def fetchQuoted (single : Bool) : ScanM Unit := do
  saveSimpleKey
  modify fun s => { s with simpleKeyAllowed := false }
  let start ← here
  skip
  let mut text := ""
  let n ← budget
  for _ in [0:n] do
    if ← atDocumentMarker then
      scanError "while scanning a quoted scalar" start "found unexpected document indicator"
    if (← peekAt 0) == endChar then
      scanError "while scanning a quoted scalar" start "found unexpected end of stream"
    let mut leadingBlanks := false
    for _ in [0:n] do
      let c ← peekAt 0
      if isBlankOrEnd c then break
      if single && c == '\'' && (← peekAt 1) == '\'' then
        text := text.push '\''
        skip; skip
      else if single && c == '\'' then break
      else if !single && c == '"' then break
      else if !single && c == '\\' && isLineBreak (← peekAt 1) then
        skip
        modify Scanner.skipBreak
        leadingBlanks := true
        break
      else if !single && c == '\\' then
        let e ← peekAt 1
        let mut codeLength := 0
        match e with
        | '0' => text := text.push '\x00'
        | 'a' => text := text.push '\x07'
        | 'b' => text := text.push '\x08'
        | 't' | '\t' => text := text.push '\t'
        | 'n' => text := text.push '\n'
        | 'v' => text := text.push '\x0b'
        | 'f' => text := text.push '\x0c'
        | 'r' => text := text.push '\r'
        | 'e' => text := text.push '\x1b'
        | ' ' => text := text.push ' '
        | '"' => text := text.push '"'
        | '\'' => text := text.push '\''
        | '\\' => text := text.push '\\'
        | 'N' => text := text.push '\u0085'
        | '_' => text := text.push ' '
        | 'L' => text := text.push '\u2028'
        | 'P' => text := text.push '\u2029'
        | 'x' => codeLength := 2
        | 'u' => codeLength := 4
        | 'U' => codeLength := 8
        | _ => scanError "while parsing a quoted scalar" start "found unknown escape character"
        skip; skip
        if codeLength > 0 then
          let mut value := 0
          for k in [0:codeLength] do
            let h ← peekAt k
            if !isHexChar h then
              scanError "while parsing a quoted scalar" start
                "did not find expected hexdecimal number"
            value := value * 16 + hexValue h
          if (0xD800 ≤ value && value ≤ 0xDFFF) || value > 0x10FFFF then
            scanError "while parsing a quoted scalar" start
              "found invalid Unicode character escape code"
          text := text.push (Char.ofNat value)
          for _ in [0:codeLength] do skip
      else
        text ← readInto text
    let c ← peekAt 0
    if (single && c == '\'') || (!single && c == '"') then break
    let mut whitespaces := ""
    let mut leadingBreak := ""
    let mut trailingBreaks := ""
    for _ in [0:n] do
      let c ← peekAt 0
      if isBlank c then
        if !leadingBlanks then whitespaces ← readInto whitespaces else skip
      else if isLineBreak c then
        if !leadingBlanks then
          whitespaces := ""
          leadingBreak ← readBreakInto leadingBreak
          leadingBlanks := true
        else
          trailingBreaks ← readBreakInto trailingBreaks
      else break
    if leadingBlanks then
      if leadingBreak.startsWith "\n" then
        if trailingBreaks.isEmpty then text := text.push ' '
        else text := text ++ trailingBreaks
      else
        text := text ++ leadingBreak ++ trailingBreaks
    else
      text := text ++ whitespaces
  skip
  emit (.scalar text (if single then .singleQuoted else .doubleQuoted)) start (← here)

/-- A plain scalar, which may run over several lines indented deeper than the enclosing block. -/
def fetchPlain : ScanM Unit := do
  saveSimpleKey
  modify fun s => { s with simpleKeyAllowed := false }
  let s0 ← get
  let indent : Int := s0.indent + 1
  let start ← here
  let mut stop ← here
  let mut text := ""
  let mut leadingBlanks := false
  let mut whitespaces := ""
  let mut leadingBreak := ""
  let mut trailingBreaks := ""
  let n ← budget
  for _ in [0:n] do
    if ← atDocumentMarker then break
    if (← peekAt 0) == '#' then break
    for _ in [0:n] do
      let c ← peekAt 0
      if isBlankOrEnd c then break
      let s ← get
      if (c == ':' && isBlankOrEnd (← peekAt 1)) ||
          (s.flowLevel > 0 && (c == ',' || c == '?' || c == '[' || c == ']' || c == '{' || c == '}')) then
        break
      if leadingBlanks || !whitespaces.isEmpty then
        if leadingBlanks then
          if leadingBreak.startsWith "\n" then
            if trailingBreaks.isEmpty then text := text.push ' '
            else text := text ++ trailingBreaks
          else
            text := text ++ leadingBreak ++ trailingBreaks
          trailingBreaks := ""
          leadingBreak := ""
          leadingBlanks := false
        else
          text := text ++ whitespaces
          whitespaces := ""
      text ← readInto text
      stop ← here
    let c ← peekAt 0
    if !(isBlank c || isLineBreak c) then break
    for _ in [0:n] do
      let c ← peekAt 0
      if isBlank c then
        let m ← here
        if leadingBlanks && (m.column : Int) < indent && c == '\t' then
          scanError "while scanning a plain scalar" start
            "found a tab character that violates indentation"
        if !leadingBlanks then whitespaces ← readInto whitespaces else skip
      else if isLineBreak c then
        if !leadingBlanks then
          whitespaces := ""
          leadingBreak ← readBreakInto leadingBreak
          leadingBlanks := true
        else
          trailingBreaks ← readBreakInto trailingBreaks
      else break
    let s ← get
    if s.flowLevel == 0 && (s.mark.column : Int) < indent then break
  emit (.scalar text .plain) start stop
  if leadingBlanks then modify fun s => { s with simpleKeyAllowed := true }

/-- A directive line `%YAML` or `%TAG`; any other directive is an error. -/
def fetchDirective : ScanM Unit := do
  unrollIndent (-1) (← here)
  removeSimpleKey
  modify fun s => { s with simpleKeyAllowed := false }
  let start ← here
  skip
  let n ← budget
  let mut name := ""
  for _ in [0:n] do
    if isWordChar (← peekAt 0) then name ← readInto name else break
  if name.isEmpty then
    scanError "while scanning a directive" start "could not find expected directive name"
  if !isBlankOrEnd (← peekAt 0) then
    scanError "while scanning a directive" start "found unexpected non-alphabetical character"
  let skipBlanks : ScanM Unit := do
    for _ in [0:n] do
      if isBlank (← peekAt 0) then skip else break
  if name == "YAML" then
    skipBlanks
    let readNumber : ScanM Nat := do
      let mut v := 0
      let mut len := 0
      for _ in [0:n] do
        let d ← peekAt 0
        if '0' ≤ d && d ≤ '9' then
          len := len + 1
          if len > 2 then
            scanError "while scanning a %YAML directive" start "found extremely long version number"
          v := v * 10 + (d.toNat - 48)
          skip
        else break
      if len == 0 then
        scanError "while scanning a %YAML directive" start "did not find expected version number"
      return v
    let major ← readNumber
    if (← peekAt 0) != '.' then
      scanError "while scanning a %YAML directive" start
        "did not find expected digit or '.' character"
    skip
    let minor ← readNumber
    emit (.versionDirective major minor) start (← here)
  else if name == "TAG" then
    skipBlanks
    let handle ← scanTagHandle true start
    if !isBlank (← peekAt 0) then
      scanError "while scanning a %TAG directive" start "did not find expected whitespace"
    skipBlanks
    let pre ← scanTagUri true true "" start
    if !isBlankOrEnd (← peekAt 0) then
      scanError "while scanning a %TAG directive" start
        "did not find expected whitespace or line break"
    emit (.tagDirective handle pre) start (← here)
  else
    scanError "while scanning a directive" start "found unknown directive name"
  skipBlanks
  if (← peekAt 0) == '#' then
    for _ in [0:n] do
      if isBreakOrEnd (← peekAt 0) then break
      skip
  if !isBreakOrEnd (← peekAt 0) then
    scanError "while scanning a directive" start "did not find expected comment or line break"
  if isLineBreak (← peekAt 0) then modify Scanner.skipBreak

/-- Reads the next token or tokens. -/
def fetchNext : ScanM Unit := do
  let scanMark ← here
  scanToNextToken
  unrollIndent (← here).column scanMark
  let s ← get
  let c := s.ahead 0
  let next := s.ahead 1
  if c == endChar then fetchStreamEnd
  else if s.mark.column == 0 && c == '%' then fetchDirective
  else if s.mark.column == 0 && c == '-' && next == '-' && s.ahead 2 == '-' && isBlankOrEnd (s.ahead 3) then
    fetchDocumentIndicator .documentStart
  else if s.mark.column == 0 && c == '.' && next == '.' && s.ahead 2 == '.' && isBlankOrEnd (s.ahead 3) then
    fetchDocumentIndicator .documentEnd
  else if c == '[' then fetchFlowCollectionStart .flowSequenceStart
  else if c == '{' then fetchFlowCollectionStart .flowMappingStart
  else if c == ']' then fetchFlowCollectionEnd .flowSequenceEnd
  else if c == '}' then fetchFlowCollectionEnd .flowMappingEnd
  else if c == ',' then fetchFlowEntry
  else if c == '-' && isBlankOrEnd next then fetchBlockEntry
  else if c == '?' && (s.flowLevel > 0 || isBlankOrEnd next) then fetchKey
  else if c == ':' && (s.flowLevel > 0 || isBlankOrEnd next) then fetchValue
  else if c == '*' then fetchAnchor true
  else if c == '&' then fetchAnchor false
  else if c == '!' then fetchTag
  else if c == '|' && s.flowLevel == 0 then fetchBlockScalar true
  else if c == '>' && s.flowLevel == 0 then fetchBlockScalar false
  else if c == '\'' then fetchQuoted true
  else if c == '"' then fetchQuoted false
  else if !(isBlankOrEnd c || "-?:,[]\x7b\x7d#&*!|>'\"%@`".toList.contains c) ||
      (c == '-' && !isBlank next) ||
      (s.flowLevel == 0 && (c == '?' || c == ':') && !isBlankOrEnd next) then
    fetchPlain
  else
    scanError "while scanning for the next token" s.mark "found character that cannot start any token"

/-- The tokens of a text, and the problem that stopped the scanner, if one did, with the simple
keys still pending then (by token number), which make the parser look further ahead. -/
structure Tokens where
  tokens : Array Token
  failure : Option (Problem × List Nat) := none

/-- The simple keys pending in a scanner state: possible, on the current line and near enough. -/
def Scanner.pendingKeys (s : Scanner) : List Nat :=
  s.simpleKeys.toList.filterMap fun k =>
    if k.possible && k.mark.line == s.mark.line && s.mark.index ≤ k.mark.index + 1024 then
      some k.tokenNumber else none

/-- Reads tokens until the end of the stream or a problem. -/
def scanFrom (s : Scanner) : Nat → Tokens
  | 0 => { tokens := s.tokens }
  | fuel + 1 =>
    match fetchNext.run s with
    | .ok ((), s') =>
      match s'.tokens.back? with
      | some ⟨.streamEnd, _, _⟩ => { tokens := s'.tokens }
      | _ => scanFrom s' fuel
    | .error p => { tokens := s.tokens, failure := some (p, s.pendingKeys) }

/-- Reads all tokens of a text. Characters that may not appear in YAML at all stop the reading
before any token. -/
def scan (text : String) : Tokens :=
  let chars := text.toList
  if !chars.all isReadable then { tokens := #[], failure := some ({ problem := "control characters are not allowed" }, []) }
  else
    let chars := match chars with
      | '\uFEFF' :: rest => rest
      | cs => cs
    let start : Scanner := { chars := chars.toArray }
    match fetchStreamStart.run start with
    | .ok ((), s) => scanFrom s (chars.length + 2)
    | .error p => { tokens := #[], failure := some (p, []) }

end Stencil.Yaml

import Stencil.Markdown.Chars
/-!
# HTML tags in Markdown

Recognisers for the pieces of HTML that Markdown lets through: open and closing tags with their
attributes, comments, processing instructions, declarations and character data sections. Each
returns the length of the piece at the front of a text. Also the names of the block-level
elements, which start an HTML block.
-/

namespace Stencil.Markdown

/-- Whether `c` is an ASCII letter. -/
def isAsciiLetter (c : Char) : Bool := ('a' ≤ c && c ≤ 'z') || ('A' ≤ c && c ≤ 'Z')

/-- Whether `c` is an ASCII digit. -/
def isAsciiDigit (c : Char) : Bool := '0' ≤ c && c ≤ '9'

/-- The length of a tag name at the front: a letter, then letters, digits and hyphens. -/
def tagNameLength : List Char → Nat
  | c :: rest => if isAsciiLetter c then
      1 + (rest.takeWhile fun d => isAsciiLetter d || isAsciiDigit d || d == '-').length
    else 0
  | [] => 0

/-- Whether a character is blank inside a tag: space, tab, line feed or carriage return. -/
def isTagSpace (c : Char) : Bool := c == ' ' || c == '\t' || c == '\n' || c == '\r'

/-- The length of the blanks that may close a tag: spaces, tabs, line feeds, and carriage returns
only right before a line feed. -/
def closingGapLength : List Char → Nat
  | ' ' :: r | '\t' :: r | '\n' :: r => closingGapLength r + 1
  | '\r' :: '\n' :: r => closingGapLength r + 2
  | _ => 0

/-- Whether a character may stand in an unquoted attribute value: anything but blanks, control
characters, quotes, backticks, equals signs and angle brackets. -/
def isBareValueChar (c : Char) : Bool := c.toNat > 0x20 && !"\"'=<>`".toList.contains c

/-- The length of an attribute value specification `= value`, after optional blanks, or none. -/
def attrValueLength (cs : List Char) : Option Nat :=
  let sp1 := (cs.takeWhile isTagSpace).length
  match cs.drop sp1 with
  | '=' :: rest =>
    let sp2 := (rest.takeWhile isTagSpace).length
    let v := rest.drop sp2
    let valueLen : Option Nat :=
      match v with
      | '"' :: r => let body := r.takeWhile (· != '"'); if r.length > body.length then some (body.length + 2) else none
      | '\'' :: r => let body := r.takeWhile (· != '\''); if r.length > body.length then some (body.length + 2) else none
      | r =>
        let n := (r.takeWhile isBareValueChar).length
        if n = 0 then none else some n
    valueLen.map fun n => sp1 + 1 + sp2 + n
  | _ => none

/-- The length of the attributes of an open tag, each introduced by blanks. -/
def attributesLength (fuel : Nat) (cs : List Char) : Nat :=
  match fuel with
  | 0 => 0
  | f + 1 =>
    let sp := (cs.takeWhile isTagSpace).length
    if sp = 0 then 0
    else
      match cs.drop sp with
      | c :: rest =>
        if isAsciiLetter c || c == '_' || c == ':' then
          let nameLen := 1 + (rest.takeWhile fun d =>
            isAsciiLetter d || isAsciiDigit d || d == '_' || d == '.' || d == ':' || d == '-').length
          let afterName := cs.drop (sp + nameLen)
          let valLen := (attrValueLength afterName).getD 0
          let here := sp + nameLen + valLen
          here + attributesLength f (cs.drop here)
        else 0
      | [] => 0

/-- The length of an open tag `<name attrs /?>` at the front, if there is one. -/
def openTagLength (cs : List Char) : Option Nat :=
  match cs with
  | '<' :: rest =>
    let n := tagNameLength rest
    if n = 0 then none
    else
      let a := attributesLength rest.length (rest.drop n)
      let after := rest.drop (n + a)
      let sp := closingGapLength after
      match after.drop sp with
      | '/' :: '>' :: _ => some (1 + n + a + sp + 2)
      | '>' :: _ => some (1 + n + a + sp + 1)
      | _ => none
  | _ => none

/-- The length of a closing tag `</name>` at the front, if there is one. -/
def closeTagLength (cs : List Char) : Option Nat :=
  match cs with
  | '<' :: '/' :: rest =>
    let n := tagNameLength rest
    if n = 0 then none
    else
      let sp := closingGapLength (rest.drop n)
      match rest.drop (n + sp) with
      | '>' :: _ => some (2 + n + sp + 1)
      | _ => none
  | _ => none

/-- The length up to and including the first occurrence of `pat` in `cs`, if any. -/
def throughLength (pat : List Char) (cs : List Char) : Option Nat :=
  let rec go (fuel : Nat) (i : Nat) (r : List Char) : Option Nat :=
    match fuel with
    | 0 => none
    | f + 1 =>
      if pat.isPrefixOf r then some (i + pat.length)
      else match r with
        | [] => none
        | _ :: t => go f (i + 1) t
  go (cs.length + 1) 0 cs

/-- The length of an HTML comment at the front: `<!-->`, `<!--->`, or `<!--` ... `-->`. -/
def commentLength (cs : List Char) : Option Nat :=
  match cs with
  | '<' :: '!' :: '-' :: '-' :: rest =>
    match rest with
    | '>' :: _ => some 5
    | '-' :: '>' :: _ => some 6
    | _ => (throughLength ['-', '-', '>'] rest).map (4 + ·)
  | _ => none

/-- The length of a processing instruction `<?` ... `?>` at the front. -/
def instructionLength (cs : List Char) : Option Nat :=
  match cs with
  | '<' :: '?' :: rest => (throughLength ['?', '>'] rest).map (2 + ·)
  | _ => none

/-- Whether `c` is an upper case ASCII letter. -/
def isAsciiUpper (c : Char) : Bool := 'A' ≤ c && c ≤ 'Z'

/-- The length of a declaration `<!X` ... `>` at the front, `X` an upper case letter. -/
def declarationLength (cs : List Char) : Option Nat :=
  match cs with
  | '<' :: '!' :: c :: rest =>
    if isAsciiUpper c then (throughLength ['>'] rest).map (3 + ·) else none
  | _ => none

/-- The length of a character data section `<![CDATA[` ... `]]>` at the front. -/
def cdataLength (cs : List Char) : Option Nat :=
  if "<![CDATA[".toList.isPrefixOf cs then
    (throughLength [']', ']', '>'] (cs.drop 9)).map (9 + ·)
  else none

/-- The length of a piece of inline HTML at the front. -/
def inlineHtmlLength (cs : List Char) : Option Nat :=
  (openTagLength cs).orElse fun _ => (closeTagLength cs).orElse fun _ =>
    (commentLength cs).orElse fun _ => (instructionLength cs).orElse fun _ =>
      (cdataLength cs).orElse fun _ => declarationLength cs

/-- The names of the block-level elements. -/
def blockTagNames : List String :=
  ["address", "article", "aside", "base", "basefont", "blockquote", "body", "caption", "center",
   "col", "colgroup", "dd", "details", "dialog", "dir", "div", "dl", "dt", "fieldset",
   "figcaption", "figure", "footer", "form", "frame", "frameset", "h1", "h2", "h3", "h4", "h5",
   "h6", "head", "header", "hr", "html", "iframe", "legend", "li", "link", "main", "menu",
   "menuitem", "meta", "nav", "noframes", "ol", "optgroup", "option", "p", "param", "search", "section",
   "summary", "table", "tbody", "td", "tfoot", "th", "thead", "title", "tr", "track", "ul"]

/-- The text in lower case, ASCII letters only. -/
def lowerAscii (cs : List Char) : List Char := cs.map Char.toLower

/-- Whether what is left of a line is at most its line break. -/
def isLineEnd (cs : List Char) : Bool := cs == [] || cs == ['\n'] || cs == ['\r', '\n']

/-- The shape of a tag that stands alone on a line: whether it closes, its name, and whether it
has attributes. Between the tag and the line break only spaces may stand, and before the `>` only
spaces too. -/
def loneTag (cs : List Char) : Option (Bool × List Char × Bool) :=
  match cs with
  | '<' :: rest =>
    let (closing, rest) := match rest with
      | '/' :: r => (true, r.dropWhile (· == ' '))
      | r => (false, r)
    let n := tagNameLength rest
    if n = 0 then none
    else
      let afterName := rest.drop n
      let a := attributesLength afterName.length afterName
      let after := (afterName.drop a).dropWhile (· == ' ')
      let tail := match after with
        | '/' :: '>' :: r => some r
        | '>' :: r => some r
        | _ => none
      match tail with
      | some r => if isLineEnd (r.dropWhile (· == ' ')) then some (closing, rest.take n, a > 0) else none
      | none => none
  | _ => none

/-- The kind (one to seven) of HTML block a line starts; `cs` is the line from its `<`, with its
line feed if it has one. Kind one is a raw text element, two a comment, three a processing
instruction, four a declaration, five a character data section, six a block-level element, and
seven any other lone tag, which cannot interrupt a paragraph. -/
def htmlBlockStart (cs : List Char) (inParagraph : Bool) : Option Nat :=
  if cs.head? != some '<' then none else
  let lower := lowerAscii cs
  let kind1 := ["script", "pre", "style", "textarea"].any fun t =>
    ('<' :: t.toList).isPrefixOf lower &&
      (match lower.drop (t.length + 1) with
       | c :: r => isTagSpace c || c == '\x0c' || c == '>' || (c == '/' && r.head? == some '>')
       | [] => true)
  if kind1 then some 1
  else if "<!--".toList.isPrefixOf cs then some 2
  else if "<?".toList.isPrefixOf cs then some 3
  else match cs with
  | '<' :: '!' :: c :: _ =>
    if isAsciiUpper c then some 4 else if "<![CDATA[".toList.isPrefixOf cs then some 5 else none
  | _ =>
    let isBlockTag (name : List Char) : Bool := blockTagNames.contains (String.ofList (lowerAscii name))
    let alone : Option Nat := match loneTag cs with
      | some (closing, name, attrs) =>
        let lowered := String.ofList (lowerAscii name)
        if isBlockTag name then some 6
        else if ["script", "style", "pre"].contains lowered || inParagraph || (closing && attrs) then
          none
        else some 7
      | none => none
    alone.orElse fun _ =>
      let afterLt := match cs with
        | '<' :: '/' :: r => r.dropWhile (· == ' ')
        | r => r.drop 1
      let n := tagNameLength afterLt
      let fits := match afterLt.drop n with
        | c :: r => c == ' ' || c == '>' || (c == '/' && r.head? == some '>') || isLineEnd (c :: r)
        | [] => true
      if n > 0 && isBlockTag (afterLt.take n) && fits then some 6 else none

/-- Whether a line ends an HTML block of the given kind. -/
def htmlBlockEnds (kind : Nat) (cs : List Char) : Bool :=
  let lower := lowerAscii cs
  let has (p : String) := (throughLength p.toList lower).isSome
  match kind with
  | 1 => has "</script>" || has "</pre>" || has "</style>" || has "</textarea>"
  | 2 => has "-->"
  | 3 => has "?>"
  | 4 => has ">"
  | 5 => has "]]>"
  | _ => false

end Stencil.Markdown

import Stencil.Markdown.Inline
import Stencil.Text.Hex
/-!
# Markdown to HTML

Writes a parsed document as HTML. Raw HTML in the source is never passed through: each piece of
it stands as a comment saying it was left out. Destinations are percent-encoded outside a safe set
of ASCII characters, and a destination whose scheme can run code (`javascript:`, `vbscript:`,
`file:`, `data:` other than common image types) is left empty. In a tight list the paragraphs of
an item are written without their `<p>` tags.
-/

namespace Stencil.Markdown

/-- Resolves backslash escapes of ASCII punctuation. -/
def unescapePunctuation (cs : List Char) : List Char :=
  match cs with
  | [] => []
  | '\\' :: c :: t => if isAsciiPunct c then c :: unescapePunctuation t
    else '\\' :: unescapePunctuation (c :: t)
  | c :: t => c :: unescapePunctuation t

/-- The value of a run of decimal digits read as a number literal: octal when a zero leads more
digits, decimal otherwise; none when an octal run holds an 8 or a 9. -/
def literalValue (ds : List Char) : Option Nat :=
  match ds with
  | '0' :: t@(_ :: _) =>
    if t.all (· < '8') then some (t.foldl (fun n c => n * 8 + (c.toNat - 48)) 0) else none
  | _ => some (numericValue false ds)

/-- Reads a numeric character reference at the front (after the `&`) as destinations read them:
any number of hexadecimal digits, or at most seven decimal digits read as a number literal. A
value that names no character, or a literal that does not read, is the replacement character. -/
def readDestinationNumeric (cs : List Char) : Option (String × Nat) :=
  match cs with
  | '#' :: x :: rest =>
    if x == 'x' || x == 'X' then
      let ds := rest.takeWhile fun c => isAsciiDigit c || ('a' ≤ c && c ≤ 'f') || ('A' ≤ c && c ≤ 'F')
      if 1 ≤ ds.length && (rest.drop ds.length).head? == some ';' then
        some ((codePoint (numericValue true ds)).toString, ds.length + 3)
      else none
    else
      let ds := (x :: rest).takeWhile isAsciiDigit
      if 1 ≤ ds.length && ds.length ≤ 7 && ((x :: rest).drop ds.length).head? == some ';' then
        some ((codePoint ((literalValue ds).getD 0)).toString, ds.length + 2)
      else none
  | _ => none

/-- Resolves character references of a destination, numeric ones or named ones. -/
def resolveReferences (numeric : Bool) (cs : List Char) : List Char :=
  go (cs.length + 1) cs
where
  go (fuel : Nat) (cs : List Char) : List Char :=
    match fuel, cs with
    | 0, r => r
    | _, [] => []
    | f + 1, '&' :: t =>
      let read := if t.head? == some '#' then (if numeric then readDestinationNumeric t else none)
        else if numeric then none else readReference t
      match read with
      | some (s, n) => s.toList ++ go f (t.drop n)
      | none => '&' :: go f t
    | f + 1, c :: t => c :: go f t

/-- Whether an ASCII character stands in a destination as it is. -/
def isUrlSafe (c : Char) : Bool :=
  isAsciiLetter c || isAsciiDigit c || "!#$&'()*+,-./:;=?@_~".toList.contains c

/-- Whether a byte is an ASCII hexadecimal digit. -/
def isHexByte (b : UInt8) : Bool :=
  (48 ≤ b && b ≤ 57) || (65 ≤ b && b ≤ 70) || (97 ≤ b && b ≤ 102)

/-- Percent-encodes a destination: safe ASCII characters stay, a space is `%20`, a `%` followed by a
hexadecimal digit and one more character is kept with them, and every other byte is `%` and two
upper-case hexadecimal digits. -/
def percentEncode (s : String) : String :=
  go (s.toUTF8.size + 1) s.toUTF8.toList
where
  go (fuel : Nat) (bs : List UInt8) : String :=
    match fuel, bs with
    | 0, _ => ""
    | _, [] => ""
    | f + 1, b :: t =>
      let c := Char.ofNat b.toNat
      if b < 128 && isUrlSafe c then c.toString ++ go f t
      else if b == 37 then
        match t with
        | x :: y :: r => if isHexByte x then String.ofList ['%', Char.ofNat x.toNat, Char.ofNat y.toNat] ++ go f r
          else "%25" ++ go f t
        | _ => "%25" ++ go f t
      else if b == 32 then "%20" ++ go f t
      else "%" ++ String.ofList ((Text.hexDigits 2 b.toNat).map Char.toUpper) ++ go f t

/-- Resolves the escapes and character references of a destination, in three passes after one
another: escapes, numeric references, named references. A named reference that opens the
destination stays as written. -/
def resolveDestination (cs : List Char) : List Char :=
  match resolveReferences true (unescapePunctuation cs) with
  | '&' :: t => '&' :: resolveReferences false t
  | cs => resolveReferences false cs

/-- A destination as an attribute value; with `resolve`, escapes and references in it are resolved
first. -/
def destinationAttribute (resolve : Bool) (dest : String) : String :=
  let cs := dest.toList
  let cs := if resolve then resolveDestination cs else cs
  escapeText (percentEncode (String.ofList cs))

/-- Whether a text starts with a prefix, ignoring ASCII case. -/
def startsWithFolded (s pre : String) : Bool :=
  (pre.toList.map Char.toLower).isPrefixOf (s.toList.map Char.toLower)

/-- Whether a destination may run code when followed: `javascript:`, `vbscript:`, `file:`, or
`data:` other than a PNG, GIF, JPEG, WebP or SVG image. -/
def isDangerous (dest : String) : Bool :=
  if startsWithFolded dest "data:image/" then
    let rest := String.ofList (dest.toList.drop 11)
    !(["png;", "gif;", "jpeg;", "webp;", "svg+xml;"].any (startsWithFolded rest ·))
  else
    ["javascript:", "vbscript:", "file:", "data:"].any (startsWithFolded dest ·)

/-- The ` title="..."` attribute of a link or image, if it has a title. -/
def titleAttribute : Option String → String
  | some t => " title=\"" ++ escapeWritten (unescape t.toList) ++ "\""
  | none => ""

/-- The comment that stands for raw HTML. -/
def omittedHtml : String := "<!-- raw HTML omitted -->"

mutual
/-- The HTML of an inline. -/
def Inline.toHtml : Inline → String
  | .text s => escapeWritten s
  | .code s => "<code>" ++ escapeText (s.map fun c => if c == '\n' then ' ' else c) ++ "</code>"
  | .softBreak => "\n"
  | .hardBreak => "<br>\n"
  | .rawHtml => omittedHtml
  | .emphasis strong cs =>
    let tag := if strong then "strong" else "em"
    "<" ++ tag ++ ">" ++ inlinesHtml cs ++ "</" ++ tag ++ ">"
  | .link t cs =>
    let href := if isDangerous t.dest then "" else destinationAttribute true t.dest
    "<a href=\"" ++ href ++ "\"" ++ titleAttribute t.title ++ ">" ++ inlinesHtml cs ++ "</a>"
  | .image t cs =>
    let src := if isDangerous t.dest then "" else destinationAttribute true t.dest
    "<img src=\"" ++ src ++ "\" alt=\"" ++ inlinesText cs ++ "\"" ++ titleAttribute t.title ++ ">"
  | .autolink address email =>
    let scheme := if email && !startsWithFolded address "mailto:" then "mailto:" else ""
    "<a href=\"" ++ scheme ++ destinationAttribute false address ++ "\">" ++ escapeText address ++
      "</a>"

/-- The HTML of a sequence of inlines. -/
def inlinesHtml : List Inline → String
  | [] => ""
  | i :: is => i.toHtml ++ inlinesHtml is

/-- The text of an inline as an image's description: its text and line breaks, markup dropped. -/
def Inline.toText : Inline → String
  | .text s => escapeWritten s
  | .code s => escapeText s
  | .softBreak => "\n"
  | .hardBreak => "<br>\n"
  | .rawHtml => ""
  | .emphasis _ cs => inlinesText cs
  | .link _ cs => inlinesText cs
  | .image _ cs => inlinesText cs
  | .autolink _ _ => ""

/-- The text of a sequence of inlines as an image's description. -/
def inlinesText : List Inline → String
  | [] => ""
  | i :: is => i.toText ++ inlinesText is
end

/-- The language of a fenced code block: its information text up to the first space. -/
def languageOf (info : String) : String :=
  String.ofList (info.toList.takeWhile (· != ' '))

mutual
/-- The HTML of a block; `tight` tells whether it stands directly in an item of a tight list. -/
def Block.toHtml (defs : Definitions) (tight : Bool) : Block → String
  | .paragraph text =>
    let body := inlinesHtml (readInlines defs text)
    if tight then body else "<p>" ++ body ++ "</p>\n"
  | .definitions => ""
  | .heading level text =>
    let tag := "h" ++ toString level
    "<" ++ tag ++ ">" ++ inlinesHtml (readInlines defs text) ++ "</" ++ tag ++ ">\n"
  | .thematicBreak => "<hr>\n"
  | .fencedCode info body =>
    let lang := languageOf info
    let cls := if lang.isEmpty then "" else " class=\"language-" ++ escapeWritten (unescape lang.toList) ++ "\""
    "<pre><code" ++ cls ++ ">" ++ escapeText body ++ "</code></pre>\n"
  | .indentedCode body => "<pre><code>" ++ escapeText body ++ "</code></pre>\n"
  | .html closed => omittedHtml ++ "\n" ++ (if closed then omittedHtml ++ "\n" else "")
  | .quote cs => "<blockquote>\n" ++ blocksHtml defs false cs ++ "</blockquote>\n"
  | .list ordered start tight items =>
    let tag := if ordered then "ol" else "ul"
    let open_ := if ordered && start != 1 then "<ol start=\"" ++ toString start ++ "\">" else "<" ++ tag ++ ">"
    open_ ++ "\n" ++ itemsHtml defs tight items ++ "</" ++ tag ++ ">\n"
  | .item cs => "<li>" ++ itemBody defs tight cs ++ "</li>\n"

/-- The HTML of a sequence of blocks. -/
def blocksHtml (defs : Definitions) (tight : Bool) : List Block → String
  | [] => ""
  | b :: bs => b.toHtml defs tight ++ blocksHtml defs tight bs

/-- The HTML of the items of a list. -/
def itemsHtml (defs : Definitions) (tight : Bool) : List Block → String
  | [] => ""
  | b :: bs => b.toHtml defs tight ++ itemsHtml defs tight bs

/-- The content of an item: a line break first unless it opens with a paragraph written without
tags or with the place of link definitions, and a line break after such a paragraph when more
follows. -/
def itemBody (defs : Definitions) (tight : Bool) : List Block → String
  | [] => ""
  | b :: bs =>
    match b, tight with
    | .paragraph _, true => b.toHtml defs true ++ (if bs.isEmpty then "" else "\n") ++ itemRest defs tight bs
    | .definitions, _ => itemRest defs tight bs
    | _, _ => "\n" ++ b.toHtml defs tight ++ itemRest defs tight bs

/-- The blocks of an item after its first. -/
def itemRest (defs : Definitions) (tight : Bool) : List Block → String
  | [] => ""
  | b :: bs =>
    match b, tight with
    | .paragraph _, true => b.toHtml defs true ++ (if bs.isEmpty then "" else "\n") ++ itemRest defs tight bs
    | _, _ => b.toHtml defs tight ++ itemRest defs tight bs
end

/-- The HTML of a Markdown text. -/
def toHtml (s : String) : String :=
  let (blocks, defs) := readBlocks s
  blocksHtml defs false blocks

end Stencil.Markdown

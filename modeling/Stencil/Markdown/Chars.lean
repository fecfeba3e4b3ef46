import Stencil.Unicode.Class
import Stencil.Markdown.Entity
/-!
# Characters of Markdown

The character classes Markdown parsing uses: ASCII punctuation (which a backslash may escape),
Unicode punctuation and symbols and Unicode white space (which decide whether a run of `*` or `_`
can open or close emphasis), and the escaping of text for HTML output, in which `&`, `<`, `>` and
`"` are written as references.
-/

namespace Stencil.Markdown

/-- Whether `c` is one of the ASCII punctuation characters. -/
def isAsciiPunct (c : Char) : Bool :=
  "!\"#$%&'()*+,-./:;<=>?@[\\]^_`{|}~".toList.contains c

/-- Whether `c` is punctuation or a symbol of Unicode. -/
def isPunct (c : Char) : Bool := Unicode.isPunctuationOrSymbol c

/-- Whether `c` is white space of Unicode, for emphasis. -/
def isUnicodeSpace (c : Char) : Bool := Unicode.isWhiteSpace c

/-- Whether `c` is a space or a tab. -/
def isSpaceOrTab (c : Char) : Bool := c == ' ' || c == '\t'

/-- Whether `c` is blank for the line structure: a space, a tab, a line feed or a carriage
return. A line of these only is a blank line, and they are trimmed from the ends of text; the
vertical tab and the form feed are text. -/
def isBlankSpace (c : Char) : Bool := c == ' ' || c == '\t' || c == '\n' || c == '\r'

/-- Text escaped for HTML output. -/
def escapeText (s : String) : String :=
  String.join (s.toList.map fun c =>
    match c with
    | '&' => "&amp;"
    | '<' => "&lt;"
    | '>' => "&gt;"
    | '"' => "&quot;"
    | c => c.toString)

/-- Text escaped for HTML output as text, a NUL character becoming the replacement
character. -/
def escapeWritten (s : String) : String :=
  escapeText (s.map fun c => if c == '\x00' then '\uFFFD' else c)

/-- The character of a numeric reference: zero and code points that are not characters give
the replacement character. -/
def codePoint (n : Nat) : Char :=
  if n == 0 || n > 0x10FFFF || (0xD800 ≤ n && n ≤ 0xDFFF) then '�' else Char.ofNat n

end Stencil.Markdown

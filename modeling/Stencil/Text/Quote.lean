import Stencil.Text.Hex
import Stencil.Unicode.Class
/-!
# Quoted text in messages

Messages show a piece of input in double quotes, escaped so that it reads on one line: a quote
and a backslash get a backslash, the common control characters their short escapes (`\n`, `\t`,
...), other control characters `\xNN`, and characters that do not print (format characters,
separators other than the space, private-use and unassigned code points) `\uNNNN` or
`\UNNNNNNNN`. Letters, marks, numbers, punctuation and symbols of every script stand as they are.
-/

namespace Stencil.Text

/-- Whether a character prints as itself in a quoted message. -/
def isPrint (c : Char) : Bool := Unicode.isPrint c

/-- The escape of one character inside double quotes. -/
def escapeRune (c : Char) : List Char :=
  if c == '"' || c == '\\' then ['\\', c]
  else if isPrint c then [c]
  else
    match c with
    | '\x07' => ['\\', 'a']
    | '\x08' => ['\\', 'b']
    | '\x0c' => ['\\', 'f']
    | '\n' => ['\\', 'n']
    | '\r' => ['\\', 'r']
    | '\t' => ['\\', 't']
    | '\x0b' => ['\\', 'v']
    | _ =>
      let n := c.toNat
      if n < 0x20 || n == 0x7F then ['\\', 'x'] ++ hexDigits 2 n
      else if n < 0x10000 then ['\\', 'u'] ++ hexDigits 4 n
      else ['\\', 'U'] ++ hexDigits 8 n

/-- A character in single quotes with the escapes above, except that the single quote gets a
backslash and the double quote does not. -/
def quoteRune (c : Char) : String :=
  if c == '\'' then "'\\''"
  else if c == '"' then "'\"'"
  else String.ofList ('\'' :: escapeRune c ++ ['\''])

/-- A text in double quotes with the escapes above. -/
def quote (s : String) : String :=
  String.ofList ('"' :: s.toList.flatMap escapeRune ++ ['"'])

end Stencil.Text

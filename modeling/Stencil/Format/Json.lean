import Stencil.Text.Hex
/-!
# JSON text

JSON values with object members in the order written, and the indented form they are written
in: one member or element per line, two spaces per level, `": "` after a key, empty containers
written `{}` and `[]`. Strings escape the quote, the backslash and the control characters (by
their short escapes where JSON has them, else as `\u00XX`), and the line and paragraph separators
U+2028 and U+2029; markup characters stand for themselves.
-/

namespace Stencil

/-- A JSON value. Numbers keep their text. -/
inductive JsonValue where
  | null
  | bool (b : Bool)
  | number (text : String)
  | string (s : String)
  | array (items : List JsonValue)
  | object (members : List (String × JsonValue))
deriving Repr, Inhabited

namespace JsonValue

/-- The escape of one character inside a JSON string. -/
def escapeChar (c : Char) : List Char :=
  match c with
  | '"' => ['\\', '"']
  | '\\' => ['\\', '\\']
  | '\n' => ['\\', 'n']
  | '\r' => ['\\', 'r']
  | '\t' => ['\\', 't']
  | '\x08' => ['\\', 'b']
  | '\x0c' => ['\\', 'f']
  | _ =>
    if c.toNat < 0x20 then ['\\', 'u'] ++ Text.hexDigits 4 c.toNat
    else if c.toNat == 0x2028 || c.toNat == 0x2029 then ['\\', 'u'] ++ Text.hexDigits 4 c.toNat
    else [c]

/-- A string as a JSON string literal. -/
def quote (s : String) : String :=
  String.ofList ('"' :: s.toList.flatMap escapeChar ++ ['"'])

/-- Two spaces per level. -/
def indent (level : Nat) : String :=
  String.ofList (List.replicate (2 * level) ' ')

mutual
/-- The indented text of a value at nesting `level`. -/
def render (level : Nat) : JsonValue → String
  | .null => "null"
  | .bool b => if b then "true" else "false"
  | .number t => t
  | .string s => quote s
  | .array [] => "[]"
  | .array (x :: xs) =>
    "[\n" ++ renderItems (level + 1) (x :: xs) ++ "\n" ++ indent level ++ "]"
  | .object [] => "{}"
  | .object (m :: ms) =>
    "\x7b\n" ++ renderMembers (level + 1) (m :: ms) ++ "\n" ++ indent level ++ "\x7d"

/-- Array elements, one per line. -/
def renderItems (level : Nat) : List JsonValue → String
  | [] => ""
  | [x] => indent level ++ render level x
  | x :: xs => indent level ++ render level x ++ ",\n" ++ renderItems level xs

/-- Object members, one per line. -/
def renderMembers (level : Nat) : List (String × JsonValue) → String
  | [] => ""
  | [(k, v)] => indent level ++ quote k ++ ": " ++ render level v
  | (k, v) :: ms => indent level ++ quote k ++ ": " ++ render level v ++ ",\n" ++ renderMembers level ms
end

/-- The indented text of a document, ending with a newline. -/
def document (v : JsonValue) : String :=
  render 0 v ++ "\n"

/-- The escape of one character, where the markup characters `<`, `>` and `&` are escaped as
well. -/
def escapeMarkupChar (c : Char) : List Char :=
  if c == '<' || c == '>' || c == '&' then ['\\', 'u'] ++ Text.hexDigits 4 c.toNat
  else escapeChar c

/-- A string literal with the markup characters escaped. -/
def quoteMarkup (s : String) : String :=
  String.ofList ('"' :: s.toList.flatMap escapeMarkupChar ++ ['"'])

mutual
/-- The text of a value on one line without spaces; strings are written by `str`. -/
def compact (str : String → String) : JsonValue → String
  | .null => "null"
  | .bool b => if b then "true" else "false"
  | .number t => t
  | .string s => str s
  | .array xs => "[" ++ compactItems str xs ++ "]"
  | .object ms => "\x7b" ++ compactMembers str ms ++ "\x7d"

/-- Array elements on one line, separated by commas. -/
def compactItems (str : String → String) : List JsonValue → String
  | [] => ""
  | [x] => compact str x
  | x :: xs => compact str x ++ "," ++ compactItems str xs

/-- Object members on one line, separated by commas. -/
def compactMembers (str : String → String) : List (String × JsonValue) → String
  | [] => ""
  | [(k, v)] => str k ++ ":" ++ compact str v
  | (k, v) :: ms => str k ++ ":" ++ compact str v ++ "," ++ compactMembers str ms
end

end JsonValue

end Stencil

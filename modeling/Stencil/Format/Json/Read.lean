import Stencil.Format.Json
import Stencil.Text.Quote
/-!
# Reading JSON text

A text is first checked character by character against the grammar of JSON, so that the first
character out of place is reported with what was expected there: `invalid character 'x' looking
for beginning of value`, `... after object key`, `... in string`, and so on, or
`unexpected end of JSON input` when the text stops early. The end of the text counts as a space,
so a word cut short reports the space it was expecting a letter in. A bad escape in a string is
reported with its text, `invalid escape sequence` and the escape between backticks, and objects and
arrays may nest at most ten thousand deep. Only a text that passes is
read into a value: strings with their escapes resolved, a surrogate that is not half of a pair
read as U+FFFD, numbers kept as written.
-/

namespace Stencil.Json

/-- What an open container expects next. -/
inductive Frame where
  | objectKey
  | objectValue
  | arrayValue
deriving DecidableEq

/-- Where the checker stands. -/
inductive Phase where
  | beginValueOrEmpty
  | beginValue
  | beginStringOrEmpty
  | beginString
  | endValue
  | endTop
  | inString
  | minus
  | zero
  | digits
  | point
  | fraction
  | exponent
  | exponentSign
  | exponentDigits
  | word (w : String) (read : Nat)
deriving DecidableEq

/-- The JSON blanks. -/
def isSpace (c : Char) : Bool := c == ' ' || c == '\t' || c == '\r' || c == '\n'

/-- Whether a character is a decimal digit. -/
def isDigit (c : Char) : Bool := '0' ≤ c && c ≤ '9'

/-- Whether a character is a hexadecimal digit. -/
def isHex (c : Char) : Bool :=
  isDigit c || ('a' ≤ c && c ≤ 'f') || ('A' ≤ c && c ≤ 'F')

/-- A character as a message shows it: in single quotes, escaped unless it prints. -/
def quoteChar (c : Char) : String := Text.quoteRune c

/-- The message for a character out of place. -/
def invalid (c : Char) (context : String) : String :=
  "invalid character " ++ quoteChar c ++ " " ++ context

/-- The checker's state: the phase and the open containers, innermost first. -/
structure Checker where
  phase : Phase := .beginValue
  stack : List Frame := []

/-- The state after a value ends, seen with the character that follows it. -/
def endValue (stack : List Frame) (c : Char) : Except String Checker :=
  match stack with
  | [] => if isSpace c then .ok ⟨.endTop, []⟩ else .error (invalid c "after top-level value")
  | f :: rest =>
    if isSpace c then .ok ⟨.endValue, stack⟩
    else
      match f with
      | .objectKey =>
        if c == ':' then .ok ⟨.beginValue, .objectValue :: rest⟩
        else .error (invalid c "after object key")
      | .objectValue =>
        if c == ',' then .ok ⟨.beginString, .objectKey :: rest⟩
        else if c == '}' then .ok ⟨if rest.isEmpty then .endTop else .endValue, rest⟩
        else .error (invalid c "after object key:value pair")
      | .arrayValue =>
        if c == ',' then .ok ⟨.beginValue, stack⟩
        else if c == ']' then .ok ⟨if rest.isEmpty then .endTop else .endValue, rest⟩
        else .error (invalid c "after array element")

/-- How deep objects and arrays may nest. -/
def maxDepth : Nat := 10000

/-- The state where a value begins, seen with its first character. -/
def beginValue (stack : List Frame) (c : Char) : Except String Checker :=
  if isSpace c then .ok ⟨.beginValue, stack⟩
  else if (c == '{' || c == '[') && stack.length ≥ maxDepth then .error "exceeded max depth"
  else if c == '{' then .ok ⟨.beginStringOrEmpty, .objectKey :: stack⟩
  else if c == '[' then .ok ⟨.beginValueOrEmpty, .arrayValue :: stack⟩
  else if c == '"' then .ok ⟨.inString, stack⟩
  else if c == '-' then .ok ⟨.minus, stack⟩
  else if c == '0' then .ok ⟨.zero, stack⟩
  else if c == 't' then .ok ⟨.word "true" 1, stack⟩
  else if c == 'f' then .ok ⟨.word "false" 1, stack⟩
  else if c == 'n' then .ok ⟨.word "null" 1, stack⟩
  else if isDigit c then .ok ⟨.digits, stack⟩
  else .error (invalid c "looking for beginning of value")

/-- The state after the whole part of a number, seen with the next character. -/
def afterWhole (stack : List Frame) (c : Char) : Except String Checker :=
  if c == '.' then .ok ⟨.point, stack⟩
  else if c == 'e' || c == 'E' then .ok ⟨.exponent, stack⟩
  else endValue stack c

/-- The state after the sign of an exponent, seen with the next character. -/
def afterExponentSign (stack : List Frame) (c : Char) : Except String Checker :=
  if isDigit c then .ok ⟨.exponentDigits, stack⟩
  else .error (invalid c "in numeric literal")

/-- One step of the checker. -/
def Checker.step (s : Checker) (c : Char) : Except String Checker :=
  let stack := s.stack
  match s.phase with
  | .beginValueOrEmpty =>
    if isSpace c then .ok s
    else if c == ']' then endValue stack c
    else beginValue stack c
  | .beginValue => beginValue stack c
  | .beginStringOrEmpty =>
    if isSpace c then .ok s
    else if c == '}' then
      match stack with
      | _ :: rest => endValue (.objectValue :: rest) c
      | [] => endValue [] c
    else if c == '"' then .ok ⟨.inString, stack⟩
    else .error (invalid c "looking for beginning of object key string")
  | .beginString =>
    if isSpace c then .ok s
    else if c == '"' then .ok ⟨.inString, stack⟩
    else .error (invalid c "looking for beginning of object key string")
  | .endValue => endValue stack c
  | .endTop =>
    if isSpace c then .ok s else .error (invalid c "after top-level value")
  | .inString =>
    if c == '"' then .ok ⟨.endValue, stack⟩
    else if c.toNat < 0x20 then .error (invalid c "in string")
    else .ok s
  | .minus =>
    if c == '0' then .ok ⟨.zero, stack⟩
    else if isDigit c then .ok ⟨.digits, stack⟩
    else .error (invalid c "in numeric literal")
  | .zero => afterWhole stack c
  | .digits => if isDigit c then .ok s else afterWhole stack c
  | .point =>
    if isDigit c then .ok ⟨.fraction, stack⟩
    else .error (invalid c "in numeric literal")
  | .fraction =>
    if isDigit c then .ok s
    else if c == 'e' || c == 'E' then .ok ⟨.exponent, stack⟩
    else endValue stack c
  | .exponent =>
    if c == '+' || c == '-' then .ok ⟨.exponentSign, stack⟩
    else afterExponentSign stack c
  | .exponentSign => afterExponentSign stack c
  | .exponentDigits => if isDigit c then .ok s else endValue stack c
  | .word w k =>
    let expected := (w.toList.drop k).headD ' '
    if c == expected then
      .ok ⟨if k + 1 == w.length then .endValue else .word w (k + 1), stack⟩
    else .error (invalid c ("in literal " ++ w ++ " (expecting " ++ quoteChar expected ++ ")"))

/-- Whether a character is white space in the sense of Unicode. -/
def isWhiteSpace (c : Char) : Bool :=
  let n := c.toNat
  (0x09 ≤ n && n ≤ 0x0D) || n == 0x20 || n == 0x85 || n == 0xA0 || n == 0x1680 ||
    (0x2000 ≤ n && n ≤ 0x200A) || n == 0x2028 || n == 0x2029 || n == 0x202F || n == 0x205F ||
    n == 0x3000

/-- The characters of a text that fit whole in its first `n` bytes, and the bytes of the one cut
short there. -/
def splitBytes (cs : List Char) (n : Nat) : List Char × List UInt8 :=
  match cs with
  | [] => ([], [])
  | c :: t =>
    if c.utf8Size ≤ n then
      let (whole, cut) := splitBytes t (n - c.utf8Size)
      (c :: whole, cut)
    else ([], c.toString.toUTF8.toList.take n)

/-- The message for a bad escape: its first `n` bytes, between backticks, or in double quotes
with escapes when they hold a backtick, a replacement character, white space, a character that
does not print, or a character cut short. -/
def invalidEscape (cs : List Char) (n : Nat) : String :=
  let (whole, cut) := splitBytes cs n
  let plain := cut.isEmpty && whole.all fun c =>
    c != '`' && c != '\uFFFD' && !isWhiteSpace c && Text.isPrint c
  let shown :=
    if plain then "`" ++ String.ofList whole ++ "`"
    else String.ofList ('"' :: whole.flatMap Text.escapeRune ++
      cut.flatMap (fun b => ['\\', 'x'] ++ Text.hexDigits 2 b.toNat) ++ ['"'])
  "invalid escape sequence " ++ shown ++ " in string"

/-- Checks a whole text; the message of the first thing wrong. An escape in a string is checked
with what follows it: a `\u` needs four hexadecimal digits, and a text that ends among them before
anything else is wrong ends early. -/
def check (text : String) : Except String Unit :=
  go (text.length + 1) text.toList {}
where
  go : Nat → List Char → Checker → Except String Unit
    | 0, _, _ => .ok ()
    | _, [], s => finish s
    | fuel + 1, c :: rest, s =>
      if s.phase == .inString && c == '\\' then
        match rest with
        | [] => .error "unexpected end of JSON input"
        | e :: more =>
          if "bfnrt\\/\"".toList.contains e then go fuel more s
          else if e == 'u' then
            let digits := more.take 4
            if digits.all isHex then
              if digits.length == 4 then go fuel (more.drop 4) s
              else .error "unexpected end of JSON input"
            else .error (invalidEscape (c :: rest) 6)
          else .error (invalidEscape (c :: rest) 2)
      else
        match s.step c with
        | .ok s => go fuel rest s
        | .error e => .error e
  finish (s : Checker) : Except String Unit := do
    if s.phase == .endTop then return ()
    let s ← s.step ' '
    if s.phase == .endTop then return ()
    throw "unexpected end of JSON input"

/-- The value of four hexadecimal digits. -/
def hexValue (cs : List Char) : Nat :=
  cs.foldl (fun n c =>
    n * 16 + (if isDigit c then c.toNat - 48
      else if 'a' ≤ c && c ≤ 'f' then c.toNat - 87 else c.toNat - 55)) 0

/-- Reads the inside of a string literal up to its closing quote, resolving escapes; returns the
text and the rest after the quote. -/
def readString : Nat → List Char → List Char → String × List Char
  | 0, acc, rest => (String.ofList acc.reverse, rest)
  | _, acc, [] => (String.ofList acc.reverse, [])
  | fuel + 1, acc, c :: rest =>
    if c == '"' then (String.ofList acc.reverse, rest)
    else if c == '\\' then
      match rest with
      | 'u' :: a :: b :: d :: e :: more =>
        let r := hexValue [a, b, d, e]
        if 0xD800 ≤ r && r < 0xE000 then
          let low :=
            match more with
            | '\\' :: 'u' :: a' :: b' :: d' :: e' :: more' =>
              let r2 := hexValue [a', b', d', e']
              if r < 0xDC00 && 0xDC00 ≤ r2 && r2 < 0xE000 then some (r2, more') else none
            | _ => none
          match low with
          | some (r2, more') =>
            readString fuel (Char.ofNat (0x10000 + (r - 0xD800) * 0x400 + (r2 - 0xDC00)) :: acc) more'
          | none => readString fuel ('�' :: acc) more
        else readString fuel (Char.ofNat r :: acc) more
      | e :: more =>
        let ch := match e with
          | 'b' => '\x08'
          | 'f' => '\x0c'
          | 'n' => '\n'
          | 'r' => '\r'
          | 't' => '\t'
          | other => other
        readString fuel (ch :: acc) more
      | [] => (String.ofList acc.reverse, [])
    else readString fuel (c :: acc) rest

/-- Drops leading blanks. -/
def skipSpace (cs : List Char) : List Char := cs.dropWhile isSpace

/-- Reads a value from text already checked; returns the value and the rest. -/
def readValue : Nat → List Char → JsonValue × List Char
  | 0, cs => (.null, cs)
  | fuel + 1, cs =>
    match skipSpace cs with
    | '{' :: rest => readMembers fuel [] (skipSpace rest)
    | '[' :: rest => readItems fuel [] (skipSpace rest)
    | '"' :: rest =>
      let (s, rest) := readString rest.length [] rest
      (.string s, rest)
    | 't' :: rest => (.bool true, rest.drop 3)
    | 'f' :: rest => (.bool false, rest.drop 4)
    | 'n' :: rest => (.null, rest.drop 3)
    | cs =>
      let num := cs.takeWhile fun c => isDigit c || c == '-' || c == '+' || c == '.' || c == 'e' || c == 'E'
      (.number (String.ofList num), cs.drop num.length)
where
  /-- Reads the members of an object after its brace. -/
  readMembers : Nat → List (String × JsonValue) → List Char → JsonValue × List Char
    | 0, acc, cs => (.object acc.reverse, cs)
    | fuel + 1, acc, cs =>
      match skipSpace cs with
      | '}' :: rest => (.object acc.reverse, rest)
      | ',' :: rest => readMembers fuel acc rest
      | '"' :: rest =>
        let (k, rest) := readString rest.length [] rest
        let rest := (skipSpace rest).drop 1
        let (v, rest) := readValue fuel rest
        readMembers fuel ((k, v) :: acc) rest
      | rest => (.object acc.reverse, rest)
  /-- Reads the items of an array after its bracket. -/
  readItems : Nat → List JsonValue → List Char → JsonValue × List Char
    | 0, acc, cs => (.array acc.reverse, cs)
    | fuel + 1, acc, cs =>
      match skipSpace cs with
      | ']' :: rest => (.array acc.reverse, rest)
      | ',' :: rest => readItems fuel acc rest
      | rest =>
        let (v, rest) := readValue fuel rest
        readItems fuel (v :: acc) rest

/-- Reads a JSON text: its value, or the message of the first thing wrong with it. -/
def parse (text : String) : Except String JsonValue := do
  check text
  let cs := text.toList
  return (readValue (2 * cs.length + 2) cs).1

end Stencil.Json

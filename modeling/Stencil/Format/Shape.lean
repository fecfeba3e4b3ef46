/-!
# Shapes of documents

A configuration or cache document is read into a value of a known shape: text, a whole number,
a truth value, a length of time, a list, a table from names to values, or a record of named
fields. The shape decides how each part of the document is read, and names the type in the
messages of a reader that meets something else.

A value of a list shape may be absent, as a list that was never given or was given as null; so
may a table. A list also remembers the items past its end that its storage still holds, which a
later reading into the same list reuses as they are.
-/

namespace Stencil

/-- The shape of a value a document is read into. -/
inductive Shape where
  | text
  | integer
  | flag
  | duration
  | list (item : Shape)
  | table (item : Shape)
  | record (type : String) (fields : List (String × Shape))
deriving Inhabited

/-- A value read into a shape. -/
inductive Datum where
  | text (s : String)
  | integer (n : Int)
  | flag (b : Bool)
  | duration (nanoseconds : Int)
  | list (items : List Datum) (spare : List Datum)
  | table (entries : List (String × Datum))
  | record (fields : List (String × Datum))
  | absent
deriving Inhabited

namespace Shape

/-- The name of the type of a shape, as messages write it. -/
def typeName : Shape → String
  | .text => "string"
  | .integer => "int"
  | .flag => "bool"
  | .duration => "time.Duration"
  | .list s => "[]" ++ s.typeName
  | .table s => "map[string]" ++ s.typeName
  | .record t _ => t

/-- The value of a shape before anything is read into it. -/
def zero : Shape → Datum
  | .text => .text ""
  | .integer => .integer 0
  | .flag => .flag false
  | .duration => .duration 0
  | .list _ => .absent
  | .table _ => .absent
  | .record _ fs => .record (zeroFields fs)
where
  /-- The fields of a record before anything is read into them. -/
  zeroFields : List (String × Shape) → List (String × Datum)
    | [] => []
    | (n, s) :: fs => (n, zero s) :: zeroFields fs

end Shape

namespace Datum

/-- The field of a record value with a name. -/
def field (d : Datum) (name : String) : Datum :=
  match d with
  | .record fs => (fs.lookup name).getD .absent
  | _ => .absent

/-- The text of a value, empty unless it is text. -/
def asText : Datum → String
  | .text s => s
  | _ => ""

/-- The whole number of a value, zero unless it is one. -/
def asInt : Datum → Int
  | .integer n => n
  | .duration n => n
  | _ => 0

/-- The truth value of a value, false unless it is one. -/
def asFlag : Datum → Bool
  | .flag b => b
  | _ => false

/-- The items of a list value; none for an absent one. -/
def asList : Datum → List Datum
  | .list items _ => items
  | _ => []

/-- The entries of a table value; none for an absent one. -/
def asTable : Datum → List (String × Datum)
  | .table es => es
  | _ => []

/-- Sets the entry of a name in a table's entries, in place if it is there, else at the end. -/
def setEntry (es : List (String × Datum)) (k : String) (v : Datum) : List (String × Datum) :=
  if es.any (·.1 == k) then es.map fun (k', v') => if k' == k then (k', v) else (k', v')
  else es ++ [(k, v)]

/-- Sets a field of a record value. -/
def setField (d : Datum) (name : String) (v : Datum) : Datum :=
  match d with
  | .record fs => .record (fs.map fun (k, w) => if k == name then (k, v) else (k, w))
  | other => other

end Datum

end Stencil

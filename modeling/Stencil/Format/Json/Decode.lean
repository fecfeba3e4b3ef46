import Stencil.Format.Json.Read
import Stencil.Format.Shape
/-!
# Reading a JSON value into a shape

A JSON value is read into a value of a shape, starting from a given value. An object fills a
record field by field, a key naming a field exactly or else up to case, other keys passed over;
it fills a table entry by entry, each entry read afresh. An array fills a list from its front:
the list keeps its storage, so an item is read into whatever that storage held there before, and
the storage grows as an array that is appended to grows. A string fills a text field. `null`
leaves a field as it was and makes a list or table absent.

A part that does not fit its shape is passed over; the first such part is reported, with the
kind of JSON value, the path to it from the top and the type it could not be read into.
-/

namespace Stencil.Json

/-- A step on the path from the top of a value: a field of a record, an item of a list, or an
entry of a table. -/
inductive Step where
  | field (name : String)
  | item (index : Nat)
  | entry (key : String)

/-- The text of a step in a path. -/
def Step.text : Step → String
  | .field n => n
  | .item i => toString i
  | .entry k => k

/-- The kind of a JSON value, as messages name it. -/
def kindOf : JsonValue → String
  | .null => "null"
  | .bool _ => "bool"
  | .number _ => "number"
  | .string _ => "string"
  | .array _ => "array"
  | .object _ => "object"

/-- The message for a value that does not fit a shape, at a path below a root type. The path is
written after the root type's name; it is named a struct field when it ends in a field. -/
def mismatch (root : String) (path : List Step) (v : JsonValue) (shape : Shape) : String :=
  let rootName := ((root.splitOn ".").getLast?).getD root
  let at_ := ".".intercalate (path.map Step.text)
  match path.getLast? with
  | none => "json: cannot unmarshal " ++ kindOf v ++ " into Go value of type " ++ shape.typeName
  | some (.field _) =>
    "json: cannot unmarshal " ++ kindOf v ++ " into Go struct field " ++ rootName ++ "." ++ at_ ++
      " of type " ++ shape.typeName
  | some _ =>
    "json: cannot unmarshal " ++ kindOf v ++ " into " ++ rootName ++ "." ++ at_ ++ " of type " ++
      shape.typeName

/-- A letter folded for matching keys to field names: ASCII letters to upper case, and the few
other letters whose case pairs include an ASCII letter (the Kelvin sign, the long s, the dotted
and dotless i) to that letter. -/
def foldChar (c : Char) : Char :=
  if 'a' ≤ c && c ≤ 'z' then Char.ofNat (c.toNat - 32)
  else if c.toNat == 0x212A then 'K'
  else if c.toNat == 0x17F then 'S'
  else if c.toNat == 0x130 || c.toNat == 0x131 then 'I'
  else c

/-- Whether two names are equal up to case. -/
def sameFolded (a b : String) : Bool :=
  a.toList.map foldChar == b.toList.map foldChar

/-- The field of a record a key names: the one named exactly, else one named up to case. -/
def fieldFor (fields : List (String × Shape)) (key : String) : Option (String × Shape) :=
  match fields.find? (·.1 == key) with
  | some f => some f
  | none => fields.find? fun f => sameFolded f.1 key

/-- The bytes a value of a shape takes in storage, which decides how far a list's storage
grows. -/
def byteSize : Shape → Nat
  | .text => 16
  | .integer => 8
  | .flag => 1
  | .duration => 8
  | .list _ => 24
  | .table _ => 8
  | .record _ fs => 16 * fs.length

/-- The sizes of small storage blocks. -/
def blockSizes : List Nat :=
  [8, 16, 24, 32, 48, 64, 80, 96, 112, 128, 144, 160, 176, 192, 208, 224, 240, 256, 288, 320,
   352, 384, 416, 448, 480, 512, 576, 640, 704, 768, 896, 1024, 1152, 1280, 1408, 1536, 1792,
   2048, 2304, 2688, 3072, 3200, 3456, 4096, 4864, 5376, 6144, 6528, 6784, 6912, 8192, 9472,
   9728, 10240, 10880, 12288, 13568, 14336, 16384, 18432, 19072, 20480, 21760, 24576, 27264,
   28672, 32768]

/-- The size of the block that holds a number of bytes: the least small block that fits, or
whole pages of 8192 bytes beyond them. -/
def blockFor (bytes : Nat) : Nat :=
  match blockSizes.find? (bytes ≤ ·) with
  | some b => b
  | none => (bytes + 8191) / 8192 * 8192

/-- The capacity a full list of capacity `old` grows to when one more item is needed: double
while small, then by a quarter plus 192, rounded up to fill its storage block. -/
def grownCapacity (old size : Nat) : Nat :=
  let needed := old + 1
  let cap :=
    if needed > 2 * old then needed
    else if old < 256 then 2 * old
    else (List.range 64).foldl (fun c _ => if c ≥ needed then c else c + (c + 768) / 4) old
  if size == 0 then cap else blockFor (cap * size) / size

/-- Reads a value into a shape at a path below the root type, starting from a value; keeps the
first mismatch met. -/
def readInto (root : String) : Nat → List Step → JsonValue → Shape → Datum →
    StateM (Option String) Datum
  | 0, _, _, _, cur => pure cur
  | fuel + 1, path, v, shape, cur => do
    let refuse : StateM (Option String) Datum := do
      modify fun e => e.orElse fun _ => some (mismatch root path v shape)
      pure cur
    match v, shape with
    | .null, .list _ => pure .absent
    | .null, .table _ => pure .absent
    | .null, _ => pure cur
    | .string s, .text => pure (.text s)
    | .array items, .list itemShape =>
      let (old, spare) := match cur with
        | .list old spare => (old, spare)
        | _ => ([], [])
      let mut store : Array Datum := (old ++ spare).toArray
      let mut i := 0
      for item in items do
        if i ≥ store.size then
          let grown := grownCapacity store.size (byteSize itemShape)
          store := store ++ (List.replicate (grown - store.size) itemShape.zero).toArray
        let d ← readInto root fuel (path ++ [.item i]) item itemShape (store.getD i itemShape.zero)
        store := store.set! i d
        i := i + 1
      if i == 0 then pure (.list [] [])
      else pure (.list (store.toList.take i) (store.toList.drop i))
    | .object members, .record _ fields =>
      let mut value := cur
      for (k, m) in members do
        match fieldFor fields k with
        | some (name, fieldShape) =>
          let d ← readInto root fuel (path ++ [.field k]) m fieldShape (value.field name)
          value := value.setField name d
        | none => pure ()
      pure value
    | .object members, .table itemShape =>
      let mut entries := cur.asTable
      for (k, m) in members do
        let d ← readInto root fuel (path ++ [.entry k]) m itemShape itemShape.zero
        entries := Datum.setEntry entries k d
      pure (.table entries)
    | _, _ => refuse

/-- The depth of a JSON value. -/
def depthOf (text : String) : Nat := text.length + 2

/-- Reads a JSON text into a shape, starting from a value: the value read, or the message of the
first thing wrong with the text or the first part that does not fit. -/
def decodeInto (text : String) (shape : Shape) (start : Datum) : Except String Datum := do
  let v ← parse text
  let root := match shape with
    | .record t _ => t
    | s => s.typeName
  let (value, err) := (readInto root (depthOf text) [] v shape start).run none
  match err with
  | some e => throw e
  | none => return value

end Stencil.Json

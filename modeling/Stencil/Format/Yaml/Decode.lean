import Stencil.Format.Yaml.Tree
import Stencil.Format.Yaml.Scalar
import Stencil.Format.Shape
import Stencil.Text.Duration
import Stencil.Text.Quote
/-!
# Reading a YAML document into a shape

The first document of a text is read into a value of a shape, starting from a given value. A
mapping fills a record field by field, matching keys to field names exactly and passing over
keys no field has; it fills a table entry by entry. A sequence becomes a new list of the items
that could be read. A scalar is read by its tag: any scalar but null is text for a text field;
a whole number field takes integers and floats cut to integers; a truth-value field also takes
`yes`, `on`, `no`, `off` and their capitalised forms when they were read as text; a
length-of-time field takes only text such as `1m30s`. Null leaves a field as it was, and makes a
list or table absent.

A part that does not fit its shape is left out and noted as `line N: cannot unmarshal !!tag
`value` into type`; a mapping that repeats a key is not read at all and notes each repetition.
Reading goes on past such notes, and they are reported together at the end. A tag that
disagrees with its text, an alias whose node contains that same alias, and a merge of
something other than mappings stop the reading at once.

A key `<<` merges the mappings it names into the mapping it stands in; keys written in the
mapping itself, or merged earlier, win.
-/

namespace Stencil.Yaml

/-- The state of a reading: the notes made so far, and while a merge is under way the keys it
has already set. -/
structure Reading where
  notes : Array String := #[]
  merged : Option (List String) := none

/-- Readings that stop with a message when something cannot be read at all. -/
abbrev ReadM := StateT Reading (Except String)

/-- A value shown in a note: whole when at most ten bytes long, else its first seven bytes
and `...`. -/
def clip (s : String) : String :=
  let bs := s.toUTF8.toList
  if bs.length > 10 then Text.decodeLossy (bs.take 7) ++ "..." else s

/-- The text of a scalar node; empty for a collection or an alias. -/
def Tree.value : Tree → String
  | .scalar v _ _ => v
  | _ => ""

/-- Notes that a node does not fit a shape. -/
def noteMismatch (n : Tree) (shape : Shape) : ReadM Unit :=
  let tag := n.tag
  let shown := if tag == "!!seq" || tag == "!!map" then "" else " `" ++ clip n.value ++ "`"
  modify fun r => { r with notes := r.notes.push ("line " ++ toString n.line ++
    ": cannot unmarshal " ++ tag ++ shown ++ " into " ++ shape.typeName) }

/-- Whether a key merges: the plain `<<`, or `<<` tagged `!!merge`. -/
def isMergeKey : Tree → Bool
  | .scalar v tag _ => v == "<<" && (tag == "" || tag == "!" || tag == "!!merge")
  | _ => false

/-- The notes for the keys of a mapping that repeat an earlier one: the same kind of node with
the same text. -/
def repeatedKeys (keys : List Tree) : List String :=
  go keys
where
  go : List Tree → List String
    | [] => []
    | k :: rest =>
      (rest.filter fun k' => k'.keyIdentity == k.keyIdentity).map (fun k' =>
        "line " ++ toString k'.line ++ ": mapping key " ++ Text.quote k'.value ++
          " already defined at line " ++ toString k.line) ++ go rest

/-- The texts that are truth values in a truth-value field when they were read as text. -/
def yesWords : List String := ["y", "Y", "yes", "Yes", "YES", "on", "On", "ON"]

/-- The texts that are false in a truth-value field when they were read as text. -/
def noWords : List String := ["n", "N", "no", "No", "NO", "off", "Off", "OFF"]

/-- Reads a scalar that is not null into a shape, given what it resolved to. -/
def scalarInto (n : Tree) (tag : String) (r : Resolved) (shape : Shape) (cur : Datum) :
    ReadM (Bool × Datum) := do
  let refuse : ReadM (Bool × Datum) := do
    noteMismatch n shape
    return (false, cur)
  match shape, r with
  | .text, .text s => return (true, .text (if tag == "!!binary" then s else n.value))
  | .text, _ => return (true, .text n.value)
  | .integer, .integer k => if isInt64Value k then return (true, .integer k) else refuse
  | .integer, .float x =>
    match x.toInt64 with
    | some k => return (true, .integer k)
    | none => refuse
  | .duration, .text s =>
    match Duration.parse s with
    | .ok d => return (true, .duration d)
    | .error _ => refuse
  | .flag, .flag b => return (true, .flag b)
  | .flag, .text s =>
    if yesWords.contains s then return (true, .flag true)
    else if noWords.contains s then return (true, .flag false)
    else refuse
  | _, _ => refuse

/-- Reads a null into a shape: a list or table becomes absent, anything else is left as it was. -/
def nullInto (shape : Shape) (cur : Datum) : Bool × Datum :=
  match shape with
  | .list _ | .table _ => (true, .absent)
  | _ => (false, cur)

/-- What a scalar node resolves to, after its tag: a quoted or `!!str` scalar is text, and
`!!binary` text is decoded. -/
def resolveNode (n : Tree) : ReadM (String × Resolved) := do
  let tag := n.tag
  if tag == "!!str" then return ("!!str", .text n.value)
  let (rtag, r) ← match resolveTagged tag n.value with
    | .ok x => pure x
    | .error e => throw e
  if rtag == "!!binary" then
    match decodeBase64 n.value with
    | some bs => return (rtag, .text (Text.decodeLossy bs))
    | none => throw "!!binary value contains invalid base64 data"
  return (rtag, r)

/-- The node an alias stands for, or the node itself. -/
def Document.target (doc : Document) : Tree → Tree
  | .alias _ id _ _ => doc.anchors.getD id default
  | n => n

/-- The tag of a node after following an alias. -/
def Document.shortTagOf (doc : Document) (n : Tree) : String := (doc.target n).tag

/-- The text a key stands for when read into a value of any type, if it is text. -/
def Document.keyText (doc : Document) (k : Tree) : ReadM (Option String) := do
  match doc.target k with
  | .scalar v tag l => do
    let (rtag, r) ← resolveNode (.scalar v tag l)
    match r with
    | .text s => return some s
    | .timestamp => return some v
    | _ => return (if rtag == "!!binary" then some v else none)
  | _ => return none

/-- The message of a merge of something other than mappings. -/
def mergeNeedsMaps : String := "map merge requires map or sequence of maps as the value"

/-- Reads a node into a shape, starting from a value; tells whether it fitted and gives the new
value. `seen` holds the aliases being followed, so that an alias met again inside its own node
stops the reading. -/
def Document.read (doc : Document) : Nat → List Nat → Tree → Shape → Datum → ReadM (Bool × Datum)
  | 0, _, _, _, cur => return (false, cur)
  | fuel + 1, seen, n, shape, cur => do
    match n with
    | .alias name id site _ =>
      if seen.contains site then throw ("anchor '" ++ name ++ "' value contains itself")
      doc.read fuel (site :: seen) (doc.anchors.getD id default) shape cur
    | .scalar _ _ _ =>
      let (rtag, r) ← resolveNode n
      match r with
      | .null => return nullInto shape cur
      | _ => scalarInto n rtag r shape cur
    | .sequence items _ _ =>
      match shape with
      | .list s =>
        let mut out : Array Datum := #[]
        for item in items do
          let (ok, d) ← doc.read fuel seen item s s.zero
          if ok then out := out.push d
        return (true, .list out.toList [])
      | _ =>
        noteMismatch n shape
        return (false, cur)
    | .mapping pairs _ _ =>
      let repeats := repeatedKeys (pairs.map (·.1))
      if !repeats.isEmpty then
        modify fun r => { r with notes := r.notes ++ repeats.toArray }
        return (false, cur)
      let saved := (← get).merged
      let (value, source) ← match shape with
        | .record type fields => do
          modify fun r => { r with merged := none }
          let mut marks := saved
          let mut value := cur
          let mut source : Option Tree := none
          let mut done : List String := []
          for (k, v) in pairs do
            if isMergeKey k then
              source := some v
              continue
            let (ok, key) ← doc.read fuel seen k .text (.text "")
            if !ok then continue
            let name := key.asText
            if let some m := marks then
              if m.contains name then continue
              marks := some (name :: m)
            match fields.lookup name with
            | some fieldShape =>
              if done.contains name then
                modify fun r => { r with notes := r.notes.push ("line " ++ toString k.line ++
                  ": field " ++ name ++ " already set in type " ++ type) }
                continue
              done := name :: done
              let (_, d) ← doc.read fuel seen v fieldShape (value.field name)
              value := value.setField name d
            | none => pure ()
          modify fun r => { r with merged := marks }
          pure (value, source)
        | .table itemShape => do
          modify fun r => { r with merged := none }
          let mut marks := saved
          let isNew := match cur with
            | .table _ => false
            | _ => true
          let mut entries := cur.asTable
          let mut source : Option Tree := none
          for (k, v) in pairs do
            if isMergeKey k then
              source := some v
              continue
            let (ok, key) ← doc.read fuel seen k .text (.text "")
            if !ok then continue
            let name := key.asText
            if let some m := marks then
              if m.contains name then continue
              marks := some (name :: m)
            let (good, d) ← doc.read fuel seen v itemShape itemShape.zero
            if good || (doc.shortTagOf v == "!!null" &&
                (isNew || !(entries.any (·.1 == name)))) then
              entries := Datum.setEntry entries name d
          modify fun r => { r with merged := marks }
          pure (Datum.table entries, source)
        | _ => do
          noteMismatch n shape
          return (false, cur)
      match source with
      | none => return (true, value)
      | some source =>
        -- the keys of this mapping, and those merged before, keep their values
        let outer := (← get).merged
        if outer.isNone then
          let mut keys : List String := []
          for (k, _) in pairs do
            if let some t ← doc.keyText k then keys := t :: keys
          modify fun r => { r with merged := some keys }
        let isMap (t : Tree) : Bool :=
          match doc.target t with
          | .mapping _ _ _ => true
          | _ => false
        let mut value := value
        match source with
        | .mapping _ _ _ =>
          value := (← doc.read fuel seen source shape value).2
        | .alias _ _ _ _ =>
          if !isMap source then throw mergeNeedsMaps
          value := (← doc.read fuel seen source shape value).2
        | .sequence items _ _ =>
          for item in items do
            match item with
            | .alias _ _ _ _ => if !isMap item then throw mergeNeedsMaps
            | .mapping _ _ _ => pure ()
            | _ => throw mergeNeedsMaps
            value := (← doc.read fuel seen item shape value).2
        | _ => throw mergeNeedsMaps
        modify fun r => { r with merged := outer }
        return (true, value)

/-- Reads the first document of a text into a shape, starting from a value: the value read, or
the message of what went wrong, prefixed `yaml: `. Notes about parts that did not fit make an
error listing them all. -/
def decodeInto (text : String) (shape : Shape) (start : Datum) : Except String Datum :=
  match parseDocument text with
  | .error e => .error e.message
  | .ok none => .ok start
  | .ok (some doc) =>
    let fuel := (doc.size + 2) * (doc.size + 2)
    match (doc.read fuel [] doc.root shape start).run {} with
    | .error e => .error ("yaml: " ++ e)
    | .ok ((_, value), r) =>
      if r.notes.isEmpty then .ok value
      else .error ("yaml: unmarshal errors:\n  " ++ "\n  ".intercalate r.notes.toList)

end Stencil.Yaml

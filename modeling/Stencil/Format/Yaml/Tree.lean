import Stencil.Format.Yaml.Scan
import Stencil.Format.Yaml.Resolve
/-!
# YAML documents as trees

Parsing the tokens of a YAML text into the tree of its first document. Block collections are
delimited by their start and end tokens, flow collections by their brackets; a mapping holds its
pairs in the order written. Every node carries its tag in short form (`!!str`, `!!int`, ...): the
tag written on it, or `!!str` for a quoted or block scalar, or what a plain scalar reads as, or
`!!seq` and `!!map` for collections. Every node remembers the line it starts on, counted from one,
for the messages of a reader.

An anchor names the node it stands on; an alias refers to the node its name was last given to,
by the number of that anchor, so a node may even refer to itself. Each alias also knows its own
place in the text, which tells two aliases of one anchor apart.

A text that does not parse gives the first problem met, reported as `yaml: line N: problem`,
where the line is that of the construct being read when it is known.
-/

namespace Stencil.Yaml

/-- A node of a parsed document, with its short tag and its line. -/
inductive Tree where
  | scalar (value : String) (tag : String) (line : Nat)
  | sequence (items : List Tree) (tag : String) (line : Nat)
  | mapping (pairs : List (Tree × Tree)) (tag : String) (line : Nat)
  | alias (name : String) (anchor : Nat) (site : Nat) (line : Nat)
deriving Inhabited

namespace Tree

/-- The line a node starts on. -/
def line : Tree → Nat
  | .scalar _ _ l | .sequence _ _ l | .mapping _ _ l | .alias _ _ _ l => l

/-- The tag of a node; an alias has none. -/
def tag : Tree → String
  | .scalar _ t _ | .sequence _ t _ | .mapping _ t _ => t
  | .alias _ _ _ _ => ""

/-- The kind of a node and its value, by which two keys count as the same: a scalar's text, an
alias's name, nothing for a collection. -/
def keyIdentity : Tree → Nat × String
  | .scalar v _ _ => (0, v)
  | .sequence _ _ _ => (1, "")
  | .mapping _ _ _ => (2, "")
  | .alias n _ _ _ => (3, n)

end Tree

/-- A parsed document: its root, the nodes its anchors name by anchor number, and the number of
tokens it was read from, which bounds its depth. -/
structure Document where
  root : Tree
  anchors : Array Tree
  size : Nat

/-- Why a text could not be read as YAML: a problem of the scanner or parser, or a failure of
the reader with its own message. -/
inductive ReadError where
  | problem (p : Problem)
  | failure (message : String)
deriving Inhabited

/-- The message of a read error. A problem names the line of its context if that is past the first
line, else that of the problem itself; lines are counted from one for the scanner's problems and
from zero for the parser's. -/
def ReadError.message : ReadError → String
  | .failure m => "yaml: " ++ m
  | .problem p =>
    let shift := if p.scanning then 1 else 0
    let line :=
      if p.contextMark.line != 0 then p.contextMark.line + shift
      else if p.problemMark.line != 0 then p.problemMark.line + shift
      else 0
    "yaml: " ++ (if line != 0 then "line " ++ toString line ++ ": " else "") ++ p.problem

/-- The long prefix of the standard tags. -/
def standardPrefix : String := "tag:yaml.org,2002:"

/-- A tag in short form: the standard prefix written `!!`. -/
def shortTag (t : String) : String :=
  if t.startsWith standardPrefix then "!!" ++ String.ofList (t.toList.drop standardPrefix.length)
  else t

/-- The tag a plain scalar reads as. -/
def plainTag (s : String) : String :=
  match plainKind s with
  | .null => "!!null"
  | .bool => "!!bool"
  | .int => "!!int"
  | .float => "!!float"
  | .timestamp => "!!timestamp"
  | .merge => "!!merge"
  | .str => if s == "<<" then "!!merge" else "!!str"

/-- The state of the parser: the tokens and the position among them, the anchors defined so far
(the latest first), the nodes they name, and the tag handles in force. -/
structure Parser where
  tokens : Tokens
  pos : Nat := 0
  anchors : List (String × Nat) := []
  named : Array Tree := #[]
  handles : List (String × String) := []

/-- The parser's computations. -/
abbrev ParseM := StateT Parser (Except ReadError)

/-- The token at the position. A problem of the scanner shows once the parser stands within
three tokens of it, or on a pending key just before it. -/
def peek : ParseM Token := do
  let s ← get
  match s.tokens.failure with
  | some (p, pending) =>
    if s.pos + 3 > s.tokens.tokens.size || pending.contains s.pos then throw (.problem p)
  | none => pure ()
  match s.tokens.tokens[s.pos]? with
  | some t => return t
  | none => return (s.tokens.tokens.back?.getD ⟨.streamEnd, {}, {}⟩)

/-- Moves past the token at the position. -/
def advance : ParseM Unit := modify fun s => { s with pos := s.pos + 1 }

/-- Stops with a problem of the parser. -/
def parseError {α : Type} (context : String) (contextMark : Mark) (problem : String)
    (problemMark : Mark) : ParseM α :=
  throw (.problem { context, contextMark, problem, problemMark })

/-- An empty plain scalar standing where a node was left out. -/
def emptyAt (m : Mark) : Tree := .scalar "" "!!null" (m.line + 1)

/-- The number of loop rounds any collection may take: one per token at most. -/
def rounds : ParseM Nat := do return (← get).tokens.tokens.size + 2

/-- Whether a token is one of the given kinds, by a test. -/
def isKind (t : Token) (p : TokenKind → Bool) : Bool := p t.kind

/-- Reads the items of a block sequence after its start token. -/
def blockSequence (node : Bool → Bool → ParseM Tree) (start : Mark) (tag : String) (line : Nat) :
    ParseM Tree := do
  let mut items : Array Tree := #[]
  let n ← rounds
  for _ in [0:n] do
    let t ← peek
    match t.kind with
    | .blockEntry =>
      let m := t.stop
      advance
      let t2 ← peek
      match t2.kind with
      | .blockEntry | .blockEnd => items := items.push (emptyAt m)
      | _ => items := items.push (← node true false)
    | .blockEnd =>
      advance
      break
    | _ => parseError "while parsing a block collection" start "did not find expected '-' indicator" t.start
  return .sequence items.toList tag line

/-- Reads the items of a sequence whose entries stand at the indentation of the mapping around it. -/
def indentlessSequence (node : Bool → Bool → ParseM Tree) (tag : String) (line : Nat) :
    ParseM Tree := do
  let mut items : Array Tree := #[]
  let n ← rounds
  for _ in [0:n] do
    let t ← peek
    match t.kind with
    | .blockEntry =>
      let m := t.stop
      advance
      let t2 ← peek
      match t2.kind with
      | .blockEntry | .key | .value | .blockEnd => items := items.push (emptyAt m)
      | _ => items := items.push (← node true false)
    | _ => break
  return .sequence items.toList tag line

/-- Reads the pairs of a block mapping after its start token. -/
def blockMapping (node : Bool → Bool → ParseM Tree) (start : Mark) (tag : String) (line : Nat) :
    ParseM Tree := do
  let mut pairs : Array (Tree × Tree) := #[]
  let n ← rounds
  for _ in [0:n] do
    let t ← peek
    match t.kind with
    | .key =>
      let m := t.stop
      advance
      let t2 ← peek
      let k ← match t2.kind with
        | .key | .value | .blockEnd => pure (emptyAt m)
        | _ => node true true
      let t3 ← peek
      let v ← match t3.kind with
        | .value =>
          let m3 := t3.stop
          advance
          let t4 ← peek
          match t4.kind with
          | .key | .value | .blockEnd => pure (emptyAt m3)
          | _ => node true true
        | _ => pure (emptyAt t3.start)
      pairs := pairs.push (k, v)
    | .blockEnd =>
      advance
      break
    | _ => parseError "while parsing a block mapping" start "did not find expected key" t.start
  return .mapping pairs.toList tag line

/-- Reads the entries of a flow sequence after its `[`; a `key: value` entry is a mapping of one
pair. -/
def flowSequence (node : Bool → Bool → ParseM Tree) (start : Mark) (tag : String) (line : Nat) :
    ParseM Tree := do
  let mut items : Array Tree := #[]
  let mut first := true
  let n ← rounds
  for _ in [0:n] do
    let mut t ← peek
    match t.kind with
    | .flowSequenceEnd =>
      advance
      break
    | _ => pure ()
    if !first then
      match t.kind with
      | .flowEntry =>
        advance
        t ← peek
      | _ => parseError "while parsing a flow sequence" start "did not find expected ',' or ']'" t.start
    first := false
    match t.kind with
    | .key =>
      let pairLine := t.start.line + 1
      advance
      let t2 ← peek
      let k ← match t2.kind with
        | .value | .flowEntry | .flowSequenceEnd => pure (emptyAt t2.stop)
        | _ => node false false
      let t3 ← peek
      let v ← match t3.kind with
        | .value =>
          advance
          let t4 ← peek
          match t4.kind with
          | .flowEntry | .flowSequenceEnd => pure (emptyAt t3.start)
          | _ => node false false
        | _ => pure (emptyAt t3.start)
      items := items.push (.mapping [(k, v)] "!!map" pairLine)
    | .flowSequenceEnd => pure ()
    | _ => items := items.push (← node false false)
  return .sequence items.toList tag line

/-- Reads the pairs of a flow mapping after its `{`; an entry without `:` has an empty value. -/
def flowMapping (node : Bool → Bool → ParseM Tree) (start : Mark) (tag : String) (line : Nat) :
    ParseM Tree := do
  let mut pairs : Array (Tree × Tree) := #[]
  let mut first := true
  let n ← rounds
  for _ in [0:n] do
    let mut t ← peek
    match t.kind with
    | .flowMappingEnd =>
      advance
      break
    | _ => pure ()
    if !first then
      match t.kind with
      | .flowEntry =>
        advance
        t ← peek
      | _ => parseError "while parsing a flow mapping" start "did not find expected ',' or '\x7d'" t.start
    first := false
    match t.kind with
    | .key =>
      advance
      let t2 ← peek
      let k ← match t2.kind with
        | .value | .flowEntry | .flowMappingEnd => pure (emptyAt t2.start)
        | _ => node false false
      let t3 ← peek
      let v ← match t3.kind with
        | .value =>
          advance
          let t4 ← peek
          match t4.kind with
          | .flowEntry | .flowMappingEnd => pure (emptyAt t4.start)
          | _ => node false false
        | _ => pure (emptyAt t3.start)
      pairs := pairs.push (k, v)
    | .flowMappingEnd => pure ()
    | _ =>
      let k ← node false false
      let t2 ← peek
      pairs := pairs.push (k, emptyAt t2.start)
  return .mapping pairs.toList tag line

/-- Reads a node: an alias, or a scalar or collection with an optional anchor and tag. `block`
allows block collections; `indentless` allows a sequence at the indentation of its mapping. -/
def node : Nat → Bool → Bool → ParseM Tree
  | 0, _, _ => throw (.failure "document is nested too deeply")
  | fuel + 1, block, indentless => do
    let first ← peek
    match first.kind with
    | .alias name =>
      let site := (← get).pos
      advance
      match (← get).anchors.lookup name with
      | some id => return .alias name id site (first.start.line + 1)
      | none => throw (.failure ("unknown anchor '" ++ name ++ "' referenced"))
    | _ => pure ()
    let start := first.start
    let mut t := first
    let mut anchor : Option String := none
    let mut tagged : Option (String × String × Mark) := none
    match t.kind with
    | .anchor name =>
      anchor := some name
      advance
      t ← peek
      match t.kind with
      | .tag h s =>
        tagged := some (h, s, t.start)
        advance
        t ← peek
      | _ => pure ()
    | .tag h s =>
      tagged := some (h, s, t.start)
      advance
      t ← peek
      match t.kind with
      | .anchor name =>
        anchor := some name
        advance
        t ← peek
      | _ => pure ()
    | _ => pure ()
    let tag ← match tagged with
      | none => pure ""
      | some (h, s, m) =>
        if h.isEmpty then pure s
        else match (← get).handles.lookup h with
          | some pre => pure (pre ++ s)
          | none => parseError "while parsing a node" start "found undefined tag handle" m
    let explicit := tag != "" && tag != "!"
    let line := start.line + 1
    let id := (← get).named.size
    if let some name := anchor then
      modify fun s => { s with anchors := (name, id) :: s.anchors, named := s.named.push default }
    let sub := node fuel
    let collTag (dflt : String) := if explicit then shortTag tag else dflt
    let missing : ParseM Tree :=
      parseError (if block then "while parsing a block node" else "while parsing a flow node") start
        "did not find expected node content" t.start
    let tree ← match t.kind with
      | .blockEntry =>
        if indentless then indentlessSequence sub (collTag "!!seq") line
        else if anchor.isSome || tagged.isSome then pure (.scalar "" (collTag "!!null") line)
        else missing
      | .scalar text style =>
        advance
        let tg := if explicit then shortTag tag
          else if style != .plain then "!!str" else plainTag text
        pure (.scalar text tg line)
      | .flowSequenceStart =>
        advance
        flowSequence sub t.start (collTag "!!seq") line
      | .flowMappingStart =>
        advance
        flowMapping sub t.start (collTag "!!map") line
      | .blockSequenceStart =>
        if block then
          advance
          blockSequence sub t.start (collTag "!!seq") line
        else if anchor.isSome || tagged.isSome then
          pure (.scalar "" (if explicit then shortTag tag else "!!null") line)
        else missing
      | .blockMappingStart =>
        if block then
          advance
          blockMapping sub t.start (collTag "!!map") line
        else if anchor.isSome || tagged.isSome then
          pure (.scalar "" (if explicit then shortTag tag else "!!null") line)
        else missing
      | _ =>
        if anchor.isSome || tagged.isSome then
          pure (.scalar "" (if explicit then shortTag tag else "!!null") line)
        else missing
    if anchor.isSome then
      modify fun s => { s with named := s.named.set! id tree }
    return tree

/-- The tag handles every document knows. -/
def defaultHandles : List (String × String) := [("!", "!"), ("!!", standardPrefix)]

/-- Reads the directives before a document and sets the tag handles. -/
def directives : ParseM Unit := do
  let mut handles : List (String × String) := []
  let mut version := false
  let n ← rounds
  for _ in [0:n] do
    let t ← peek
    match t.kind with
    | .versionDirective major minor =>
      if version then parseError "" {} "found duplicate %YAML directive" t.start
      if major != 1 || minor != 1 then
        parseError "" {} "found incompatible YAML document" t.start
      version := true
      advance
    | .tagDirective h p =>
      if (handles.lookup h).isSome then parseError "" {} "found duplicate %TAG directive" t.start
      handles := handles ++ [(h, p)]
      advance
    | _ => break
  let extra := defaultHandles.filter fun (h, _) => (handles.lookup h).isNone
  modify fun s => { s with handles := handles ++ extra }

/-- Reads the first document of the tokens; `none` for a stream without one. -/
def firstDocument : ParseM (Option Tree) := do
  let _ ← peek
  advance
  let t ← peek
  let fuel := (← get).tokens.tokens.size + 2
  let root ← match t.kind with
    | .streamEnd => pure none
    | .versionDirective _ _ | .tagDirective _ _ | .documentStart =>
      directives
      let t ← peek
      match t.kind with
      | .documentStart => pure ()
      | _ => parseError "" {} "did not find expected <document start>" t.start
      advance
      let t ← peek
      match t.kind with
      | .versionDirective _ _ | .tagDirective _ _ | .documentStart | .documentEnd | .streamEnd =>
        pure (some (emptyAt t.start))
      | _ => some <$> node fuel true false
    | _ =>
      directives
      some <$> node fuel true false
  if root.isSome then
    let t ← peek
    match t.kind with
    | .documentEnd => advance
    | _ => pure ()
  return root

/-- Parses the first document of a text. -/
def parseDocument (text : String) : Except ReadError (Option Document) :=
  match firstDocument.run { tokens := scan text } with
  | .ok (root, s) => .ok (root.map fun r => { root := r, anchors := s.named, size := s.tokens.tokens.size })
  | .error e => .error e

end Stencil.Yaml

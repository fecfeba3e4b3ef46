import Stencil.Cli.Complete
import Stencil.Project
import Stencil.Text.Blank
import Stencil.Terminal.Color
import Stencil.Log.Handler
/-!
# Running the program

A command line is resolved to help, the version, a usage error, or a command to run with its
flags and arguments. Before a command runs, the log form is chosen (`auto` is the structured form,
since the log does not go to a terminal) and tracing is turned on if asked for; a log form the
program does not know stops the run. Each command then works on the project and prints its result:
pages end with a line break, compiled views are listed with a check mark, and a view's relations
are listed under headings.
-/

namespace Stencil.Cli

/-- What a command line asks for. -/
inductive Request where
  | showHelp (c : Command)
  | showVersion
  | failure (msg : String)
  | run (c : Command) (flags : FlagValues) (args : List String)

/-- The failure of arguments a command does not accept, if any. -/
def Program.checkArgs (p : Program) (c : Command) (args : List String) : Option String :=
  match c.args, args with
  | .exactly n, _ =>
    if args.length == n then none
    else some ("accepts " ++ toString n ++ " arg(s), received " ++ toString args.length)
  | .nothing, w :: _ => some (p.unknownCommand c w false)
  | _, _ => none

/-- Resolves a command line. -/
def Program.resolve (p : Program) (args : List String) : Request :=
  let (c, rest, err) := p.find args
  match err with
  | some e => .failure e
  | none =>
    match readFlags (p.runFlags c) rest with
    | .error e => .failure e
    | .ok (vs, words) =>
      if vs.switch "help" then .showHelp c
      else if c.path.isEmpty && vs.switch "version" then .showVersion
      else if !c.runnable then .showHelp c
      else match p.checkArgs c words with
        | some e => .failure e
        | none => .run c vs words

/-- Tag values from `key=value` texts: the key is trimmed and must not be empty, and a later value
of a key wins. -/
def parseTags (pairs : List String) : Except Fault (NameMap String) :=
  pairs.foldlM (fun tags pair =>
    match pair.splitOn "=" with
    | k :: v :: more =>
      let key := Text.trimBlank k
      if key.isEmpty then .error (bad pair)
      else .ok (tags.insert key ("=".intercalate (v :: more)))
    | _ => .error (bad pair)) NameMap.empty
where
  bad (pair : String) : Fault :=
    ((Fault.condition .invalidTag).wrap "cannot parse tag").about "tag" pair

/-- A page as printed: with a line break at the end. -/
def page (s : String) : String :=
  if s.endsWith "\n" then s else s ++ "\n"

/-- How printed text is styled: the colours it may show. -/
structure Styles where
  palette : Terminal.Palette := .plain

/-- A check mark in the colour of success. -/
def Styles.check (st : Styles) : String := st.palette.paint false Terminal.green "✓"

/-- Muted text. -/
def Styles.muted (st : Styles) (s : String) : String := st.palette.paint false Terminal.slate s

/-- A title: bold, in the accent colour. -/
def Styles.title (st : Styles) (s : String) : String := st.palette.paint true Terminal.iris s

/-- The lines describing how a view relates to the others. -/
def describe (st : Styles) (d : Dependencies) : String :=
  let part (title : String) (names : List String) : String :=
    "  " ++ st.muted title ++ "\n" ++
      (if names.isEmpty then "    ○ none\n" else String.join (names.map fun n => "    → " ++ n ++ "\n"))
  st.title d.view ++ "\n" ++ part "includes" d.includes ++ part "included by" d.includedBy ++
    part "rebuilds" d.cascade

/-- How a run of the program ended: what it printed to its output and error streams, the fault
it returned, and whether the log was set to the structured form. -/
structure Outcome where
  stdout : String := ""
  stderr : String := ""
  fault : Option Fault := none
  structured : Bool := false

/-- The log of a run as written, in the form the run chose: the lines logged, then the fault the
run returned, each logged at `time`. -/
def Outcome.logText (o : Outcome) (lines : List LogLine) (painted : Bool) (time : String) : String :=
  let lg : Logger := { structured := o.structured }
  String.join ((lines ++ (o.fault.map LogLine.error).toList).map (lg.write painted time))

/-- The exit status of a run: failure when it returned a fault. -/
def Outcome.exitCode (o : Outcome) : Nat := if o.fault.isSome then 1 else 0

/-- A list of texts in brackets, each between backquotes. -/
def backquotedList (xs : List String) : String :=
  "[" ++ " ".intercalate (xs.map fun x => "`" ++ x ++ "`") ++ "]"

/-- What one of the program's own commands does on a project; `separate` tells whether the
program's error stream is apart from its output. -/
def runCommand (p : Program) (st : Styles) (proj : Project) (separate : Bool) (c : Command)
    (vs : FlagValues) (args : List String) : HostM Outcome := do
  let first := args.headD ""
  match c.path with
  | ["compile"] =>
    let (views, fault) ← proj.compile args (vs.switch "fresh")
    let listed := String.join (views.map fun v => st.check ++ " " ++ v.name ++ "\n")
    match fault with
    | some f => return { stdout := listed, fault := some f }
    | none =>
      return { stdout := listed ++ st.muted ("compiled " ++ toString views.length ++ " views") ++ "\n" }
  | ["render"] =>
    match parseTags (vs.texts "tag") with
    | .error f => return { fault := some f }
    | .ok tags =>
      match ← proj.render first tags with
      | (_, some f) => return { fault := some f }
      | (out, none) => return { stdout := page out }
  | ["dispatch"] =>
    match parseTags (vs.texts "tag") with
    | .error f => return { fault := some f }
    | .ok tags =>
      match ← proj.dispatch first tags with
      | (_, some f) => return { fault := some f }
      | (out, none) => return { stdout := page out }
  | ["cache", "show"] =>
    match ← proj.showCache with
    | (_, some f) => return { fault := some f }
    | (out, none) => return { stdout := page out }
  | ["cache", "clear"] =>
    match ← proj.clearCache with
    | (_, some f) => return { fault := some f }
    | (loc, none) => return { stdout := st.check ++ " removed " ++ loc ++ "\n" }
  | ["deps"] =>
    match ← proj.dependencies first with
    | (some d, none) => return { stdout := describe st d }
    | (_, some f) => return { fault := some f }
    | (none, none) => return {}
  | ["version"] => return { stdout := p.versionText }
  | ["completion", shell] =>
    return { stdout := shellScript shell p.rootName !(vs.switch "no-descriptions") }
  | ["watch"] => return { fault := (← proj.watch (vs.switch "dashboard")).2 }
  | ["help"] =>
    let (found, _, err) := p.find args
    match err with
    | none => return { stdout := p.help found }
    | some _ =>
      let text := "Unknown help topic " ++ backquotedList args ++ "\n" ++ p.usage p.root
      return if separate then { stderr := text } else { stdout := text }
  | _ => return {}

/-- Runs a command line of the program on a project. `traceable` tells whether asking for traces
takes effect; the directory flag is read relative to `base`. -/
def run (p : Program) (st : Styles) (proj : Project) (base : String) (separate traceable : Bool)
    (args : List String) : HostM Outcome := do
  match p.completionRequest args with
  | some (_, []) => return { fault := some (.foreign "requires at least 1 arg(s), only received 0") }
  | some (descriptions, words) =>
    let (out, err) := (p.complete words).render descriptions
    return { stdout := out, stderr := err }
  | none =>
      match p.resolve args with
      | .showHelp c => return { stdout := p.help c }
      | .showVersion => return { stdout := p.versionText }
      | .failure msg => return { fault := some (.foreign msg) }
      | .run c vs words =>
        let form := vs.text "log-format" "auto"
        let structured ← match form with
          | "auto" | "json" => pure (some true)
          | "pretty" => pure (some false)
          | _ => pure none
        match structured with
        | none =>
          return { fault := some ((Fault.plain "invalid log format, expected 'auto', 'pretty' or 'json'").about
            "log_format" form) }
        | some structured =>
          if vs.switch "trace" && traceable then modify fun h => { h with tracing := true }
          let dir := vs.text "dir"
          let proj := if dir.isEmpty then proj
            else { proj with workDir := if Path.isAbs dir then Path.clean dir else Path.append base dir }
          let o ← runCommand p st proj separate c vs words
          return { o with structured }

end Stencil.Cli

import Stencil.Cli.Flags
import Stencil.Unicode.Lower
/-!
# Commands

A program's commands form a tree, kept as a list of commands each named by its path of words
below the root, in the order they were added. A command line is resolved in two steps.

*Finding* walks down the tree: at each command the words of the line that are not flags or flag
values are looked at, and the first of them that names a child moves the walk into that child,
with that word taken out of the line. Only the flags known at that point count: the command's
own, those it inherits, and at the root the help and version switches. An unknown flag is taken
to have a value.

*Executing* reads the flags of the command found, including the help switch every command has,
and decides among help, the version, a usage error, or a run with the arguments left.

A command's help is its long or short description followed by its usage: how to call it, its
subcommands, its own flags, the flags it inherits, and a pointer to the help of subcommands.
-/

namespace Stencil.Cli

/-- What a command accepts as arguments besides its flags. -/
inductive ArgRule where
  /-- Anything, except that the root takes no word that is not a subcommand. -/
  | loose
  /-- Exactly that many. -/
  | exactly (n : Nat)
  /-- None at all. -/
  | nothing
deriving DecidableEq, Repr

/-- What a command offers when a shell completes one of its arguments. -/
inductive ArgChoices where
  /-- No choices of its own: the shell may complete file names. -/
  | files
  /-- No choices, and no file names either. -/
  | nothing
  /-- The subcommands of the command its arguments name, as the help command offers. -/
  | commands
deriving DecidableEq, Repr

/-- A command: its path below the root, how it is called, its descriptions, what arguments it
accepts, whether it runs (a command that does not shows its help), its own flags and the flags it
passes down. -/
structure Command where
  path : List String
  use : String
  short : String
  long : String := ""
  args : ArgRule := .loose
  runnable : Bool := true
  flags : List Flag := []
  persistent : List Flag := []
  /-- Whether the usage line leaves out the flags marker. -/
  bareUse : Bool := false
  /-- What the command offers to complete its arguments. -/
  choices : ArgChoices := .files
deriving Repr

/-- A program: its commands, the root first, and the version it reports. -/
structure Program where
  commands : List Command
  version : String

namespace Program

/-- The root command. -/
def root (p : Program) : Command :=
  p.commands.headD { path := [], use := "", short := "" }

/-- The name of the root: the first word of its use line. -/
def rootName (p : Program) : String :=
  (p.root.use.splitOn " ").headD ""

/-- The name of a command: the last word of its path, or the root's name. -/
def nameOf (p : Program) (c : Command) : String :=
  c.path.getLastD p.rootName

/-- The words that call a command, from the root. -/
def commandPath (p : Program) (c : Command) : String :=
  " ".intercalate (p.rootName :: c.path)

/-- The children of a command, in the order they were added. -/
def children (p : Program) (c : Command) : List Command :=
  p.commands.filter fun d => d.path.length == c.path.length + 1 && d.path.take c.path.length == c.path

/-- The commands above a command, nearest last. -/
def ancestors (p : Program) (c : Command) : List Command :=
  (List.range c.path.length).filterMap fun k =>
    p.commands.find? (·.path == c.path.take k)

/-- The flags a command inherits from the commands above it. -/
def inherited (p : Program) (c : Command) : List Flag :=
  (p.ancestors c).flatMap (·.persistent)

/-- The help switch of a command. -/
def helpFlag (p : Program) (c : Command) : Flag :=
  { name := "help", short := some 'h', kind := .switch,
    usage := if c.path.isEmpty then "Show help for command" else "help for " ++ p.nameOf c }

/-- The version switch, which only the root has. -/
def versionFlag : Flag :=
  { name := "version", short := some 'v', kind := .switch, usage := "Print the application version" }

/-- The flags a command has of its own when it runs: its flags, its help switch, at the root the
version switch, and the flags it passes down. -/
def localFlags (p : Program) (c : Command) : List Flag :=
  c.flags ++ [p.helpFlag c] ++ (if c.path.isEmpty then [versionFlag] else []) ++ c.persistent

/-- Every flag a command reads when it runs. -/
def runFlags (p : Program) (c : Command) : List Flag :=
  p.localFlags c ++ p.inherited c

/-- The flags known while finding: those of the command and above, with the help and version
switches only at the root. -/
def findFlags (p : Program) (c : Command) : List Flag :=
  if c.path.isEmpty then p.localFlags c
  else c.flags ++ c.persistent ++ p.inherited c

end Program

/-- Whether a flag argument `--name` without `=` consumes the next argument: it does unless it is
a known switch. -/
def longTakesValue (fs : List Flag) (name : String) : Bool :=
  match findLong fs name with
  | some f => f.kind != .switch
  | none => true

/-- Whether a flag argument `-x` consumes the next argument. -/
def shortTakesValue (fs : List Flag) (c : Char) : Bool :=
  match findShort fs c with
  | some f => f.kind != .switch
  | none => true

/-- Whether an argument is a flag that takes the next argument as its value. A shorthand counts
only when the argument is two bytes long, so a dash and a character beyond ASCII takes nothing. -/
def takesNext (fs : List Flag) (s : String) : Bool :=
  let cs := s.toList
  if cs.contains '=' then false
  else match cs with
    | '-' :: '-' :: name => longTakesValue fs (String.ofList name)
    | ['-', c] => c.toNat < 0x80 && shortTakesValue fs c
    | _ => false

/-- The words of a command line that are neither flags nor flag values. A flag that takes a value
as the last or next-to-last argument ends the scan. -/
def stripFlags (fs : List Flag) (args : List String) : List String :=
  go args.length args []
where
  go : Nat → List String → List String → List String
    | 0, _, acc => acc
    | _, [], acc => acc
    | fuel + 1, s :: rest, acc =>
      if s == "--" then acc
      else if s.startsWith "--" && takesNext fs s then
        if rest.length ≤ 1 then acc else go fuel (rest.drop 1) acc
      else if s.startsWith "-" && takesNext fs s then
        if rest.length ≤ 1 then acc else go fuel (rest.drop 1) acc
      else if s != "" && !s.startsWith "-" then go fuel rest (acc ++ [s])
      else go fuel rest acc

/-- A command line without the first occurrence of the word `x` that is not a flag value. -/
def dropWord (fs : List Flag) (args : List String) (x : String) : List String :=
  go args.length [] args
where
  go : Nat → List String → List String → List String
    | 0, seen, rest => seen ++ rest
    | _, seen, [] => seen
    | fuel + 1, seen, s :: rest =>
      if s == "--" then seen ++ s :: rest
      else if s.startsWith "-" && takesNext fs s then
        match rest with
        | v :: more => go fuel (seen ++ [s, v]) more
        | [] => seen ++ [s]
      else if !s.startsWith "-" && s == x then seen ++ rest
      else go fuel (seen ++ [s]) rest

/-- The edit distance between the bytes of two texts in lower case: a character of several bytes
counts as that many. -/
def editDistance (s t : String) : Nat :=
  let a := (Unicode.lowerText s).toUTF8.toList
  let b := (Unicode.lowerText t).toUTF8.toList
  -- one row of the table per character of `b`
  let first := List.range (a.length + 1)
  let last := (b.zip (List.range b.length)).foldl (fun (row : List Nat) (cb, j) =>
    let init := [j + 1]
    let next := (a.zip (List.range a.length)).foldl (fun (acc : List Nat) (ca, i) =>
      let left := acc.getLastD 0
      let up := row.getD (i + 1) 0
      let diag := row.getD i 0
      acc ++ [if ca == cb then diag else (min (min up left) diag) + 1]) init
    next) first
  last.getLastD 0

namespace Program

/-- Whether a command shows among the available ones: it runs or has subcommands that do; the
help command never counts. -/
def available (p : Program) (c : Command) : Bool :=
  p.nameOf c != "help" && (c.runnable || (p.children c).any fun d => d.runnable)

/-- The subcommand names offered for a mistyped word: those within two edits, or that start with
it, ignoring case. -/
def suggestions (p : Program) (c : Command) (typed : String) : List String :=
  ((p.children c).filter (p.available ·)).filterMap fun d =>
    let n := p.nameOf d
    if editDistance typed n ≤ 2 || (Unicode.lowerText n).startsWith (Unicode.lowerText typed) then some n
    else none

/-- The message of a word that names no subcommand. -/
def unknownCommand (p : Program) (c : Command) (word : String) (suggest : Bool) : String :=
  let offered := if suggest then p.suggestions c word else []
  "unknown command " ++ Text.quote word ++ " for " ++ Text.quote (p.commandPath c) ++
    (if offered.isEmpty then ""
     else "\n\nDid you mean this?\n" ++ String.join (offered.map fun s => "\t" ++ s ++ "\n"))

/-- Finds the command a line calls and the line left for it; the error of a root given a word
that is not a subcommand. -/
def find (p : Program) (args : List String) : Command × List String × Option String :=
  let (c, rest) := walk p.commands.length p.root args
  let words := stripFlags (p.findFlags c) rest
  let err := match c.args, words with
    | .loose, w :: _ =>
      if c.path.isEmpty && !(p.children c).isEmpty then some (p.unknownCommand c w true) else none
    | _, _ => none
  (c, rest, err)
where
  walk : Nat → Command → List String → Command × List String
    | 0, c, args => (c, args)
    | fuel + 1, c, args =>
      match stripFlags (p.findFlags c) args with
      | [] => (c, args)
      | w :: _ =>
        match (p.children c).find? (p.nameOf · == w) with
        | some d => walk fuel d (dropWord (p.findFlags c) args w)
        | none => (c, args)

/-- The usage line of a runnable command: the path above it, its use, and the flags marker. -/
def useLine (p : Program) (c : Command) : String :=
  let above := if c.path.isEmpty then "" else " ".intercalate (p.rootName :: c.path.dropLast) ++ " "
  let line := above ++ c.use
  if c.bareUse || (line.splitOn "[flags]").length > 1 then line else line ++ " [flags]"

/-- Text padded with spaces to a width. -/
def padRight (s : String) (w : Nat) : String :=
  s ++ String.ofList (List.replicate (w - s.length) ' ')

/-- The name shown for the value of a flag in its usage line. -/
def valueName : FlagKind → String
  | .text => "string"
  | .switch => ""
  | .texts => "stringArray"

/-- The usage lines of flags, sorted by name, their descriptions aligned. -/
def flagUsages (fs : List Flag) : String :=
  let sorted := fs.mergeSort fun a b => decide (a.name ≤ b.name)
  let heads := sorted.map fun f =>
    let start := match f.short with
      | some c => "  -" ++ c.toString ++ ", --" ++ f.name
      | none => "      --" ++ f.name
    let v := valueName f.kind
    if v.isEmpty then start else start ++ " " ++ v
  let width := (heads.map (·.utf8ByteSize + 1)).foldl max 0
  let lines := (heads.zip sorted).map fun (h, f) =>
    let dflt := if f.kind == .text && !f.defaultText.isEmpty then
        " (default " ++ Text.quote f.defaultText ++ ")" else ""
    h ++ " " ++ String.ofList (List.replicate (width - h.utf8ByteSize) ' ') ++ " " ++ f.usage ++ dflt
  "\n".intercalate lines

/-- The usage text of a command, ending with a line break. -/
def usage (p : Program) (c : Command) : String :=
  let kids := (p.children c).mergeSort fun a b => decide (p.nameOf a ≤ p.nameOf b)
  let hasKids := kids.any (p.available ·)
  let pad := max 11 ((((p.children c).map fun d => (p.nameOf d).length)).max?.getD 0)
  let own := p.localFlags c
  let inh := p.inherited c
  "Usage:" ++
    (if c.runnable then "\n  " ++ p.useLine c else "") ++
    (if hasKids then "\n  " ++ p.commandPath c ++ " [command]" else "") ++
    (if hasKids then
      "\n\nAvailable Commands:" ++ String.join (kids.filterMap fun d =>
        if p.available d || p.nameOf d == "help" then
          some ("\n  " ++ padRight (p.nameOf d) pad ++ " " ++ d.short)
        else none)
     else "") ++
    (if own.isEmpty then "" else "\n\nFlags:\n" ++ flagUsages own) ++
    (if inh.isEmpty then "" else "\n\nGlobal Flags:\n" ++ flagUsages inh) ++
    (if hasKids then
      "\n\nUse \"" ++ p.commandPath c ++ " [command] --help\" for more information about a command."
     else "") ++ "\n"

/-- The help text of a command: its description, then its usage if it runs or has
subcommands. -/
def help (p : Program) (c : Command) : String :=
  let text := if c.long.isEmpty then c.short else c.long
  let text := String.ofList (text.toList.reverse.dropWhile Char.isWhitespace).reverse
  (if text.isEmpty then "" else text ++ "\n\n") ++
    (if c.runnable || !(p.children c).isEmpty then p.usage c else "")

/-- The text printed for the version switch. -/
def versionText (p : Program) : String :=
  p.rootName ++ " version " ++ p.version ++ "\n"

end Program

end Stencil.Cli

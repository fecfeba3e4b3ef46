import Stencil.Cli.Tree
import Stencil.Text.Blank
import Stencil.Shell.Bash
import Stencil.Shell.Zsh
import Stencil.Shell.Fish
import Stencil.Shell.PowerShell
/-!
# Completing a command line

A shell asks for the choices that complete a command line by calling the program with a hidden
request word, then the words typed so far, the last of them the word being completed (empty when a
new word starts). The request reads no flags of its own: every word after it is part of the line
to complete. The command the words before the last one call is found as usual; a line that calls
none has no choices.

Where the last word stands decides what it is offered.

* A word after `--name=`, or after a flag that takes a value, is that flag's value. No flag of
  this program offers values, so the shell completes file names.
* A word starting with a dash and holding no `=` is a flag name. The command's flags are offered,
  those it inherits first and then its own, each group sorted by name. A flag is offered by its
  long form and by its shorthand, each when it starts with the word. A flag given already is left
  out, unless it may be given again.
* Any other word is an argument. While the line has no argument and none of the command's own
  flags, the subcommands that start with the word are offered, sorted by name. The help command
  offers the subcommands of the command its arguments name.

Flag names are not offered after `--`, and a line whose flags do not read, or that names a flag
the command does not know, has no choices. A line that asks for help or the version has none
either.

The answer is one choice a line, with its description after a tab unless the request word asks
for none, then a colon and the number of the directive that tells the shell how to treat the
choices; the directive's name goes to the error stream.
-/

namespace Stencil.Cli

/-- How a shell should treat the choices a completion offers. -/
inductive Directive where
  /-- As it likes: it may also complete file names. -/
  | default
  /-- Without a space after the one choice. -/
  | noSpace
  /-- Without completing file names. -/
  | noFiles
deriving DecidableEq, Repr

namespace Directive

/-- The number a directive is written as. -/
def code : Directive → Nat
  | .default => 0
  | .noSpace => 2
  | .noFiles => 4

/-- The name a directive is reported by. -/
def name : Directive → String
  | .default => "ShellCompDirectiveDefault"
  | .noSpace => "ShellCompDirectiveNoSpace"
  | .noFiles => "ShellCompDirectiveNoFileComp"

end Directive

/-- A choice offered to the shell: a word, and what it stands for. -/
structure Choice where
  word : String
  about : String
deriving DecidableEq, Repr

/-- What a completion answers: the choices in order, and how the shell should treat them. -/
structure Completion where
  choices : List Choice := []
  directive : Directive := .default
deriving DecidableEq, Repr

/-- The hidden word by which a shell asks for choices with their descriptions. -/
def requestWord : String := "__complete"

/-- The hidden word by which a shell asks for choices without descriptions. -/
def plainRequestWord : String := "__completeNoDesc"

/-- Whether an argument has the form of a flag with a name: two dashes and more, or one dash and
a character other than a dash. -/
def isFlagArg (s : String) : Bool :=
  match s.toList with
  | '-' :: '-' :: _ :: _ => true
  | '-' :: c :: _ => c != '-'
  | _ => false

/-- The name a flag argument without `=` gives: what follows two dashes, or else the last
character, the last shorthand of a group. -/
def flagArgName (cs : List Char) : List Char :=
  match cs with
  | '-' :: '-' :: rest => rest
  | _ => cs.getLast?.toList

/-- Where the word being completed stands as far as flags go. -/
structure FlagSpot where
  /-- The flag whose value the word is, if it is one. -/
  flag : Option Flag
  /-- The words before it, without the flag whose value follows as a word of its own. -/
  before : List String
  /-- The word being completed, without `--name=` in front. -/
  word : String
  /-- Whether the line names a flag the command does not know. -/
  unknown : Bool := false

namespace Program

/-- The flag of a command a name stands for; a name of a single byte is a shorthand. -/
def flagNamed (p : Program) (c : Command) (name : String) : Option Flag :=
  match name.toList with
  | [ch] => if ch.toNat < 128 then findShort (p.runFlags c) ch else findLong (p.runFlags c) name
  | _ => findLong (p.runFlags c) name

/-- Where the word `last` stands after the words `args` of a command line of `c`. A word with
`=` after a dash completes the value of the flag before the `=`; otherwise a word after a flag
argument without `=` completes that flag's value, unless the flag is a switch. -/
def flagSpot (p : Program) (c : Command) (args : List String) (last : String) : FlagSpot :=
  let cs := last.toList
  if cs.head? == some '-' && !cs.contains '=' then ⟨none, args, last, false⟩
  else
    let withEqual := cs.head? == some '-'
    let (named, word) : List Char × String :=
      if withEqual then
        let head := cs.takeWhile (· != '=')
        (match head with
         | '-' :: '-' :: rest => rest
         | _ => head.getLast?.toList, String.ofList (cs.drop (head.length + 1)))
      else ([], last)
    let (named, before) : List Char × List String :=
      if !named.isEmpty then (named, args)
      else match args.getLast? with
        | some prev =>
          if isFlagArg prev && !prev.toList.contains '=' then (flagArgName prev.toList, args.dropLast)
          else ([], args)
        | none => ([], args)
    if named.isEmpty then ⟨none, args, word, false⟩
    else match p.flagNamed c (String.ofList named) with
      | none => ⟨none, args, last, true⟩
      | some f =>
        if !withEqual && f.kind == .switch then ⟨none, args, word, false⟩
        else ⟨some f, before, word, false⟩

/-- The choices a flag offers for a word: its long form and its shorthand, each if it starts with
the word. -/
def flagChoices (f : Flag) (word : String) : List Choice :=
  let long := "--" ++ f.name
  (if long.startsWith word then [⟨long, f.usage⟩] else []) ++
    match f.short with
    | some ch => if ("-" ++ ch.toString).startsWith word then [⟨"-" ++ ch.toString, f.usage⟩] else []
    | none => []

/-- The subcommands of a command offered for completion, sorted by name: those available, and
the help command below the root. -/
def offeredChildren (p : Program) (c : Command) : List Command :=
  ((p.children c).filter fun d => p.available d || (c.path.isEmpty && p.nameOf d == "help")).mergeSort
    fun a b => decide (p.nameOf a ≤ p.nameOf b)

/-- The subcommands of a command whose names start with a word, with their short descriptions. -/
def commandChoices (p : Program) (c : Command) (word : String) : List Choice :=
  (p.offeredChildren c).filterMap fun d =>
    if (p.nameOf d).startsWith word then some ⟨p.nameOf d, d.short⟩ else none

/-- The flag names offered to complete a word, the flags `given` on the line being left out unless
they may be given again. -/
def flagNameChoices (p : Program) (c : Command) (given : FlagValues) (word : String) : Completion :=
  let byName (a b : Flag) : Bool := decide (a.name ≤ b.name)
  let fresh (f : Flag) : Bool := f.kind == .texts || !given.any (·.1 == f.name)
  let flags := (p.inherited c).mergeSort byName ++ (p.localFlags c).mergeSort byName
  let choices := (flags.filter fresh).flatMap (flagChoices · word)
  let directive := match choices with
    | [ch] => if (ch.word ++ "\t" ++ ch.about).endsWith "=" then .noSpace else .noFiles
    | _ => .noFiles
  ⟨choices, directive⟩

/-- The choices a command offers for an argument, after the subcommands `listed` for it. -/
def argumentChoices (p : Program) (c : Command) (words : List String) (word : String)
    (listed : Completion) : Completion :=
  match c.choices with
  | .files => listed
  | .nothing => ⟨listed.choices, .noFiles⟩
  | .commands =>
    match p.find words with
    | (target, _, none) => ⟨listed.choices ++ p.commandChoices target word, .noFiles⟩
    | (_, _, some _) => ⟨listed.choices, .noFiles⟩

/-- The choices that complete the last of `args`, the words of a completion request. -/
def complete (p : Program) (args : List String) : Completion :=
  let (c, rest, err) := p.find args.dropLast
  if err.isSome then {} else
  let spot := p.flagSpot c rest (args.getLastD "")
  let fs := p.runFlags c
  match readFlags fs (spot.before ++ ["--"]), readFlags fs spot.before with
  | .ok (_, padded), .ok (given, words) =>
    -- flag names are completed unless the line has passed `--`
    let flagNames := padded.length ≤ words.length
    let word := spot.word
    if spot.unknown && flagNames then {}
    else if given.any fun (n, _) => n == "help" || n == "version" then ⟨[], .noFiles⟩
    else if spot.flag.isNone && word.startsWith "-" && !word.toList.contains '=' && flagNames then
      p.flagNameChoices c given word
    else if spot.flag.isSome && flagNames then {}
    else
      let own := c.flags.map (·.name) ++ ["help", "version"]
      let listed : Completion :=
        if spot.flag.isNone && words.isEmpty && !given.any (own.contains ·.1) &&
            !(p.offeredChildren c).isEmpty then
          ⟨p.commandChoices c word, .noFiles⟩
        else {}
      p.argumentChoices c words word listed
  | _, _ => {}

/-- The words of a completion request, and whether it asks for descriptions, if the line is one:
its first word that is not a flag or a flag value is a request word. -/
def completionRequest (p : Program) (args : List String) : Option (Bool × List String) :=
  match stripFlags (p.findFlags p.root) args with
  | w :: _ =>
    if w == requestWord || w == plainRequestWord then
      some (w == requestWord, dropWord (p.findFlags p.root) args w)
    else none
  | [] => none

end Program

/-- A completion as printed: on the output, each choice on a line of its own (the description
after a tab when asked for, the first line only, trimmed), then a colon and the directive's number;
on the error stream, the directive's name. -/
def Completion.render (r : Completion) (descriptions : Bool) : String × String :=
  let line (ch : Choice) : String :=
    let text := if descriptions then ch.word ++ "\t" ++ ch.about else ch.word
    Text.trimBlank ((text.splitOn "\n").headD "")
  (String.join (r.choices.map (line · ++ "\n")) ++ ":" ++ toString r.directive.code ++ "\n",
   "Completion ended with directive: " ++ r.directive.name ++ "\n")

/-- The completion script of a shell for a program named `name`, asking for choices with
descriptions or without. -/
def shellScript (shell name : String) (descriptions : Bool) : String :=
  let request := if descriptions then requestWord else plainRequestWord
  match shell with
  | "bash" => Shell.bashScript name request
  | "zsh" => Shell.zshScript name request
  | "fish" => Shell.fishScript name request
  | _ => Shell.powerShellScript name request

end Stencil.Cli

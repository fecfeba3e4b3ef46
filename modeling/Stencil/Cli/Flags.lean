import Stencil.Config.Environment
import Stencil.Text.Quote
/-!
# Command-line flags

A flag has a long name, perhaps a one-letter shorthand, and a kind: a text, a switch, or a list of
texts that grows by one item each time the flag is given. Arguments are read left to right:

* `--` ends the flags; everything after it is an argument.
* `--name=value` gives a value; `--name` alone turns a switch on, and otherwise takes the next
  argument as its value, whatever it looks like.
* `-x` works the same for a shorthand, and several shorthands may share one dash (`-dt value`);
  after a shorthand that needs a value, the rest of the group is the value (`-tkey=value`), as is
  what follows `-x=`.
* Anything else, including a lone `-`, is an argument.

Each failure has its message: an unknown flag, an unknown shorthand, a missing value, a bad
syntax, or a value a switch cannot read.
-/

namespace Stencil.Cli

/-- What a flag holds. -/
inductive FlagKind where
  | text
  | switch
  | texts
deriving DecidableEq, Repr

/-- A flag: its long name, shorthand, kind, usage line, and the text of its default. -/
structure Flag where
  name : String
  short : Option Char := none
  kind : FlagKind
  usage : String
  defaultText : String := ""
deriving Repr

/-- A value given to a flag. -/
inductive FlagValue where
  | text (s : String)
  | switch (b : Bool)
  | texts (xs : List String)
deriving DecidableEq, Repr

/-- The flags given on a command line, the latest value of each. -/
abbrev FlagValues := List (String × FlagValue)

namespace FlagValues

/-- The text given to a flag, or its default. -/
def text (vs : FlagValues) (name : String) (default : String := "") : String :=
  match vs.lookup name with
  | some (.text s) => s
  | _ => default

/-- Whether a switch was turned on. -/
def switch (vs : FlagValues) (name : String) : Bool :=
  match vs.lookup name with
  | some (.switch b) => b
  | _ => false

/-- The texts given to a list flag, in order. -/
def texts (vs : FlagValues) (name : String) : List String :=
  match vs.lookup name with
  | some (.texts xs) => xs
  | _ => []

/-- Records a value for a flag: a list flag grows, other flags are replaced. -/
def give (vs : FlagValues) (f : Flag) (value : String) : Except String FlagValues := do
  let v ← match f.kind with
    | .text => pure (FlagValue.text value)
    | .switch => match parseBool value with
      | .ok b => pure (.switch b)
      | .error e =>
        let shown := match f.short with
          | some c => "-" ++ c.toString ++ ", --" ++ f.name
          | none => "--" ++ f.name
        throw ("invalid argument " ++ Text.quote value ++ " for " ++ Text.quote shown ++
          " flag: " ++ e)
    | .texts => pure (.texts (vs.texts f.name ++ [value]))
  return (f.name, v) :: vs.filter (·.1 != f.name)

end FlagValues

/-- The flag of a long name. -/
def findLong (fs : List Flag) (name : String) : Option Flag :=
  fs.find? (·.name == name)

/-- The flag of a shorthand. -/
def findShort (fs : List Flag) (c : Char) : Option Flag :=
  fs.find? (·.short == some c)

/-- A character as a quoted character literal. -/
def quoteChar (c : Char) : String := Text.quoteRune c

/-- The character an unknown shorthand is reported as: the first byte of its encoding read as a
character, and the first byte of that character's encoding read once more. Every character beyond
ASCII therefore shows as `Ã`. -/
def shownShorthand (c : Char) : Char :=
  let b := (c.toString.toUTF8.toList.headD 0).toNat
  if b < 0x80 then Char.ofNat b else Char.ofNat (0xC0 + b / 64)

/-- Reads one `--name...` argument; the arguments after it are `rest`. -/
def readLong (fs : List Flag) (vs : FlagValues) (arg : String) (rest : List String) :
    Except String (FlagValues × List String) := do
  let body := String.ofList (arg.toList.drop 2)
  match body.toList with
  | [] | '-' :: _ | '=' :: _ => throw ("bad flag syntax: " ++ arg)
  | _ => pure ()
  let (name, given) := match body.splitOn "=" with
    | n :: v :: more => (n, some ("=".intercalate (v :: more)))
    | _ => (body, none)
  let some f := findLong fs name | throw ("unknown flag: --" ++ name)
  match given, f.kind, rest with
  | some v, _, _ => return (← vs.give f v, rest)
  | none, .switch, _ => return (← vs.give f "true", rest)
  | none, _, v :: more => return (← vs.give f v, more)
  | none, _, [] => throw ("flag needs an argument: " ++ arg)

/-- Reads the shorthands of one `-xyz...` group; the arguments after it are `rest`. -/
def readShorts (fs : List Flag) (vs : FlagValues) (group : List Char) (rest : List String) :
    Except String (FlagValues × List String) :=
  go group.length group vs rest
where
  go : Nat → List Char → FlagValues → List String → Except String (FlagValues × List String)
    | 0, _, vs, rest => .ok (vs, rest)
    | _, [], vs, rest => .ok (vs, rest)
    | fuel + 1, c :: more, vs, rest => do
      let some f := findShort fs c
        | throw ("unknown shorthand flag: " ++ quoteChar (shownShorthand c) ++ " in -" ++
            String.ofList (c :: more))
      match more, f.kind with
      | '=' :: v :: vs', _ => return (← vs.give f (String.ofList (v :: vs')), rest)
      | _, .switch => go fuel more (← vs.give f "true") rest
      | _ :: _, _ => return (← vs.give f (String.ofList more), rest)
      | [], _ =>
        match rest with
        | v :: after => return (← vs.give f v, after)
        | [] => throw ("flag needs an argument: " ++ quoteChar c ++ " in -" ++ c.toString)

/-- Reads a command line against the flags: the values given and the arguments left. -/
def readFlags (fs : List Flag) (args : List String) : Except String (FlagValues × List String) :=
  go (args.length + 1) args [] []
where
  go : Nat → List String → FlagValues → List String → Except String (FlagValues × List String)
    | 0, rest, vs, kept => .ok (vs, kept ++ rest)
    | _, [], vs, kept => .ok (vs, kept)
    | fuel + 1, arg :: rest, vs, kept =>
      match arg.toList with
      | '-' :: '-' :: [] => .ok (vs, kept ++ rest)
      | '-' :: '-' :: _ => do
        let (vs, rest) ← readLong fs vs arg rest
        go fuel rest vs kept
      | '-' :: c :: more => do
        let (vs, rest) ← readShorts fs vs (c :: more) rest
        go fuel rest vs kept
      | _ => go fuel rest vs (kept ++ [arg])

end Stencil.Cli

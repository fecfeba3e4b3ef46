import Stencil.Text.Scan
/-!
# Directive tokens

A directive token is written `%%Name=Value%%`: a name of ASCII letters and digits, and a value of
at least one non-blank character, the shortest that is followed by `%%`. Tokens are found from
the left and never overlap. Each directive acts in one *phase* of compilation.
-/

namespace Stencil

/-- The phases of compilation: layouts, then inclusions, then rendering. -/
inductive Phase where
  | compile
  | afterCompile
  | render
deriving DecidableEq, Repr

namespace Phase

/-- The phase of a numeric code. -/
def ofCode? : Nat → Option Phase
  | 0 => some .compile
  | 1 => some .afterCompile
  | 2 => some .render
  | _ => none

/-- The name of a phase. -/
def name : Phase → String
  | .compile => "compile"
  | .afterCompile => "after-compile"
  | .render => "render"

/-- The name of the phase of a numeric code, `unknown` for a code of no phase. -/
def describe (code : Nat) : String :=
  match ofCode? code with
  | some p => p.name
  | none => "unknown"

end Phase

/-- A directive token found in a template. -/
structure Directive where
  /-- The whole token, as written. -/
  token : String
  /-- The directive's name. -/
  name : String
  /-- The directive's value. -/
  value : String
deriving DecidableEq, Repr

namespace Directive

/-- The shortest nonempty run of non-blank characters followed by `%%`: the run and the length
up to and including the `%%`. -/
def valueAt : List Char → Option (List Char × Nat)
  | [] => none
  | c :: rest =>
    if Text.isSpace c then none
    else if ['%', '%'].isPrefixOf rest then some ([c], 3)
    else (valueAt rest).map fun (v, n) => (c :: v, n + 1)

/-- Recognises a directive token at the front of a text. -/
def recognise : Text.Recogniser Directive := fun s =>
  match s with
  | '%' :: '%' :: rest =>
    let name := rest.takeWhile Text.isAlnum
    match rest.drop name.length with
    | '=' :: after =>
      if name.isEmpty then none
      else
        match valueAt after with
        | none => none
        | some (v, n) =>
          let len := 2 + name.length + 1 + n
          some (⟨String.ofList (s.take len), String.ofList name, String.ofList v⟩, len)
    | _ => none
  | _ => none

/-- Every directive token of a text, from the left. -/
def findAll (s : String) : List Directive :=
  Text.allMatches recognise s.toList

end Directive

end Stencil

import Stencil.Directive.Token
import Stencil.Directive.Bundle
import Stencil.Template.Record
import Stencil.Fault
/-!
# Directive and substitution handlers

The directives a template may use:

* `%%Master=L%%` (compile phase) puts the view into the layout `L` at its `%%View%%`;
* `%%Placeholder=N%%` (after compile) moves the first block `[N]...[/N]` to the token;
* `%%Partial=P%%` (after compile) puts the text of the shared view `P` at the token;
* `%%Bundle=B%%` (after compile) puts the tags of bundle `B` at the token.

The substitutions that work on a whole text:

* comments `@@...@@` are removed (compile phase);
* blocks `[[...]]` are collected, with the leading blanks of their lines removed, into every
  `%%Head%%` (compile phase);
* every `%%AntiForgeryToken%%` gets a fresh token (render phase).

Layouts and partials are looked up among the shared views by `resolve`, which sees the workspace
being compiled through a `Scope`: its template store, and its template names in the order the
look-up scans them.
-/

namespace Stencil

/-- A source of anti-forgery tokens: the `n`-th draw, counted from zero, gives a token or fails. -/
structure TokenSupply where
  draw : Nat → Except Fault String

/-- A directive handler. -/
inductive DirectiveHandler where
  /-- Puts the view into a layout. -/
  | master
  /-- Moves a block to the token. -/
  | placeholder
  /-- Puts a shared view at the token. -/
  | partialView
  /-- Puts a bundle's tags at the token. -/
  | bundle (settings : BundleSettings)

/-- A substitution over a whole text. -/
inductive Substitution where
  /-- Removes comments. -/
  | comment
  /-- Draws a token for every anti-forgery placeholder; without a supply they are removed. -/
  | antiForgery (supply : Option TokenSupply)
  /-- Collects head blocks. -/
  | head

namespace DirectiveHandler

/-- The directive name a handler answers to. -/
def name : DirectiveHandler → String
  | .master => "Master"
  | .placeholder => "Placeholder"
  | .partialView => "Partial"
  | .bundle _ => "Bundle"

/-- The phase a handler acts in. -/
def phase : DirectiveHandler → Phase
  | .master => .compile
  | _ => .afterCompile

end DirectiveHandler

/-- The phase a substitution acts in. -/
def Substitution.phase : Substitution → Phase
  | .antiForgery _ => .render
  | _ => .compile

/-- What a directive handler sees of the workspace it runs in: the template store, and the
template names in the order a look-up scans them. -/
structure Scope where
  templates : NameMap Template
  names : List String

/-- The scope of a store whose names are scanned in name order, as every workspace begins. -/
@[coe] abbrev Scope.ofStore (templates : NameMap Template) : Scope :=
  ⟨templates, templates.keys⟩

instance : Coe (NameMap Template) Scope := ⟨Scope.ofStore⟩

/-- The scan of a shared-view look-up over names in order. The first name that ends in `/key` is
taken at once; until then the first name that contains `key` is remembered in `fallback`, empty
while there is none, and the scan ends with it. -/
def scanShared (key : String) (fallback : String) : List String → String
  | [] => fallback
  | n :: ns =>
    if Text.endsWith n ("/" ++ key) then n
    else scanShared key (if fallback.isEmpty && Text.mentions n key then n else fallback) ns

/-- Finds the shared view a layout or partial value names: `Shared/<value>` itself, else the
first name in the scope's order that ends in `/Shared/<value>`, else the first that contains
`Shared/<value>`. The record of a name the store does not hold is the empty record. -/
def resolve (scope : Scope) (value : String) : Except Fault Template :=
  let key := "Shared/" ++ value
  match scope.templates.find? key with
  | some t => .ok t
  | none =>
    let name := scanShared key "" scope.names
    if name.isEmpty then
      .error (((Fault.condition .templateNotFound).wrap "cannot resolve shared view").about "view" key)
    else .ok ((scope.templates.find? name).getD default)

/-- The first block `[name]body[/name]` with a nonempty body, as the whole block and its body. -/
def placeholderBlock (name content : String) : Option (String × String) :=
  let opener := ("[" ++ name ++ "]").toList
  let closer := ("[/" ++ name ++ "]").toList
  match Text.firstMatch (Text.blockAt opener closer) content.toList with
  | some (_, body, _) => some (String.ofList (opener ++ body ++ closer), String.ofList body)
  | none => none

/-- Moves the first block of the placeholder's name to the first occurrence of its token; without
a block the content is unchanged. -/
def placeholderMove (content : String) (d : Directive) : String :=
  match placeholderBlock d.value content with
  | none => content
  | some (block, body) => Text.replaceOnce (Text.replaceOnce content d.token body) block ""

/-- Runs a directive handler on one token: the new content and the shared view it used, if
any. -/
def DirectiveHandler.process (scope : Scope) (content : String) (d : Directive) :
    DirectiveHandler → Except Fault (String × Option String)
  | .master => do
    let layout ← resolve scope d.value
    let child := Text.replaceOnce content d.token ""
    return (Text.replaceOnce layout.raw "%%View%%" child, some layout.name)
  | .placeholder => .ok (placeholderMove content d, none)
  | .partialView => do
    let p ← resolve scope d.value
    return (Text.replaceOnce content d.token p.raw, some p.name)
  | .bundle b => .ok (Text.replaceOnce content d.token (b.markup d.value), none)

/-- Removes every comment `@@...@@` with a nonempty body. -/
def stripComments (content : String) : String :=
  String.ofList (Text.replaceMatches (Text.blockAt ['@', '@'] ['@', '@']) (fun _ => []) content.toList)

/-- Recognises the leading blanks of a line. -/
def lineIndent : Text.LineRecogniser Unit := fun atStart s =>
  if atStart then
    let n := Text.spanLength Text.isSpace s
    if n = 0 then none else some ((), n)
  else none

/-- Removes the leading blanks of every line; a run of blanks may reach over empty lines. -/
def stripIndent (s : List Char) : List Char :=
  Text.replaceLineMatches lineIndent (fun _ => []) true s

/-- Collects every head block `[[...]]` into each `%%Head%%`, each block removed at its first
occurrence. -/
def collectHead (content : String) : String :=
  let blocks := Text.allMatches (Text.blockAt ['[', '['] [']', ']']) content.toList
  let (content, head) := blocks.foldl (fun (c, h) body =>
      (Text.replaceOnce c (String.ofList (['[', '['] ++ body ++ [']', ']'])) "",
        h ++ String.ofList (stripIndent body))) (content, "")
  Text.replaceEach content "%%Head%%" head

/-- Puts a token at every anti-forgery placeholder; `drawn` tokens were drawn before. Returns the
text and the new count of draws. -/
def placeTokens (supply : Option TokenSupply) (drawn : Nat) (content : String) :
    Except Fault (String × Nat) :=
  match Text.cut content "%%AntiForgeryToken%%" with
  | [] => .ok (content, drawn)
  | [_] => .ok (content, drawn)
  | first :: rest =>
    match supply with
    | none => .ok (String.join (first :: rest), drawn)
    | some s =>
      rest.foldlM (fun (acc, n) part =>
        match s.draw n with
        | .ok tok => .ok (acc ++ tok ++ part, n + 1)
        | .error e => .error (e.wrap "failed to create anti-forgery token")) (first, drawn)

/-- Runs a substitution; `drawn` tokens were drawn before. -/
def Substitution.apply (drawn : Nat) (content : String) :
    Substitution → Except Fault (String × Nat)
  | .comment => .ok (stripComments content, drawn)
  | .head => .ok (collectHead content, drawn)
  | .antiForgery supply => placeTokens supply drawn content

end Stencil

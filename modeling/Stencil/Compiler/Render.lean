import Stencil.Compiler.Basic
import Stencil.Text.Blank
import Stencil.Markdown.Html
/-!
# Rendering compiled views

Rendering fills a compiled view with tag values. First the render-phase substitutions run (the
anti-forgery tokens). Then, for each tag in name order with a nonempty value, every placeholder of
that tag is replaced by the value with its blanks trimmed: `{{k}}` by the value as it is, `{|k|}`
by the value escaped for HTML, `{!k!}` by the value read as Markdown. The opening and closing
marks need not agree: `{{k|}` counts as `{{k}}`. What is left of placeholders of word-character
names is removed, and so are lines of spaces and tabs.
-/

namespace Stencil

/-- Recognises a placeholder of the tag `key`; the value is its opening mark. -/
def tagAt (key : List Char) : Text.Recogniser Char := fun s =>
  match s with
  | '{' :: k :: rest =>
    if k == '{' || k == '|' || k == '!' then
      if key.isPrefixOf rest then
        match rest.drop key.length with
        | e :: '}' :: _ =>
          if e == '|' || e == '!' || e == '}' then some (k, key.length + 4) else none
        | _ => none
      else none
    else none
  | _ => none

/-- Recognises a placeholder of any name of word characters. -/
def leftoverAt : Text.Recogniser Unit := fun s =>
  match s with
  | '{' :: k :: rest =>
    if k == '{' || k == '|' || k == '!' then
      let word := rest.takeWhile Text.isWordChar
      if word.isEmpty then none
      else
        match rest.drop word.length with
        | e :: '}' :: _ =>
          if e == '}' || e == '!' || e == '|' then some ((), word.length + 4) else none
        | _ => none
    else none
  | _ => none

/-- Recognises a line of spaces and tabs with its line break. -/
def emptyLine : Text.LineRecogniser Unit := fun atStart s =>
  if atStart then
    let n := Text.spanLength (fun c => c == ' ' || c == '\t') s
    match s.drop n with
    | '\r' :: '\n' :: _ => some ((), n + 2)
    | '\n' :: _ => some ((), n + 1)
    | _ => none
  else none

/-- Replaces the placeholders of one tag by its value. -/
def fillTag (content : String) (key value : String) : String :=
  let v := Text.trimBlank value
  let image : Char → List Char
    | '|' => (Text.escapeHtml v).toList
    | '!' => (Markdown.toHtml v).toList
    | _ => v.toList
  String.ofList (Text.replaceMatches (tagAt key.toList) image content.toList)

/-- Removes leftover placeholders and lines of spaces and tabs. -/
def tidyRender (content : String) : String :=
  let s := Text.replaceMatches leftoverAt (fun _ => []) content.toList
  String.ofList (Text.replaceLineMatches emptyLine (fun _ => []) true s)

/-- Replaces the placeholders of every tag with a nonempty value, the tags in name order. -/
def fillTags (content : String) (tags : NameMap String) : String :=
  tags.entries.foldl (fun c (k, v) => if v.isEmpty then c else fillTag c k v) content

/-- Fills a compiled text with tags, after `drawn` tokens were drawn: the text and the new count. -/
def fillView (h : Handlers) (drawn : Nat) (compiled : String) (tags : NameMap String) :
    Except Fault (String × Nat) := do
  let (content, drawn) ← (substituteAll drawn compiled (h.substitutionsOf .render)).mapError
    fun e => e.wrap "render substitution failed"
  return (tidyRender (fillTags content tags), drawn)

namespace Compiler

/-- Renders a compiled view with tags and records the result as its last render. -/
def render (c : Compiler) (name : String) (tags : NameMap String) : Except Fault Template × Compiler :=
  match c.snapshot.compiled.find? name with
  | none => (.error (viewNotFound name), c)
  | some view =>
    match fillView c.handlers c.drawn view.compiled tags with
    | .error e => (.error (e.about "view" name), c)
    | .ok (out, drawn) =>
      (.ok { view with lastRender := out },
        { c with renders := c.renders.insert name out, drawn := drawn })

end Compiler

end Stencil

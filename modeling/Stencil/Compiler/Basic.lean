import Stencil.Directive.Handlers
import Stencil.Snapshot
/-!
# The view compiler

A compiler owns the published snapshot (templates, compiled views, dependency graph), the text
of each view's last render, and the handlers it runs. Compiling a view:

1. a fragment is compiled as written;
2. otherwise the layout directives are applied again and again, while they change the text, at
   most `maxDepth` times beyond the first pass (the pass counter is a 64-bit word, so a negative
   bound is met only once the counter has wrapped around);
3. the compile-phase substitutions run, then the after-compile directives;
4. an empty result falls back to the template's text, and blank lines are removed.

Every shared view used on the way becomes a dependency of the view. Writers work on a copy of the
snapshot, a *workspace*, and publish it when they are done; publishing forgets the last render of
every view the writer touched. A workspace also lists its template names in name order, the order
in which shared views are looked up; storing a template new to the workspace puts its name at the
place a binary search finds.
-/

namespace Stencil

/-- The handlers a compiler runs, each list in registration order. -/
structure Handlers where
  directives : List DirectiveHandler
  substitutions : List Substitution

namespace Handlers

/-- No handlers at all. -/
def empty : Handlers := ⟨[], []⟩

/-- The built-in handlers: layouts, placeholders, partials and bundles; comments, anti-forgery
tokens and head blocks. -/
def defaults (bundle : BundleSettings) (tokens : Option TokenSupply) : Handlers :=
  ⟨[.master, .placeholder, .partialView, .bundle bundle], [.comment, .antiForgery tokens, .head]⟩

/-- The directive handlers of a phase. -/
def directivesOf (h : Handlers) (p : Phase) : List DirectiveHandler :=
  h.directives.filter (·.phase == p)

/-- The substitutions of a phase. -/
def substitutionsOf (h : Handlers) (p : Phase) : List Substitution :=
  h.substitutions.filter (·.phase == p)

end Handlers

/-- A writer's copy of the snapshot, the names of its templates in the order look-ups scan them,
and the views it touched. -/
structure Workspace where
  snapshot : Snapshot
  names : List String
  touched : List String := []

/-- What the directive handlers see of a workspace. -/
def Workspace.scope (ws : Workspace) : Scope :=
  ⟨ws.snapshot.templates, ws.names⟩

/-- Binary search over the half-open range `[lo, hi)` of the sorted names `xs`: the first position
whose name is not below `target`, when every name before `lo` is below it and none from `hi` on
is. -/
def searchFrom (xs : List String) (target : String) (lo hi : Nat) : Nat :=
  if lo < hi then
    let mid := (lo + hi) / 2
    if xs.getD mid "" < target then searchFrom xs target (mid + 1) hi
    else searchFrom xs target lo mid
  else lo
termination_by hi - lo

/-- The place of `target` among the sorted names `xs`: after every name below it. -/
def searchPosition (xs : List String) (target : String) : Nat :=
  searchFrom xs target 0 xs.length

/-- Stores a template in a workspace. A name new to the store goes into the names at the place
binary search finds for it. -/
def Workspace.setTemplate (ws : Workspace) (rec : Template) : Workspace :=
  let names :=
    if ws.snapshot.templates.contains rec.name then ws.names
    else ws.names.insertIdx (searchPosition ws.names rec.name) rec.name
  { ws with snapshot := { ws.snapshot with templates := ws.snapshot.templates.insert rec.name rec }
            names }

/-- Adds a dependency unless it is already listed. -/
def addDependency (deps : List String) : Option String → List String
  | some d => if deps.contains d then deps else deps ++ [d]
  | none => deps

/-- Runs one handler on one directive token of the text: the text, whether a handler changed it,
and the dependencies, with the shared view the handler used added. -/
def applyHandler (scope : Scope) (d : Directive) :
    String × Bool × List String → DirectiveHandler → Except Fault (String × Bool × List String)
  | (c, changed, deps), h =>
    match h.process scope c d with
    | .error e => .error ((e.wrap "directive failed").about "directive" d.token)
    | .ok (out, dep) => .ok (out, changed || out != c, addDependency deps dep)

/-- Runs the handlers of a directive's name on one token, in order. -/
def applyDirective (hs : List DirectiveHandler) (scope : Scope)
    (s : String × Bool × List String) (d : Directive) : Except Fault (String × Bool × List String) :=
  (hs.filter (·.name == d.name)).foldlM (applyHandler scope d) s

/-- Applies every directive of the text to it, in the order found, each by the handlers of its
name in order. Returns the text, whether any handler changed it, and the dependencies. -/
def applyDirectives (hs : List DirectiveHandler) (scope : Scope) (content : String)
    (deps : List String) : Except Fault (String × Bool × List String) :=
  if hs.isEmpty then .ok (content, false, deps)
  else (Directive.findAll content).foldlM (applyDirective hs scope) (content, false, deps)

/-- The number of values a pass counter takes before it wraps around: counters are 64-bit words. -/
def counterRange : Nat := 18446744073709551616

/-- The fault of a layout chain deeper than the bound. -/
def layoutTooDeep (maxDepth : Int) : Fault :=
  ((Fault.condition .layoutDepthExceeded).wrap "cannot expand layouts").withDetail "max_depth"
    (.int maxDepth)

/-- Applies the layout directives while they change the text; `depth` passes changed it so far,
and `fuel` bounds the passes left. -/
def expandLayouts (hs : List DirectiveHandler) (scope : Scope) (maxDepth : Int) :
    Nat → Nat → String → List String → Except Fault (String × List String)
  | 0, _, _, _ => .error (layoutTooDeep maxDepth)
  | fuel + 1, depth, content, deps =>
    match applyDirectives hs scope content deps with
    | .error e => .error e
    | .ok (out, changed, deps) =>
      if !changed then .ok (content, deps)
      else if (depth : Int) = maxDepth then .error (layoutTooDeep maxDepth)
      else expandLayouts hs scope maxDepth fuel (depth + 1) out deps

/-- The passes a depth bound allows. The counter starts at zero, goes up by one after every pass
that changed the text, and stops the run when it equals the bound: one pass more than a
nonnegative bound, and for a negative bound one more than the count at which the counter, having
wrapped around, equals it. -/
def passesFor (maxDepth : Int) : Nat :=
  if 0 ≤ maxDepth then maxDepth.toNat + 1 else (counterRange + maxDepth).toNat + 1

/-- Recognises a line of blanks and the newline that ends it; a run may span several lines. -/
def blankLine : Text.LineRecogniser Unit := fun atStart s =>
  if atStart then
    let run := s.takeWhile Text.isSpace
    match (run.zipIdx.filter (·.1 == '\n')).getLast? with
    | some (_, i) => some ((), i + 1)
    | none => none
  else none

/-- The text without its blank lines. -/
def dropBlankLines (s : String) : String :=
  String.ofList (Text.replaceLineMatches blankLine (fun _ => []) true s.toList)

/-- The fault of a view that is not there. -/
def viewNotFound (name : String) : Fault :=
  ((Fault.condition .templateNotFound).wrap "cannot find view").about "view" name

/-- Applies substitutions in order. -/
def substituteAll (drawn : Nat) (content : String) :
    List Substitution → Except Fault (String × Nat)
  | [] => .ok (content, drawn)
  | s :: rest => do
    let (c, n) ← s.apply drawn content
    substituteAll n c rest

/-- Compiles one view in a scope: the compiled record and, unless the view is a fragment, the
shared views it used. -/
def compileTemplate (h : Handlers) (maxDepth : Int) (scope : Scope) (name : String) :
    Except Fault (Template × Option (List String)) :=
  match scope.templates.find? name with
  | none => .error (viewNotFound name)
  | some tpl =>
    let view := { tpl with lastRender := "" }
    if isFragment tpl.name then .ok ({ view with compiled := tpl.raw }, none)
    else
      let withView (e : Fault) := e.about "view" name
      match expandLayouts (h.directivesOf .compile) scope maxDepth (passesFor maxDepth) 0
          tpl.raw [] with
      | .error e => .error (withView e)
      | .ok (content, deps) =>
        match substituteAll 0 content (h.substitutionsOf .compile) with
        | .error e => .error (withView (e.wrap "compile substitution failed"))
        | .ok (content, _) =>
          match applyDirectives (h.directivesOf .afterCompile) scope content deps with
          | .error e => .error (withView e)
          | .ok (content, _, deps) =>
            let content := if content.isEmpty then tpl.raw else content
            .ok ({ view with compiled := dropBlankLines content }, some deps)

/-- Stores a compiled view in a workspace, with the shared views it used when it has them, and
marks it touched. -/
def Workspace.store (ws : Workspace) (name : String) (view : Template)
    (deps : Option (List String)) : Workspace :=
  let snap := ws.snapshot
  { ws with snapshot := { snap with
                            compiled := snap.compiled.insert name view
                            graph := match deps with
                              | some ds => snap.graph.set name ds
                              | none => snap.graph },
            touched := ws.touched ++ [name] }

/-- Compiles one view in a workspace: the compiled record and the workspace with it stored. -/
def compileView (h : Handlers) (maxDepth : Int) (ws : Workspace) (name : String) :
    Except Fault (Template × Workspace) :=
  (compileTemplate h maxDepth ws.scope name).map fun (view, deps) =>
    (view, ws.store name view deps)

/-- A compiler: its handlers and bound, the published snapshot, the last render of each view and
the number of anti-forgery tokens drawn so far. -/
structure Compiler where
  handlers : Handlers
  maxDepth : Int := 8
  snapshot : Snapshot := .empty
  renders : NameMap String := .empty
  drawn : Nat := 0

namespace Compiler

/-- A workspace over the published snapshot, its template names in order. -/
def begin (c : Compiler) : Workspace :=
  ⟨c.snapshot, c.snapshot.templateNames, []⟩

/-- Publishes a workspace: its snapshot becomes current and the touched views lose their last
render. -/
def publish (c : Compiler) (ws : Workspace) : Compiler :=
  { c with snapshot := ws.snapshot
           renders := ws.touched.foldl (fun r n => r.erase n) c.renders }

/-- Replaces the template store and drops every compiled view; a later record of a name wins. -/
def reset (c : Compiler) (records : List Template) : Compiler :=
  { c with snapshot := { Snapshot.empty with
                          templates := NameMap.ofList (records.map fun t => (t.name, t)) }
           renders := .empty }

/-- Publishes the state a cache describes. -/
def restore (c : Compiler) (cache : ViewCache) : Compiler :=
  { c with snapshot := cache.toSnapshot, renders := .empty }

/-- The state as a cache, with the last render of each compiled view. -/
def viewCache (c : Compiler) : ViewCache :=
  let cache := c.snapshot.toCache
  { cache with compiled := cache.compiled.map fun v =>
      match c.renders.find? v.name with
      | some r => { v with lastRender := r }
      | none => v }

/-- Stores a template. A compiled view of its name with another fingerprint, unless a fragment,
takes the new text and fingerprint and is reported stale. -/
def replace (c : Compiler) (rec : Template) : Bool × Compiler :=
  let ws := c.begin.setTemplate rec
  let snap := ws.snapshot
  match snap.compiled.find? rec.name with
  | some old =>
    if old.fingerprint != rec.fingerprint && !isFragment rec.name then
      let fresh := { old with raw := rec.raw, fingerprint := rec.fingerprint,
                              sourcePath := rec.sourcePath }
      (true, c.publish { ws with snapshot := { snap with compiled := snap.compiled.insert rec.name fresh }
                                 touched := ws.touched ++ [rec.name] })
    else (false, c.publish ws)
  | none => (false, c.publish ws)

/-- Compiles one view; on failure nothing is published. -/
def compile (c : Compiler) (name : String) : Except Fault Template × Compiler :=
  match compileView c.handlers c.maxDepth c.begin name with
  | .error e => (.error e, c)
  | .ok (v, ws) => (.ok v, c.publish ws)

/-- Compiles one more view in a workspace: a compiled view joins the views and the workspace
takes it, a failure joins the faults. -/
def compileStep (h : Handlers) (maxDepth : Int) :
    List Template × List Fault × Workspace → String → List Template × List Fault × Workspace
  | (vs, fs, ws), n =>
    match compileView h maxDepth ws n with
    | .error e => (vs, fs ++ [e], ws)
    | .ok (v, ws') => (vs ++ [v], fs, ws')

/-- Compiles the named views in order in one workspace and publishes it: the views compiled and
the faults of the others, reported together. -/
def compileEach (c : Compiler) (names : List String) :
    (List Template × Option Fault) × Compiler :=
  let (views, faults, ws) := names.foldl (compileStep c.handlers c.maxDepth) ([], [], c.begin)
  ((views, Fault.join faults), c.publish ws)

/-- Compiles every template, in name order. -/
def compileAll (c : Compiler) : (List Template × Option Fault) × Compiler :=
  c.compileEach c.snapshot.templateNames

/-- The views that include `name`, directly or not, breadth first. -/
def cascade (c : Compiler) (name : String) : List String :=
  c.snapshot.graph.cascade name

/-- Recompiles `name`, when it is a template, and then every view in its cascade. -/
def recompileDependencies (c : Compiler) (name : String) :
    Except Fault (List Template × Option Fault) × Compiler :=
  let known := c.snapshot.templates.contains name
  let affected := c.cascade name
  if !known && affected.isEmpty then (.error (viewNotFound name), c)
  else
    let (r, c') := c.compileEach ((if known then [name] else []) ++ affected)
    (.ok r, c')

/-- Takes a changed template: stores it, then compiles it and its cascade again when it made a
compiled view stale, and only the view itself otherwise. -/
def reload (c : Compiler) (rec : Template) : Except Fault (List Template × Option Fault) × Compiler :=
  let (stale, c) := c.replace rec
  if stale then c.recompileDependencies rec.name
  else
    match c.compile rec.name with
    | (.ok v, c) => (.ok ([v], none), c)
    | (.error f, c) => (.error f, c)

end Compiler

end Stencil

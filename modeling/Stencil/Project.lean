import Stencil.Engine.Reload
import Stencil.Engine.Dispatch
/-!
# Projects

A project is a directory with its settings and views, as one run of the program sees it: the
environment, the directory to look up the settings from, and the supply of anti-forgery tokens.
Each operation on a project builds an engine from the settings, starts it, does its work and closes
the store. A fault in the settings is reported as a failure to load the configuration. A fault
met once the engine exists is reported on its own line of a list, since closing the store may add
its own.
-/

namespace Stencil

/-- A project as one run sees it. -/
structure Project where
  env : Environment
  workDir : String
  tokens : Option TokenSupply

namespace Project

/-- The engine of a project, its settings loaded. -/
def engine (p : Project) : HostM (Except Fault Engine) := do
  let (cfg, log) := loadConfig (← Host.tree) p.env p.workDir
  for l in log do Host.record l
  match cfg with
  | .error f => return .error (f.wrap "failed to load configuration")
  | .ok c => return Engine.assemble c p.tokens 0

/-- Runs `body` on the started engine of a project and closes the store; `none_` is the result
when there is no engine or it does not start. -/
def withEngine {β : Type} (p : Project) (ignoreCache : Bool) (none_ : β)
    (body : EngineM (β × Option Fault)) : HostM (β × Option Fault) := do
  match ← p.engine with
  | .error f => return (none_, some f)
  | .ok e =>
    let (r, e) ← (do
        match ← Engine.start ignoreCache with
        | .error f => return (none_, some f)
        | .ok () => body).run e
    let _ ← Engine.close.run e
    return (r.1, r.2.map fun f => .joined [f])

/-- Compiles the named views, or all, writes the cache, and answers the views compiled. -/
def compile (p : Project) (names : List String) (fresh : Bool) :
    HostM (List Template × Option Fault) :=
  p.withEngine fresh [] do
    let r ← Engine.compile names
    Engine.persist
    return r

/-- Renders a view with tags. -/
def render (p : Project) (name : String) (tags : NameMap String) : HostM (String × Option Fault) :=
  p.withEngine false "" do
    match ← Engine.render name tags with
    | .ok out => return (out, none)
    | .error f => return ("", some f)

/-- Sends a route with tags to the page application. -/
def dispatch (p : Project) (route : String) (tags : NameMap String) :
    HostM (String × Option Fault) :=
  p.withEngine false "" do
    match ← Engine.dispatch (some .pages) route tags with
    | .ok out => return (out, none)
    | .error f => return ("", some f)

/-- The encoded cache of the started engine. -/
def showCache (p : Project) : HostM (String × Option Fault) :=
  p.withEngine false "" do
    return (← Engine.getCache, none)

/-- Removes the stored cache without starting the engine; where it was kept. -/
def clearCache (p : Project) : HostM (String × Option Fault) := do
  match ← p.engine with
  | .error f => return ("", some f)
  | .ok e =>
    let (r, e) ← Engine.clearCache.run e
    let _ ← Engine.close.run e
    match r with
    | .ok () => return (e.store.location, none)
    | .error f => return (e.store.location, some (.joined [f]))

/-- How a view relates to the others. -/
def dependencies (p : Project) (name : String) : HostM (Option Dependencies × Option Fault) :=
  p.withEngine false none do
    match ← Engine.dependencies name with
    | .ok d => return (some d, none)
    | .error f => return (none, some f)

/-- A change the watcher reports, with the text written to its file just before, if any. -/
structure WatchedChange where
  change : Watch.Change
  content : Option String := none

/-- What a burst of changes left: whether the cache was written, and the text found at the path
read after it, if there is one. -/
structure BurstResult where
  persisted : Bool
  readBack : Option String

/-- The fault of a watcher that could not start on the roots. -/
def watcherFailed (roots : List String) (reason : String) : Fault :=
  .note (Condition.text .watcherStartFailed) [("roots", .texts roots)] (some (.foreign reason))

/-- Watches the view roots of the started engine until the run is stopped, taking the bursts of
changes the watcher reports in turn: logs which roots are watched, unless the dashboard shows the
reloads instead, then starts the watcher, which fails with `startFailure` if given. Answers the
roots and, for each burst, what it left, with `readAfter` read back after each. -/
def watch (p : Project) (dashboard : Bool) (startFailure : Option String := none)
    (readAfter : Option String := none) (bursts : List (List WatchedChange) := []) :
    HostM ((List String × List BurstResult) × Option Fault) :=
  p.withEngine false ([], []) do
    let roots := (← get).loader.roots
    if !dashboard then
      (Host.info ("watching " ++ ", ".intercalate roots) : HostM Unit)
    match startFailure with
    | some reason => return (([], []), some (watcherFailed roots reason))
    | none =>
      let results ← bursts.mapM fun burst => do
        for c in burst do
          if let some content := c.content then
            (Host.setTree ((← Host.tree).write c.change.path content) : HostM Unit)
        let persisted ← Engine.settle (burst.map (·.change))
        let t ← Host.tree
        let readBack := readAfter.bind fun path => (t.read path).toOption
        return { persisted, readBack : BurstResult }
      return ((roots, results), none)

end Project

end Stencil

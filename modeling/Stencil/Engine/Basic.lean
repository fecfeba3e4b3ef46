import Stencil.Engine.Store
import Stencil.Config.Load
import Stencil.Files.Loader
import Stencil.Cache.Read
import Stencil.Cache.Codec
import Stencil.Compiler.Render
/-!
# The engine

An engine joins a project's settings, its template loader, a compiler, the cache format and the
cache store. It starts from the stored cache when there is a usable one and the project is not in
debug mode; otherwise it scans the view roots, compiles every template and writes the cache back,
logging instead of failing when the write does not succeed. A cache that holds templates but no
compiled views is compiled at once.

The engine remembers whether its state changed since the cache was last read or written: every
compile and every start from a scan sets the mark, and writing or fetching the cache clears it.
-/

namespace Stencil

/-- How one view relates to the others: the views it includes, the views that include it, and
every view rebuilt when it changes, breadth first. -/
structure Dependencies where
  view : String
  includes : List String
  includedBy : List String
  cascade : List String

/-- An engine: settings, loader, compiler, cache format and store, and whether the state changed
since the cache was last read or written. -/
structure Engine where
  config : Config
  loader : ViewLoader
  compiler : Compiler
  format : CacheFormat
  store : CacheStore
  dirty : Bool := false

/-- Computations of an engine against the host. -/
abbrev EngineM := StateT Engine HostM

namespace Engine

/-- Builds the engine a configuration describes, with a token supply of which `drawn` tokens were
already drawn. -/
def assemble (config : Config) (tokens : Option TokenSupply) (drawn : Nat) : Except Fault Engine := do
  let loader ← ViewLoader.make config.viewRootPaths
  let format ← CacheFormat.ofName config.cache.format
  let store ← CacheStore.ofConfig config
  let bundle := BundleSettings.make (some config.bundles) config.debug config.sharedResourceFolder
  return { config, loader, format, store,
           compiler := { handlers := Handlers.defaults bundle tokens, drawn } }

/-- Loads the settings of the project seen from `cwd` and builds its engine; the lines logged
while loading the settings come with it. -/
def load (t : FileTree) (env : Environment) (cwd : String) (tokens : Option TokenSupply)
    (drawn : Nat) : Except Fault Engine × List LogLine :=
  let (config, log) := loadConfig t env cwd
  (config.bind fun c => assemble c tokens drawn, log)

/-- Runs a step of the compiler and keeps the compiler it leaves. -/
def onCompiler {α : Type} (f : Compiler → α × Compiler) : EngineM α := do
  let (r, c) := f (← get).compiler
  modify fun e => { e with compiler := c }
  return r

/-- Runs a store operation and keeps the store it leaves. -/
def onStore {α : Type} (op : CacheStore → HostM (α × CacheStore)) : EngineM α := do
  let (r, s) ← op (← get).store
  modify fun e => { e with store := s }
  return r

/-- Marks whether the state differs from the stored cache. -/
def markDirty (b : Bool) : EngineM Unit :=
  modify fun e => { e with dirty := b }

/-- Logs a fault, if there is one. -/
def logFault : Option Fault → EngineM Unit
  | some f => (Host.error f : HostM Unit)
  | none => pure ()

/-- The state as cache text. -/
def encoded : EngineM String := do
  let e ← get
  return e.compiler.viewCache.encode e.format

/-- Writes the state to the store; on success the state matches the cache. -/
def updateCache : EngineM (Except Fault Unit) := do
  let data ← encoded
  match ← onStore (·.write data) with
  | .error f => return .error f
  | .ok () =>
    markDirty false
    return .ok ()

/-- Writes the state to the store, warning when that fails. -/
def persist : EngineM Unit := do
  match ← updateCache with
  | .error f => (Host.warn ("view cache not written: " ++ f.text) : HostM Unit)
  | .ok () => pure ()

/-- Fills the compiler from the stored cache; whether there was a usable one. Faults on the way
are logged. A cache without compiled views is compiled at once. -/
def restore : EngineM Bool := do
  match ← onStore CacheStore.read with
  | .error f =>
    logFault (some f)
    return false
  | .ok none => return false
  | .ok (some data) =>
    match ViewCache.decode (← get).format data with
    | .error f =>
      logFault (some f)
      return false
    | .ok cache =>
      onCompiler fun c => ((), c.restore cache)
      if cache.compiled.isEmpty then
        let (_, fault) ← onCompiler (·.compileAll)
        logFault fault
        markDirty true
      return true

/-- Starts the engine: from the stored cache unless in debug mode or told to ignore it, else by
scanning the view roots, compiling every template and writing the cache back. Only a failed scan
is a fault; compile faults are logged. The span `start` tells where the views came from and, after
a scan, how many compiled. -/
def start (ignoreCache : Bool) : EngineM (Except Fault Unit) := do
  let span : Span := { name := "start" }
  if !(← get).config.debug && !ignoreCache then
    if ← restore then
      (Host.finish (span.set "source" (.text "cache")) : HostM Unit)
      return .ok ()
  let span := span.set "source" (.text "scan")
  match (← get).loader.loadAll (← Host.tree) with
  | .error f =>
    (Host.finish (span.fail f.text) : HostM Unit)
    return .error f
  | .ok records =>
    onCompiler fun c => ((), c.reset records)
    let (views, fault) ← onCompiler (·.compileAll)
    let span := span.set "views" (.int views.length)
    logFault fault
    markDirty true
    persist
    (Host.finish span : HostM Unit)
    return .ok ()

/-- Renders a compiled view with tags, in the span `render`. -/
def render (name : String) (tags : NameMap String) : EngineM (Except Fault String) := do
  let span : Span := ({ name := "render" } : Span).set "view" (.text name)
  let r := (← onCompiler (·.render name tags)).map (·.lastRender)
  match r with
  | .error f => (Host.finish (span.fail f.text) : HostM Unit)
  | .ok _ => (Host.finish span : HostM Unit)
  return r

/-- Compiles the named views one by one, or every view when none is named, in the span
`compile`: the views compiled and the faults of the others. The state is then marked changed. -/
def compile (names : List String) : EngineM (List Template × Option Fault) := do
  let span : Span := ({ name := "compile" } : Span).set "views" (.texts names)
  let r ← if names.isEmpty then onCompiler (·.compileAll) else do
    let results ← names.mapM fun n => onCompiler (·.compile n)
    let faults := results.filterMap fun r => match r with
      | .error f => some f
      | .ok _ => none
    pure (results.filterMap (·.toOption), Fault.join faults)
  (Host.finish (match r.2 with
    | some f => span.fail f.text
    | none => span) : HostM Unit)
  markDirty true
  return r

/-- The state as cache text; the state then counts as matching the cache. -/
def getCache : EngineM String := do
  let data ← encoded
  markDirty false
  return data

/-- Removes the stored cache. -/
def clearCache : EngineM (Except Fault Unit) :=
  onStore CacheStore.clear

/-- Where the cache is stored. -/
def location : EngineM String := do
  return (← get).store.location

/-- How a known template relates to the others. -/
def dependencies (name : String) : EngineM (Except Fault Dependencies) := do
  let snap := (← get).compiler.snapshot
  if !snap.templates.contains name then
    return .error (((Fault.condition .templateNotFound).wrap "cannot describe view").about "view" name)
  let g := snap.graph
  return .ok ⟨name, g.dependenciesOf name, g.dependentsOf name, g.cascade name⟩

/-- The names of every known template, sorted. -/
def views : EngineM (List String) := do
  return (← get).compiler.snapshot.templateNames

/-- Closes the store. -/
def close : EngineM Unit :=
  onStore fun s => do return ((), ← s.close)

end Engine

end Stencil

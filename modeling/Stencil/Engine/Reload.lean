import Stencil.Engine.Basic
import Stencil.Watch.Notify
/-!
# Reloading changed templates

A changed template file is read again once it can be opened: a file or a directory at the path.
The wait probes the path up to the number of attempts the settings allow (at least one), pausing
one interval between consecutive probes and never after the last, and ends at the first probe
that succeeds.
The new template replaces the stored one. When it replaces a compiled view whose text changed,
that view and every view in its cascade are compiled again; otherwise only the view itself is.

A batch reloads paths in order. Each failure is logged and the batch goes on; each success logs
the views it recompiled, and the batch answers how many paths succeeded.

While templates are watched, the changes of a burst become one batch: the paths written or
created, each once, in sorted order; a removed or renamed template keeps its last version. When
any path of the batch reloaded, the state is written to the cache.
-/

namespace Stencil

namespace Engine

/-- The fault of a template that could not be opened in the attempts allowed. -/
def unreadable (path : String) : Fault :=
  ((Fault.condition .reloadTimeout).wrap "template stayed unreadable").about "path" path

/-- Whether a path can be opened: a file or a directory is there. -/
def readable (t : FileTree) (path : String) : Bool :=
  match t.entry path with
  | .file _ | .directory => true
  | _ => false

/-- One step of a wait for a readable template. -/
inductive WaitStep where
  /-- A look at the path. -/
  | probe
  /-- A pause of one interval. -/
  | pause
deriving DecidableEq, Repr

/-- Waits for a readable template with at most `attempts` probes, the `i`-th probe (from zero)
answering `ready i`: the steps taken, and whether a probe succeeded. -/
def waitSteps (attempts : Nat) (ready : Nat → Bool) : List WaitStep × Bool :=
  go 0 attempts
where
  go (i : Nat) : Nat → List WaitStep × Bool
    | 0 => ([], false)
    | k + 1 =>
      if ready i then ([.probe], true)
      else if k = 0 then ([.probe], false)
      else
        let (steps, ok) := go (i + 1) k
        (.probe :: .pause :: steps, ok)

/-- The probes a wait allows under the settings: the attempts set, and at least one. -/
def waitAttempts (w : WatchSettings) : Nat := max 1 w.attempts.toNat

/-- Reloads the template at a path, in the span `reload`: the views compiled again, and the
fault that stopped the reload or that some view met. -/
def reload (path : String) : EngineM (List Template × Option Fault) := do
  let span : Span := ({ name := "reload" } : Span).set "path" (.text path)
  let (r, span) ← reloadIn span
  (Host.finish (match r.2 with
    | some f => span.fail f.text
    | none => span) : HostM Unit)
  return r
where
  reloadIn (span : Span) : EngineM ((List Template × Option Fault) × Span) := do
    let t ← Host.tree
    let attempts := waitAttempts (← get).config.watch
    if !(waitSteps attempts fun _ => readable t path).2 then
      return (([], some (unreadable path)), span)
    match (← get).loader.load t path with
    | .error f => return (([], some f), span)
    | .ok rec =>
      let span := span.set "view" (.text rec.name)
      match ← onCompiler (·.reload rec) with
      | .ok r => return (r, span)
      | .error f => return (([], some f), span)

/-- Reloads paths in order, logging each failure and each view recompiled; how many paths
reloaded without a fault. -/
def reloadBatch (paths : List String) : EngineM Nat :=
  paths.foldlM (fun ok path => do
    match ← reload path with
    | (_, some f) =>
      logFault (some f)
      return ok
    | (views, none) =>
      for v in views do
        (Host.info ("recompiled " ++ v.name) : HostM Unit)
      return ok + 1) 0

/-- The paths a burst of changes reloads: those written or created, each once, sorted. -/
def reloadPaths (changes : List Watch.Change) : List String :=
  ((changes.filter fun c => c.kind == .write || c.kind == .create).map (·.path)).eraseDups.mergeSort
    fun a b => decide (a ≤ b)

/-- Handles a burst of changes: reloads its paths and, when any reloaded, writes the cache,
warning when that fails; whether the cache was written. -/
def settle (changes : List Watch.Change) : EngineM Bool := do
  if (← reloadBatch (reloadPaths changes)) == 0 then return false
  markDirty true
  match ← updateCache with
  | .ok () => return true
  | .error f =>
    (Host.warn ("view cache not written: " ++ f.text) : HostM Unit)
    return false

end Engine

end Stencil

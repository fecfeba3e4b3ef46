import Stencil.Data.PatternSort
import Stencil.Graph
import Stencil.Template.Record
/-!
# Snapshots and view caches

A snapshot is the published state of the engine: the template store, the compiled views and the
dependency graph. A view cache is the same state as plain lists, as it is written to disk; a
normalised cache has its records in name order.
-/

namespace Stencil

/-- The template store, the compiled views and the dependency graph. -/
structure Snapshot where
  templates : NameMap Template
  compiled : NameMap Template
  graph : DependencyGraph
deriving Inhabited

/-- The persisted form of a snapshot. -/
structure ViewCache where
  templates : List Template
  compiled : List Template
  dependencies : NameMap (List String)
deriving Inhabited

namespace ViewCache

/-- The cache holding nothing. -/
def empty : ViewCache := ⟨[], [], NameMap.empty⟩

/-- Sorts records by logical name with the unstable pattern-defeating quicksort: records of one
name come out in the order it leaves them in. -/
def sortRecords (rs : List Template) : List Template :=
  (PatternSort.sort (fun a b => decide (a.name < b.name)) rs.toArray).toList

/-- The cache with its records in name order. -/
def normalized (c : ViewCache) : ViewCache :=
  { c with templates := sortRecords c.templates, compiled := sortRecords c.compiled }

/-- The snapshot a cache describes; of two records of one name the later wins. -/
def toSnapshot (c : ViewCache) : Snapshot where
  templates := NameMap.ofList (c.templates.map fun t => (t.name, t))
  compiled := NameMap.ofList (c.compiled.map fun t => (t.name, t))
  graph := DependencyGraph.ofEntries c.dependencies

end ViewCache

namespace Snapshot

/-- The snapshot holding nothing. -/
def empty : Snapshot := ⟨NameMap.empty, NameMap.empty, DependencyGraph.empty⟩

/-- The template names, in order. -/
def templateNames (s : Snapshot) : List String :=
  s.templates.keys

/-- The snapshot as a cache, records in name order. -/
def toCache (s : Snapshot) : ViewCache where
  templates := s.templates.values
  compiled := s.compiled.values
  dependencies := s.graph.edges

end Snapshot

end Stencil

import Stencil.Data.NameMap
/-!
# The dependency graph

For every compiled view the graph records, in the order they were found, the shared views it
includes (its layouts and partials), each once. A reverse index answers which views include a
name without reading every list: each view that includes something gets a numeric id the first
time, kept both ways (name to id, and id to name by position), and each included name keeps the
set of ids of the views that include it; a set that empties is dropped. The views that include a
name are read off that set and listed in name order. The *cascade* of a name is every view that
includes it directly or through other views, found breadth first: these are the views to rebuild
when the name changes.

Graphs are values: a copy of a graph is the graph itself, and changing one never changes another.
-/

namespace Stencil

/-- Puts an id into an increasing list of ids, unless it is there. -/
def insertId (i : UInt32) : List UInt32 → List UInt32
  | [] => [i]
  | j :: js => if i < j then i :: j :: js else if i = j then j :: js else j :: insertId i js

/-- What an insertion puts in a list of ids is the id or what was there. -/
theorem mem_insertId {i k : UInt32} : ∀ {js : List UInt32}, k ∈ insertId i js → k = i ∨ k ∈ js
  | [], h => by simpa [insertId] using h
  | j :: js, h => by
    simp only [insertId] at h
    split at h
    · simpa using h
    · split at h
      · exact .inr h
      · rcases List.mem_cons.1 h with h | h
        · exact .inr (h ▸ List.mem_cons_self)
        · rcases mem_insertId h with h | h
          · exact .inl h
          · exact .inr (List.mem_cons_of_mem _ h)

/-- Inserting an id keeps a list of ids increasing. -/
theorem insertId_increasing (i : UInt32) :
    ∀ {js : List UInt32}, js.Pairwise (· < ·) → (insertId i js).Pairwise (· < ·)
  | [], _ => by simp [insertId]
  | j :: js, h => by
    have hjs := List.pairwise_cons.1 h
    simp only [insertId]
    split
    · rename_i hij
      exact List.Pairwise.cons (fun k hk => (List.mem_cons.1 hk).elim (· ▸ hij)
        fun hk => UInt32.lt_trans hij (hjs.1 k hk)) h
    · split
      · exact h
      · rename_i hij hne
        have hji : j < i := by
          rw [← UInt32.toNat_inj] at hne
          simp only [UInt32.lt_iff_toNat_lt] at hij ⊢
          omega
        exact List.Pairwise.cons (fun k hk => (mem_insertId hk).elim (· ▸ hji) (hjs.1 k))
          (insertId_increasing i hjs.2)

/-- A set of view ids, listed in increasing order. -/
structure IdSet where
  toList : List UInt32
  increasing : toList.Pairwise (· < ·)

namespace IdSet

/-- The set with no ids. -/
def empty : IdSet := ⟨[], .nil⟩

/-- The set with `i` added. -/
def insert (s : IdSet) (i : UInt32) : IdSet :=
  ⟨insertId i s.toList, insertId_increasing i s.increasing⟩

/-- The set without `i`. -/
def erase (s : IdSet) (i : UInt32) : IdSet :=
  ⟨s.toList.filter (· != i), s.increasing.filter _⟩

/-- Whether the set has no ids. -/
def isEmpty (s : IdSet) : Bool :=
  s.toList.isEmpty

end IdSet

/-- For every view, the views it includes, in the order found, each once; and the reverse index:
for every included name the ids of the views that include it, every such view's id, and the
name of every id at its position. -/
structure DependencyGraph where
  edges : NameMap (List String)
  dependents : NameMap IdSet
  ids : NameMap UInt32
  names : List String

instance : Inhabited DependencyGraph := ⟨⟨.empty, .empty, .empty, []⟩⟩

namespace DependencyGraph

/-- The graph with no views. -/
def empty : DependencyGraph := ⟨.empty, .empty, .empty, []⟩

/-- The views `view` includes. -/
def dependenciesOf (g : DependencyGraph) (view : String) : List String :=
  (g.edges.find? view).getD []

/-- The id of a view, given the next free id when it has none. -/
def intern (g : DependencyGraph) (name : String) : UInt32 × DependencyGraph :=
  match g.ids.find? name with
  | some id => (id, g)
  | none =>
    let id := g.names.length.toUInt32
    (id, { g with ids := g.ids.insert name id, names := g.names ++ [name] })

/-- Records that `view` includes `dep`, unless it already does. -/
def add (g : DependencyGraph) (view dep : String) : DependencyGraph :=
  let deps := g.dependenciesOf view
  if deps.contains dep then g
  else
    let g := { g with edges := g.edges.insert view (deps ++ [dep]) }
    let bm := (g.dependents.find? dep).getD .empty
    let (id, g) := g.intern view
    { g with dependents := g.dependents.insert dep (bm.insert id) }

/-- Takes the view of id `id` out of the views including `dep`, forgetting `dep` when no view
is left. -/
def release (g : DependencyGraph) (id : UInt32) (dep : String) : DependencyGraph :=
  match g.dependents.find? dep with
  | none => g
  | some bm =>
    let bm := bm.erase id
    { g with dependents := if bm.isEmpty then g.dependents.erase dep
                           else g.dependents.insert dep bm }

/-- Forgets what `view` includes: its id leaves the reverse index of everything it included,
and its list empties, which still records the view. -/
def detach (g : DependencyGraph) (view : String) : DependencyGraph :=
  let g := match g.ids.find? view with
    | some id => (g.dependenciesOf view).foldl (fun (g : DependencyGraph) dep => g.release id dep) g
    | none => g
  { g with edges := g.edges.insert view [] }

/-- Replaces what `view` includes by `deps`, dropping repeats. -/
def set (g : DependencyGraph) (view : String) (deps : List String) : DependencyGraph :=
  deps.foldl (fun g d => g.add view d) (g.detach view)

/-- The graph of an adjacency map, its views set in name order. -/
def ofEntries (m : NameMap (List String)) : DependencyGraph :=
  m.entries.foldl (fun g (v, ds) => g.set v ds) empty

/-- The views that include `name` directly, in name order. -/
def dependentsOf (g : DependencyGraph) (name : String) : List String :=
  match g.dependents.find? name with
  | none => []
  | some bm => (bm.toList.filterMap fun id => g.names[id.toNat]?).mergeSort fun a b => decide (a ≤ b)

/-- The views of the graph, in name order. -/
def views (g : DependencyGraph) : List String :=
  g.edges.keys

/-- The number of views. -/
def size (g : DependencyGraph) : Nat :=
  g.edges.size

/-- Breadth-first search from the front of `queue`, every name already found in `seen`, the
names found so far in `found`; `fuel` bounds the names taken from the queue. -/
def search (g : DependencyGraph) : Nat → List String → List String → List String → List String
  | 0, _, _, found => found
  | _ + 1, [], _, found => found
  | fuel + 1, current :: queue, seen, found =>
    let fresh := (g.dependentsOf current).filter fun d => !seen.contains d
    g.search fuel (queue ++ fresh) (seen ++ fresh) (found ++ fresh)

/-- Every view that includes `name` directly or through other views, breadth first, each once.
Every name taken from the queue is `name` or a view found once, so one more than the number of
views is enough. -/
def cascade (g : DependencyGraph) (name : String) : List String :=
  g.search (g.size + 1) [name] [name] []

end DependencyGraph

end Stencil

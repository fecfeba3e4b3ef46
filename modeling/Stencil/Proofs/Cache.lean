import Stencil.Proofs.Incremental
import Stencil.Proofs.Sort.Quick
/-!
# Caches round-trip through snapshots

A view cache is a snapshot written as lists: the templates and the compiled views, and the lists
of inclusions of the graph. Reading a cache back builds maps keyed by name and a new dependency
graph, whose reverse index gives out ids afresh. Two round trips hold (`cache_round_trip`):

* a cache whose record lists name each record once, and whose lists of inclusions have no
  repeats, reads back into the same cache up to the order of its records, which `normalized`
  puts in name order (`toSnapshot_toCache_normalized`);
* a compiler that restores the cache of a compiler a program reached serves what that compiler
  served: the same cache, the same templates, the same compiled views but for their last render,
  which the cache carries inside them, and the same inclusions, dependents and cascades, although
  the ids of its graph may differ (`restore_serves_same`).

Records are sorted by the pattern-defeating quicksort, which is unstable; on records of distinct
names it has one possible result, the records in strict name order (`sortRecords_eq_of_perm`).
-/

namespace Stencil

namespace ViewCache

open PatternSort

/-! ### Sorting records -/

/-- Comparing records by name is a strict weak order. -/
lemma nameOrder_strictWeak : StrictWeak fun a b : Template => decide (a.name < b.name) where
  irrefl x := by simp
  trans hxy hyz := by
    simp only [decide_eq_true_eq] at hxy hyz ⊢
    exact lt_trans hxy hyz
  not_trans hxy hyz := by
    simp only [decide_eq_true_eq, not_lt] at hxy hyz ⊢
    exact le_trans hyz hxy

/-- Sorting records permutes them into name order. -/
lemma sortRecords_spec (rs : List Template) :
    (sortRecords rs).Perm rs ∧ (sortRecords rs).Pairwise fun a b => a.name ≤ b.name := by
  obtain ⟨hperm, hsorted⟩ := sort_spec nameOrder_strictWeak rs.toArray
  exact ⟨hperm.toList, hsorted.imp fun h => not_lt.1 fun h' => h (decide_eq_true h')⟩

/-- Records of distinct names come out in strict name order. -/
lemma sortRecords_strict {rs : List Template} (hnd : (rs.map (·.name)).Nodup) :
    (sortRecords rs).Pairwise fun a b => a.name < b.name := by
  obtain ⟨hperm, hsorted⟩ := sortRecords_spec rs
  have hnd' : ((sortRecords rs).map (·.name)).Nodup := (hperm.map (·.name)).nodup_iff.2 hnd
  have hne : (sortRecords rs).Pairwise fun a b => a.name ≠ b.name := List.pairwise_map.1 hnd'
  exact (hsorted.and hne).imp fun h => lt_of_le_of_ne h.1 h.2

/-- On records of distinct names the sort has one possible result: the records in strict name
order. -/
lemma sortRecords_eq_of_perm {rs ss : List Template} (hnd : (rs.map (·.name)).Nodup)
    (hperm : ss.Perm rs) (hss : ss.Pairwise fun a b => a.name < b.name) : sortRecords rs = ss := by
  -- Records of one name are the same record, the names being distinct.
  have htie : ∀ x ∈ rs.toArray.toList, ∀ y ∈ rs.toArray.toList,
      ¬ decide (x.name < y.name) = true → ¬ decide (y.name < x.name) = true → x = y := by
    intro x hx y hy hxy hyx
    simp only [decide_eq_true_eq, not_lt] at hxy hyx
    exact List.inj_on_of_nodup_map hnd hx hy (le_antisymm hyx hxy)
  have hsort : sort (fun a b : Template => decide (a.name < b.name)) rs.toArray = ss.toArray :=
    sort_eq_of_perm nameOrder_strictWeak htie (by simpa [Array.perm_iff_toList_perm] using hperm)
      (by simpa using hss.imp fun h => lt_asymm h)
  rw [sortRecords, hsort, List.toList_toArray]

lemma sortRecords_sortRecords {rs : List Template} (hnd : (rs.map (·.name)).Nodup) :
    sortRecords (sortRecords rs) = sortRecords rs :=
  sortRecords_eq_of_perm (((sortRecords_spec rs).1.map (·.name)).nodup_iff.2 hnd) (.refl _)
    (sortRecords_strict hnd)

/-- Records of distinct names, read into a map by name, are listed back sorted. -/
lemma values_ofList_named {rs : List Template} (hnd : (rs.map (·.name)).Nodup) :
    (NameMap.ofList (rs.map fun t => (t.name, t))).values = sortRecords rs := by
  have hkeys : ((rs.map fun t => (t.name, t)).map Prod.fst).Nodup := by
    rwa [List.map_map]
  have hperm := NameMap.entries_ofList_perm hkeys
  -- Every entry is a record under its own name.
  have hnamed : ∀ p ∈ (NameMap.ofList (rs.map fun t => (t.name, t))).entries, p.1 = p.2.name := by
    intro p hp
    obtain ⟨t, -, rfl⟩ := List.mem_map.1 (hperm.mem_iff.1 hp)
    rfl
  refine (sortRecords_eq_of_perm hnd ?_ ?_).symm
  · have hid : (rs.map fun t => (t.name, t)).map Prod.snd = rs := by simp [Function.comp_def]
    have h := hperm.map Prod.snd
    rw [hid] at h
    exact h
  · exact List.pairwise_map.2 ((NameMap.ofList _).sorted.imp_of_mem fun ha hb h => by
      rwa [← hnamed _ ha, ← hnamed _ hb])

/-! ### From a cache to a snapshot and back -/

/-- A cache whose record lists name each record once, and whose lists of inclusions have no
repeats, reads back into the same cache up to the order of its records. The lists of inclusions
form a map, each view once and in name order, as every map of names is kept. -/
lemma toSnapshot_toCache_normalized (c : ViewCache) (ht : (c.templates.map (·.name)).Nodup)
    (hc : (c.compiled.map (·.name)).Nodup)
    (hd : ∀ v ds, (v, ds) ∈ c.dependencies.entries → ds.Nodup) :
    c.toSnapshot.toCache.normalized = c.normalized := by
  simp only [normalized, toSnapshot, Snapshot.toCache, values_ofList_named ht,
    values_ofList_named hc, sortRecords_sortRecords ht, sortRecords_sortRecords hc,
    DependencyGraph.edges_ofEntries hd]

end ViewCache

/-! ### Restoring the cache of a compiler -/

@[simp] lemma Template.withRender_empty (v : Template) : v.withRender .empty = v := rfl

namespace Compiler

open Snapshot

/-- Every compiler a program reaches has consistent registries. -/
lemma Reachable.consistent {c : Compiler} (h : c.Reachable) : c.snapshot.Consistent := by
  induction h with
  | new => exact Consistent.empty
  | perform op _ ih => exact ih.perform op
  | restore _ _ _ ih' => exact Consistent.restore _ ih'

/-- Every compiler a program reaches holds a graph a program can build. -/
lemma Reachable.graph {c : Compiler} (h : c.Reachable) : c.snapshot.graph.Reachable := by
  induction h with
  | new => exact .empty
  | @perform c op _ ih =>
    rcases perform_cases c op with ⟨records, -, h⟩ | ⟨rec, h⟩ | ⟨names, -, h⟩ | ⟨-, h⟩
    · rw [h]
      exact .empty
    · rw [h]
      dsimp only
      rw [(replace_cases c rec).2.1]
      exact ih
    · rw [h, compileEach_snapshot]
      exact foldl_compileStep_reachable names _ ih
    · rw [h]
      exact ih
  | restore _ _ _ _ => exact .ofEntries _

variable {c : Compiler}

/-- A compiler that restores the cache of a compiler a program reached, with fewer than `2 ^ 32`
views in its graph, serves the same cache, the same templates, the same compiled views with the
last render the cache put in them, and the same inclusions, dependents and cascades. -/
lemma restore_serves_same (hc : c.Reachable) (hlen : c.snapshot.graph.views.length < 2 ^ 32)
    (c0 : Compiler) :
    (c0.restore c.viewCache).viewCache = c.viewCache ∧
    (c0.restore c.viewCache).snapshot.templates = c.snapshot.templates ∧
    (∀ n, (c0.restore c.viewCache).snapshot.compiled.find? n =
      (c.snapshot.compiled.find? n).map (Template.withRender c.renders)) ∧
    (∀ n, (c0.restore c.viewCache).snapshot.graph.dependenciesOf n =
      c.snapshot.graph.dependenciesOf n) ∧
    (∀ n, (c0.restore c.viewCache).snapshot.graph.dependentsOf n =
      c.snapshot.graph.dependentsOf n) ∧
    (∀ n, (c0.restore c.viewCache).cascade n = c.cascade n) := by
  have hs := hc.consistent
  have hwf : c.snapshot.graph.WellFormed := hc.graph.wellFormed_of_views hlen
  have hsnap := restore_viewCache c0 c hs
  -- The lists of inclusions come back as they were; the ids may not.
  have hedges : (DependencyGraph.ofEntries c.snapshot.graph.edges).edges = c.snapshot.graph.edges := by
    refine DependencyGraph.edges_ofEntries fun v ds h => ?_
    have hv : c.snapshot.graph.dependenciesOf v = ds := by
      simp [DependencyGraph.dependenciesOf, NameMap.find?_of_mem h]
    exact hv ▸ hwf.nodup v
  have hwf' : (DependencyGraph.ofEntries c.snapshot.graph.edges).WellFormed :=
    (DependencyGraph.Reachable.ofEntries _).wellFormed_of_views
      (by rwa [DependencyGraph.views, hedges])
  refine ⟨?_, by rw [hsnap], fun n => ?_, fun n => ?_, fun n => ?_, fun n => ?_⟩
  · -- The restored compiler has no renders of its own: they sit in its compiled views.
    have hrenders : (c0.restore c.viewCache).renders = .empty := rfl
    rw [viewCache_eq (c0.restore c.viewCache), hsnap, hrenders, viewCache_eq c]
    simp [Snapshot.toCache, NameMap.values, NameMap.map, hedges]
  · rw [hsnap, NameMap.find?_map]
  · rw [hsnap]
    simp only [DependencyGraph.dependenciesOf, hedges]
  · rw [hsnap]
    exact hwf'.dependentsOf_congr hwf hedges n
  · unfold Compiler.cascade
    rw [hsnap]
    exact hwf'.cascade_congr hwf hedges n

end Compiler

/-- Caches round-trip through snapshots. A cache whose record lists name each record once and
whose lists of inclusions, a map of views, have no repeats reads back into the same cache up to
the order of its records. A compiler restoring the cache of any compiler a program reached, with
fewer than `2 ^ 32` views in its graph, serves the same cache, templates, compiled views (their
last render kept inside them), inclusions, dependents and cascades. -/
theorem cache_round_trip :
    (∀ c : ViewCache, (c.templates.map (·.name)).Nodup → (c.compiled.map (·.name)).Nodup →
      (∀ v ds, (v, ds) ∈ c.dependencies.entries → ds.Nodup) →
        c.toSnapshot.toCache.normalized = c.normalized) ∧
    ∀ c : Compiler, c.Reachable → c.snapshot.graph.views.length < 2 ^ 32 → ∀ c0 : Compiler,
      (c0.restore c.viewCache).viewCache = c.viewCache ∧
      (c0.restore c.viewCache).snapshot.templates = c.snapshot.templates ∧
      (∀ n, (c0.restore c.viewCache).snapshot.compiled.find? n =
        (c.snapshot.compiled.find? n).map (Template.withRender c.renders)) ∧
      (∀ n, (c0.restore c.viewCache).snapshot.graph.dependenciesOf n =
        c.snapshot.graph.dependenciesOf n) ∧
      (∀ n, (c0.restore c.viewCache).snapshot.graph.dependentsOf n =
        c.snapshot.graph.dependentsOf n) ∧
      (∀ n, (c0.restore c.viewCache).cascade n = c.cascade n) :=
  ⟨ViewCache.toSnapshot_toCache_normalized, fun _ hc hlen c0 => Compiler.restore_serves_same hc hlen c0⟩

/-- A cache of two templates out of name order, one of them compiled and including the other,
reads back into its normalised form. A compiler reset to a page and its layout, that compiled
everything and rendered the page, has a compiled view with a dependency and a last render; a new
compiler restoring its cache serves the same cache, templates and cascades. -/
theorem cache_round_trip_two_views :
    let cache : ViewCache :=
      ⟨[Template.ofText "Home/Index" "<p>Home</p>", Template.ofText "About" "<p>About</p>"],
        [Template.ofText "Home/Index" "<p>Home</p>"],
        ⟨[("Home/Index", ["About"])], List.pairwise_singleton _ _⟩⟩
    let c : Compiler :=
      ((((({ handlers := Handlers.defaults (BundleSettings.make none false "") none } : Compiler).perform
        (.reset [Template.ofText "Shared/Layout" "<body>%%View%%</body>",
          Template.ofText "Home/Index" "%%Master=Layout%%<p>Hi</p>"])).2.perform .compileAll).2.perform
        (.render "Home/Index" .empty)).2)
    cache.toSnapshot.toCache.normalized = cache.normalized ∧
      c.Reachable ∧ c.snapshot.graph.views.length < 2 ^ 32 ∧
      c.snapshot.graph.dependenciesOf "Home/Index" = ["Shared/Layout"] ∧
      c.renders.find? "Home/Index" = some "<body><p>Hi</p></body>" ∧
      ∀ c0 : Compiler, (c0.restore c.viewCache).viewCache = c.viewCache ∧
        (c0.restore c.viewCache).snapshot.templates = c.snapshot.templates ∧
        ∀ n, (c0.restore c.viewCache).cascade n = c.cascade n := by
  intro cache c
  have hc : c.Reachable := .perform _ (.perform _ (.perform _ (.new _ 8 0)))
  have hlen : c.snapshot.graph.views.length < 2 ^ 32 := by decide +kernel
  refine ⟨cache_round_trip.1 _ (by decide) (by decide) (fun v ds h => by simp [cache] at h; simp [h.2]), hc,
    hlen, by decide +kernel, by decide +kernel, fun c0 => ?_⟩
  obtain ⟨hcache, htemplates, -, -, -, hcascade⟩ := cache_round_trip.2 c hc hlen c0
  exact ⟨hcache, htemplates, hcascade⟩

end Stencil

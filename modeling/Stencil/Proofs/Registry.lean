import Stencil.Compiler.Render
import Stencil.Proofs.Compile
/-!
# The registries stay consistent over every run

A compiler keeps three registries in one snapshot: the templates, the compiled views and the
dependency graph. `Snapshot.Consistent` says they agree: every record sits under its own name,
every compiled view is a template, the graph's views are exactly the compiled views that are not
fragments, and every dependency is a template. Every operation keeps it, from a new compiler on
and through restoring a cache taken from such a state (`registries_consistent`).

Every writer but `reset` moreover keeps what was compiled: each compiled view stays compiled, and
its compiled text changes only when the writer compiled that very view and says so
(`KeepsCompiled`). A writer that fails thus leaves every view it did not compile servable as it
was.

The writers that compile many views run one step per name over a workspace whose templates never
change, so the outcome for each name is the outcome of compiling it against those templates
(`foldl_compileStep_compiled`, `foldl_compileStep_dependenciesOf`).
-/

namespace Stencil

/-! ### Storing compiled views -/

namespace Workspace

variable {ws : Workspace} {name : String} {v : Template} {deps : Option (List String)}

@[simp] lemma store_templates : (ws.store name v deps).snapshot.templates = ws.snapshot.templates :=
  rfl

@[simp] lemma store_compiled :
    (ws.store name v deps).snapshot.compiled = ws.snapshot.compiled.insert name v := rfl

lemma store_graph :
    (ws.store name v deps).snapshot.graph =
      match deps with
      | some ds => ws.snapshot.graph.set name ds
      | none => ws.snapshot.graph := rfl

@[simp] lemma store_names : (ws.store name v deps).names = ws.names := rfl

/-- A workspace is in step when its names are the names of its store, in order: its look-ups
then scan the store's own names. -/
def Synced (ws : Workspace) : Prop :=
  ws.names = ws.snapshot.templates.keys

lemma Synced.scope_eq (h : ws.Synced) : ws.scope = ws.snapshot.templates := by
  unfold scope
  rw [h]

/-- The names of a workspace in step strictly increase. -/
lemma Synced.names_sorted (h : ws.Synced) : ws.names.Pairwise (· < ·) :=
  h ▸ ws.snapshot.templates.keys_sorted

lemma Synced.store (h : ws.Synced) : (ws.store name v deps).Synced := h

end Workspace

lemma Compiler.begin_synced (c : Compiler) : c.begin.Synced := rfl

/-- The compiled record a compile leaves for a view, given the one before. -/
def compiledAfter (r : Except Fault (Template × Option (List String))) (old : Option Template) :
    Option Template :=
  match r with
  | .ok (v, _) => some v
  | .error _ => old

/-- The dependencies a compile leaves for a view, given those before. -/
def depsAfter (r : Except Fault (Template × Option (List String))) (old : List String) :
    List String :=
  match r with
  | .ok (_, some ds) => ds
  | _ => old

@[simp] lemma compiledAfter_ok (v : Template) (deps : Option (List String)) (old : Option Template) :
    compiledAfter (.ok (v, deps)) old = some v := rfl

@[simp] lemma compiledAfter_error (e : Fault) (old : Option Template) :
    compiledAfter (.error e) old = old := rfl

@[simp] lemma depsAfter_ok (v : Template) (deps : Option (List String)) (old : List String) :
    depsAfter (.ok (v, deps)) old = deps.getD old := by
  cases deps <;> rfl

@[simp] lemma depsAfter_error (e : Fault) (old : List String) : depsAfter (.error e) old = old := rfl

namespace Compiler

section Steps

variable {h : Handlers} {md : Int} {T : NameMap Template}

lemma compileStep_eq (s : List Template × List Fault × Workspace) (n : String) :
    compileStep h md s n =
      match compileTemplate h md s.2.2.scope n with
      | .error e => (s.1, s.2.1 ++ [e], s.2.2)
      | .ok (v, deps) => (s.1 ++ [v], s.2.1, s.2.2.store n v deps) := by
  obtain ⟨vs, fs, ws⟩ := s
  simp only [compileStep, compileView]
  cases compileTemplate h md ws.scope n <;> rfl

lemma compileStep_templates (s : List Template × List Fault × Workspace) (n : String) :
    (compileStep h md s n).2.2.snapshot.templates = s.2.2.snapshot.templates := by
  rw [compileStep_eq]
  split <;> rfl

lemma compileStep_scope (s : List Template × List Fault × Workspace) (n : String) :
    (compileStep h md s n).2.2.scope = s.2.2.scope := by
  rw [compileStep_eq]
  split <;> rfl

lemma compileStep_synced {s : List Template × List Fault × Workspace} (hs : s.2.2.Synced)
    (n : String) : (compileStep h md s n).2.2.Synced := by
  rw [compileStep_eq]
  split
  · exact hs
  · exact hs.store

lemma foldl_compileStep_templates (names : List String) :
    ∀ s : List Template × List Fault × Workspace,
      (names.foldl (compileStep h md) s).2.2.snapshot.templates = s.2.2.snapshot.templates := by
  induction names with
  | nil => exact fun _ => rfl
  | cons n names ih => exact fun s => (ih _).trans (compileStep_templates s n)

/-- The views a run of steps reports are those of its names that compile, in order. -/
lemma foldl_compileStep_views (names : List String) :
    ∀ s : List Template × List Fault × Workspace, s.2.2.scope = T →
      (names.foldl (compileStep h md) s).1 =
        s.1 ++ names.filterMap fun n => ((compileTemplate h md T n).toOption).map Prod.fst := by
  induction names with
  | nil => simp
  | cons n names ih =>
    intro s hT
    rw [List.foldl_cons, ih _ ((compileStep_scope s n).trans hT), compileStep_eq, hT]
    cases hr : compileTemplate h md T n <;> simp [Except.toOption, hr]

/-- After a run of steps a view holds the record of its own compile when it is among the names and
compiles, and the record it had before otherwise. -/
lemma foldl_compileStep_compiled (names : List String) (x : String) :
    ∀ s : List Template × List Fault × Workspace, s.2.2.scope = T →
      (names.foldl (compileStep h md) s).2.2.snapshot.compiled.find? x =
        if x ∈ names then compiledAfter (compileTemplate h md T x) (s.2.2.snapshot.compiled.find? x)
        else s.2.2.snapshot.compiled.find? x := by
  induction names with
  | nil => simp
  | cons n names ih =>
    intro s hT
    rw [List.foldl_cons, ih _ ((compileStep_scope s n).trans hT), compileStep_eq, hT]
    by_cases hx : x = n
    · subst hx
      cases compileTemplate h md T x <;> simp [compiledAfter]
    · have hne : n ≠ x := Ne.symm hx
      cases compileTemplate h md T n <;> simp [hx, hne]

/-- After a run of steps a view includes what its own compile recorded when it is among the names
and compiles as no fragment, and what it included before otherwise. -/
lemma foldl_compileStep_dependenciesOf (hT : OwnNamed T) (names : List String) (x : String) :
    ∀ s : List Template × List Fault × Workspace, s.2.2.scope = T →
      (names.foldl (compileStep h md) s).2.2.snapshot.graph.dependenciesOf x =
        if x ∈ names then depsAfter (compileTemplate h md T x) (s.2.2.snapshot.graph.dependenciesOf x)
        else s.2.2.snapshot.graph.dependenciesOf x := by
  induction names with
  | nil => simp
  | cons n names ih =>
    intro s hT'
    rw [List.foldl_cons, ih _ ((compileStep_scope s n).trans hT'), compileStep_eq, hT']
    by_cases hx : x = n
    · subst hx
      rcases hr : compileTemplate h md T x with e | ⟨v, _ | ds⟩
      · simp [depsAfter]
      · simp [depsAfter, Workspace.store_graph]
      · -- A compile records each dependency once, so the graph keeps the list as it is.
        have hnd := (compileTemplate_deps hT hr).1
        simp [depsAfter, Workspace.store_graph, DependencyGraph.dependenciesOf_set_of_nodup hnd]
    · rcases compileTemplate h md T n with e | ⟨v, _ | ds⟩
      · simp [hx]
      · simp [hx, Workspace.store_graph]
      · simp [hx, Workspace.store_graph, DependencyGraph.dependenciesOf_set_ne hx]

end Steps

/-- A run of many compiles publishes the workspace its steps leave, and reports the views they
compiled. -/
lemma compileEach_snapshot (c : Compiler) (names : List String) :
    (c.compileEach names).2.snapshot =
      (names.foldl (compileStep c.handlers c.maxDepth) ([], [], c.begin)).2.2.snapshot := rfl

lemma compileEach_views (c : Compiler) (names : List String) :
    (c.compileEach names).1.1 =
      names.filterMap fun n => ((compileTemplate c.handlers c.maxDepth c.snapshot.templates n).toOption).map Prod.fst := by
  change (names.foldl (compileStep c.handlers c.maxDepth) ([], [], c.begin)).1 = _
  rw [foldl_compileStep_views names ([], [], c.begin) rfl]
  rfl

/-- After a run of compiles a view holds the record of its own compile when it is among the names
and compiles, and the record it had before otherwise. -/
lemma compileEach_find? (c : Compiler) (names : List String) (x : String) :
    (c.compileEach names).2.snapshot.compiled.find? x =
      if x ∈ names then
        compiledAfter (compileTemplate c.handlers c.maxDepth c.snapshot.templates x)
          (c.snapshot.compiled.find? x)
      else c.snapshot.compiled.find? x :=
  foldl_compileStep_compiled names x ([], [], c.begin) rfl

/-- After a run of compiles a view includes what its own compile recorded when it is among the
names and compiles as no fragment, and what it included before otherwise. -/
lemma compileEach_dependenciesOf (c : Compiler) (hT : OwnNamed c.snapshot.templates)
    (names : List String) (x : String) :
    (c.compileEach names).2.snapshot.graph.dependenciesOf x =
      if x ∈ names then
        depsAfter (compileTemplate c.handlers c.maxDepth c.snapshot.templates x)
          (c.snapshot.graph.dependenciesOf x)
      else c.snapshot.graph.dependenciesOf x :=
  foldl_compileStep_dependenciesOf hT names x ([], [], c.begin) rfl

/-- A single compile publishes what a run of compiles over its one name publishes. -/
lemma compile_snapshot (c : Compiler) (name : String) :
    (c.compile name).2.snapshot = (c.compileEach [name]).2.snapshot := by
  simp only [compile, compileEach, List.foldl, compileStep]
  cases compileView c.handlers c.maxDepth c.begin name <;> rfl

end Compiler

/-! ### The registry invariant -/

namespace Snapshot

/-- The registries of a snapshot agree with each other. -/
structure Consistent (s : Snapshot) : Prop where
  /-- Every template sits under its own name. -/
  templates_named : OwnNamed s.templates
  /-- Every compiled view sits under its own name. -/
  compiled_named : OwnNamed s.compiled
  /-- Every compiled view is a template. -/
  compiled_templates : ∀ n ∈ s.compiled.keys, n ∈ s.templates.keys
  /-- The graph holds exactly the compiled views that are not fragments. -/
  views : ∀ n, n ∈ s.graph.views ↔ n ∈ s.compiled.keys ∧ isFragment n = false
  /-- Every view the graph records as included is a template. -/
  deps_templates : ∀ v d, d ∈ s.graph.dependenciesOf v → d ∈ s.templates.keys

lemma Consistent.empty : Snapshot.empty.Consistent where
  templates_named _ _ h := by simp [Snapshot.empty] at h
  compiled_named _ _ h := by simp [Snapshot.empty] at h
  compiled_templates _ h := by simp [Snapshot.empty] at h
  views _ := by simp [Snapshot.empty, DependencyGraph.views, DependencyGraph.empty]
  deps_templates _ _ h := by simp [Snapshot.empty] at h

end Snapshot

open Snapshot

namespace Compiler

/-- Every view compiled in `c` is still compiled in `s'`, and keeps its compiled text unless it
holds the record that compiling that very view in `c` gave and that `done` reports. -/
def KeepsCompiled (c : Compiler) (s' : Snapshot) (done : List Template) : Prop :=
  ∀ n v, c.snapshot.compiled.find? n = some v →
    ∃ v', s'.compiled.find? n = some v' ∧
      (v'.compiled = v.compiled ∨
        v' ∈ done ∧ ∃ deps, compileTemplate c.handlers c.maxDepth c.snapshot.templates n = .ok (v', deps))

lemma KeepsCompiled.refl (c : Compiler) (done : List Template) : KeepsCompiled c c.snapshot done :=
  fun _ v hv => ⟨v, hv, .inl rfl⟩

/-- A run of compiles keeps every compiled view, and changes its compiled text only where it
compiled the view and reports it. -/
lemma keepsCompiled_compileEach (c : Compiler) (names : List String) :
    KeepsCompiled c (c.compileEach names).2.snapshot (c.compileEach names).1.1 := by
  intro n v hv
  rw [compileEach_find?, compileEach_views, hv]
  by_cases hn : n ∈ names
  · rw [if_pos hn]
    cases hr : compileTemplate c.handlers c.maxDepth c.snapshot.templates n with
    | error e => exact ⟨v, rfl, .inl rfl⟩
    | ok r =>
      -- The view's new record is the one its compile reported.
      refine ⟨r.1, rfl, .inr ⟨?_, r.2, rfl⟩⟩
      exact List.mem_filterMap.2 ⟨n, hn, by simp [hr, Except.toOption]⟩
  · rw [if_neg hn]
    exact ⟨v, rfl, .inl rfl⟩

/-- What a replace does: the record joins the store, and a compiled view of its name either stays
as it is or takes the record's text and fingerprint, its compiled text unchanged. -/
lemma replace_cases (c : Compiler) (rec : Template) :
    (c.replace rec).2.snapshot.templates = c.snapshot.templates.insert rec.name rec ∧
    (c.replace rec).2.snapshot.graph = c.snapshot.graph ∧
    ((c.replace rec).2.snapshot.compiled = c.snapshot.compiled ∨
      ∃ old, c.snapshot.compiled.find? rec.name = some old ∧
        (c.replace rec).2.snapshot.compiled = c.snapshot.compiled.insert rec.name
          { old with raw := rec.raw, fingerprint := rec.fingerprint, sourcePath := rec.sourcePath }) := by
  unfold replace
  dsimp only
  split
  · rename_i old hold
    split
    · exact ⟨rfl, rfl, .inr ⟨old, hold, rfl⟩⟩
    · exact ⟨rfl, rfl, .inl rfl⟩
  · exact ⟨rfl, rfl, .inl rfl⟩

@[simp] lemma replace_handlers (c : Compiler) (rec : Template) :
    (c.replace rec).2.handlers = c.handlers := by
  unfold replace; dsimp only; split
  · split <;> rfl
  · rfl

@[simp] lemma replace_maxDepth (c : Compiler) (rec : Template) :
    (c.replace rec).2.maxDepth = c.maxDepth := by
  unfold replace; dsimp only; split
  · split <;> rfl
  · rfl

/-- A replace keeps every compiled view and its compiled text. -/
lemma keepsCompiled_replace (c : Compiler) (rec : Template) (done : List Template) :
    KeepsCompiled c (c.replace rec).2.snapshot done := by
  obtain ⟨-, -, hC | ⟨old, hold, hC⟩⟩ := replace_cases c rec
  · rw [KeepsCompiled, hC]
    exact KeepsCompiled.refl c done
  · intro n v hv
    rw [hC, NameMap.find?_insert]
    split
    · rename_i hn
      subst hn
      rw [hold] at hv
      cases hv
      exact ⟨_, rfl, .inl rfl⟩
    · exact ⟨v, hv, .inl rfl⟩

end Compiler

namespace Snapshot

section Compiles

variable {h : Handlers} {md : Int} {name : String} {v : Template} {deps : Option (List String)}

/-- Storing what a compile against the workspace's own store produced keeps the registries
consistent: a fragment stays out of the graph, any other view enters it with templates only. -/
lemma Consistent.store {ws : Workspace} (hs : ws.snapshot.Consistent)
    (hc : compileTemplate h md ws.snapshot.templates name = .ok (v, deps)) :
    (ws.store name v deps).snapshot.Consistent := by
  obtain ⟨tpl, htpl, hv, hfrag⟩ := compileTemplate_ok hc
  have hname : tpl.name = name := hs.templates_named name tpl htpl
  have hvname : v.name = name := by rw [hv]; exact hname
  have hkey : name ∈ ws.snapshot.templates.keys := NameMap.mem_keys_of_find? htpl
  refine ⟨hs.templates_named, ?_, ?_, ?_, ?_⟩
  · intro k t hk
    rw [Workspace.store_compiled, NameMap.find?_insert] at hk
    split at hk
    · cases hk; rwa [hvname]
    · exact hs.compiled_named k t hk
  · intro n hn
    rw [Workspace.store_compiled, NameMap.mem_keys_insert] at hn
    rcases hn with rfl | hn
    · exact hkey
    · exact hs.compiled_templates n hn
  · intro n
    rw [Workspace.store_compiled, NameMap.mem_keys_insert, Workspace.store_graph]
    cases deps with
    | none =>
      -- A fragment is stored without touching the graph, which never held it.
      have hf : isFragment name = true := by simpa [hname] using hfrag
      by_cases hn : n = name
      · subst hn
        simp only [hs.views, hf, and_false, true_or, Bool.true_eq_false]
      · simp [hs.views, hn]
    | some ds =>
      have hf : isFragment name = false := by simpa [hname] using hfrag
      by_cases hn : n = name
      · subst hn; simp [hf]
      · simp [hs.views, hn]
  · intro w d hd
    rw [Workspace.store_graph] at hd
    cases deps with
    | none => exact hs.deps_templates w d hd
    | some ds =>
      by_cases hw : w = name
      · subst hw
        rw [DependencyGraph.mem_dependenciesOf_set] at hd
        exact (compileTemplate_deps hs.templates_named hc).2 d hd
      · rw [DependencyGraph.dependenciesOf_set_ne hw] at hd
        exact hs.deps_templates w d hd

/-- Every step of a run of compiles keeps the registries consistent. -/
lemma Consistent.foldl_compileStep (names : List String) :
    ∀ s : List Template × List Fault × Workspace, s.2.2.Synced → s.2.2.snapshot.Consistent →
      (names.foldl (Compiler.compileStep h md) s).2.2.snapshot.Consistent := by
  induction names with
  | nil => exact fun _ _ hs => hs
  | cons n names ih =>
    intro s hsync hs
    refine ih _ (Compiler.compileStep_synced hsync n) ?_
    rw [Compiler.compileStep_eq, hsync.scope_eq]
    split
    · exact hs
    · rename_i hc
      exact hs.store hc

lemma Consistent.compileEach {c : Compiler} (hs : c.snapshot.Consistent) (names : List String) :
    (c.compileEach names).2.snapshot.Consistent := by
  rw [Compiler.compileEach_snapshot]
  exact Consistent.foldl_compileStep names _ c.begin_synced hs

end Compiles

/-- A replace keeps the registries consistent. -/
lemma Consistent.replace {c : Compiler} (hs : c.snapshot.Consistent) (rec : Template) :
    (c.replace rec).2.snapshot.Consistent := by
  obtain ⟨hT, hG, hC⟩ := Compiler.replace_cases c rec
  -- The compiled registry keeps its names, whichever way the replace went.
  have hkeys : (c.replace rec).2.snapshot.compiled.keys = c.snapshot.compiled.keys := by
    rcases hC with hC | ⟨old, hold, hC⟩
    · rw [hC]
    · rw [hC, NameMap.keys_insert_of_mem (NameMap.mem_keys_of_find? hold)]
  refine ⟨?_, ?_, ?_, ?_, ?_⟩
  · intro k t hk
    rw [hT, NameMap.find?_insert] at hk
    split at hk
    · cases hk; assumption
    · exact hs.templates_named k t hk
  · intro k t hk
    rcases hC with hC | ⟨old, hold, hC⟩
    · rw [hC] at hk; exact hs.compiled_named k t hk
    · rw [hC, NameMap.find?_insert] at hk
      split at hk
      · cases hk
        rename_i hk
        exact (hs.compiled_named _ _ hold).trans hk
      · exact hs.compiled_named k t hk
  · intro n hn
    rw [hkeys] at hn
    rw [hT, NameMap.mem_keys_insert]
    exact .inr (hs.compiled_templates n hn)
  · intro n
    rw [hkeys, hG]
    exact hs.views n
  · intro w d hd
    rw [hG] at hd
    rw [hT, NameMap.mem_keys_insert]
    exact .inr (hs.deps_templates w d hd)

/-- A reset leaves consistent registries, whatever records it is given. -/
lemma Consistent.reset (c : Compiler) (records : List Template) : (c.reset records).snapshot.Consistent where
  templates_named k t hk := by
    obtain ⟨r, -, hr⟩ := List.mem_map.1 (NameMap.mem_of_find?_ofList hk)
    simp only [Prod.mk.injEq] at hr
    obtain ⟨rfl, rfl⟩ := hr
    rfl
  compiled_named _ _ h := by simp [Compiler.reset, Snapshot.empty] at h
  compiled_templates _ h := by simp [Compiler.reset, Snapshot.empty] at h
  views _ := by simp [Compiler.reset, Snapshot.empty, DependencyGraph.views, DependencyGraph.empty]
  deps_templates _ _ h := by simp [Compiler.reset, Snapshot.empty] at h

/-- Listing the values of a map of named records under their names, each changed by a function that
keeps names, lists the changed map. -/
lemma values_map_named {m : NameMap Template} (hm : OwnNamed m)
    (f : Template → Template) (hf : ∀ t, (f t).name = t.name) :
    (m.values.map f).map (fun t => (t.name, t)) = (m.map f).entries := by
  simp only [NameMap.values, NameMap.map, List.map_map]
  apply List.map_congr_left
  rintro ⟨k, t⟩ hkt
  simp [hf, hm k t (NameMap.find?_of_mem hkt)]

end Snapshot

namespace Template

/-- The record with the last render that `renders` holds for its name, if any. -/
def withRender (renders : NameMap String) (v : Template) : Template :=
  { v with lastRender := (renders.find? v.name).getD v.lastRender }

end Template

namespace Compiler

/-- The cache of a compiler lists its snapshot with the last render of each compiled view. -/
lemma viewCache_eq (c : Compiler) :
    c.viewCache = { c.snapshot.toCache with
                    compiled := c.snapshot.compiled.values.map (Template.withRender c.renders) } := by
  simp only [viewCache, Snapshot.toCache]
  congr 1
  refine List.map_congr_left fun v _ => ?_
  unfold Template.withRender
  split <;> simp_all

/-- Restoring the cache of a compiler with consistent registries gives back its templates, its
compiled views with their last render, and the graph of its lists of inclusions. -/
lemma restore_viewCache (c c' : Compiler) (hs : c'.snapshot.Consistent) :
    (c.restore c'.viewCache).snapshot =
      ⟨c'.snapshot.templates, c'.snapshot.compiled.map (Template.withRender c'.renders),
        DependencyGraph.ofEntries c'.snapshot.graph.edges⟩ := by
  have hf : ∀ t, (Template.withRender c'.renders t).name = t.name := fun _ => rfl
  have htpl := values_map_named hs.templates_named id fun _ => rfl
  simp only [List.map_id] at htpl
  change c'.viewCache.toSnapshot = _
  rw [viewCache_eq]
  change Snapshot.mk
      (NameMap.ofList (c'.snapshot.templates.values.map fun t => (t.name, t)))
      (NameMap.ofList ((c'.snapshot.compiled.values.map (Template.withRender c'.renders)).map
        fun t => (t.name, t)))
      (DependencyGraph.ofEntries c'.snapshot.graph.edges) = _
  -- Each registry's entries, listed again, are the registry.
  rw [htpl, values_map_named hs.compiled_named _ hf]
  simp only [NameMap.ofList_entries, NameMap.map_id]

end Compiler

namespace Snapshot

/-- Restoring the cache of a compiler with consistent registries leaves consistent registries. -/
lemma Consistent.restore (c : Compiler) {c' : Compiler} (hs : c'.snapshot.Consistent) :
    (c.restore c'.viewCache).snapshot.Consistent := by
  rw [Compiler.restore_viewCache c c' hs]
  refine ⟨hs.templates_named, ?_, ?_, ?_, ?_⟩
  · intro k t hk
    rw [NameMap.find?_map] at hk
    obtain ⟨t₀, ht₀, rfl⟩ := Option.map_eq_some_iff.1 hk
    exact hs.compiled_named k t₀ ht₀
  · intro n hn
    rw [NameMap.keys_map] at hn
    exact hs.compiled_templates n hn
  · intro n
    rw [DependencyGraph.mem_views_ofEntries, NameMap.keys_map]
    exact hs.views n
  · intro v d hd
    obtain ⟨ds, hmem, hd⟩ := DependencyGraph.mem_dependenciesOf_ofEntries hd
    have hv : c'.snapshot.graph.dependenciesOf v = ds := by
      simp [DependencyGraph.dependenciesOf, NameMap.find?_of_mem hmem]
    exact hs.deps_templates v d (hv ▸ hd)

end Snapshot

/-! ### Runs -/

/-- An operation a program asks of a compiler. -/
inductive Op where
  | reset (records : List Template)
  | replace (rec : Template)
  | compile (name : String)
  | compileAll
  | recompile (name : String)
  | render (name : String) (tags : NameMap String)

namespace Compiler

/-- Performs an operation: the views it reports compiled, and the compiler it leaves. -/
def perform (c : Compiler) : Op → List Template × Compiler
  | .reset records => ([], c.reset records)
  | .replace rec => ([], (c.replace rec).2)
  | .compile name =>
    match c.compile name with
    | (.ok v, c') => ([v], c')
    | (.error _, c') => ([], c')
  | .compileAll => (c.compileAll.1.1, c.compileAll.2)
  | .recompile name =>
    match c.recompileDependencies name with
    | (.ok (vs, _), c') => (vs, c')
    | (.error _, c') => ([], c')
  | .render name tags => ([], (c.render name tags).2)

/-- The compilers a program reaches: a new one, one that performed an operation, and one that
restored the cache of another. -/
inductive Reachable : Compiler → Prop where
  | new (h : Handlers) (maxDepth : Int) (drawn : Nat) :
      Reachable { handlers := h, maxDepth := maxDepth, drawn := drawn }
  | perform {c : Compiler} (op : Op) : Reachable c → Reachable (c.perform op).2
  | restore {c c' : Compiler} : Reachable c → Reachable c' → Reachable (c.restore c'.viewCache)

@[simp] lemma render_snapshot (c : Compiler) (name : String) (tags : NameMap String) :
    (c.render name tags).2.snapshot = c.snapshot := by
  unfold render
  split
  · rfl
  · split <;> rfl

/-- What an operation does to the registries: it resets them, replaces a record, runs compiles, or
leaves them as they were. -/
lemma perform_cases (c : Compiler) (op : Op) :
    (∃ records, op = .reset records ∧ (c.perform op).2 = c.reset records) ∨
    (∃ rec, c.perform op = ([], (c.replace rec).2)) ∨
    (∃ names, (c.perform op).1 = (c.compileEach names).1.1 ∧
      (c.perform op).2.snapshot = (c.compileEach names).2.snapshot) ∨
    ((c.perform op).1 = [] ∧ (c.perform op).2.snapshot = c.snapshot) := by
  cases op with
  | reset records => exact .inl ⟨records, rfl, rfl⟩
  | replace rec => exact .inr (.inl ⟨rec, rfl⟩)
  | compile name =>
    -- A single compile is a run of compiles over its one name.
    refine .inr (.inr (.inl ⟨[name], ?_⟩))
    simp only [perform, compile, compileEach, List.foldl, compileStep]
    cases compileView c.handlers c.maxDepth c.begin name <;> exact ⟨rfl, rfl⟩
  | compileAll => exact .inr (.inr (.inl ⟨_, rfl, rfl⟩))
  | recompile name =>
    by_cases hk : (!c.snapshot.templates.contains name && (c.cascade name).isEmpty) = true
    · exact .inr (.inr (.inr (by simp [perform, recompileDependencies, hk])))
    · simp only [perform, recompileDependencies, hk]
      exact .inr (.inr (.inl ⟨_, rfl, rfl⟩))
  | render name tags => exact .inr (.inr (.inr ⟨rfl, render_snapshot c name tags⟩))

/-- Every operation but a reset keeps every compiled view, changing its compiled text only where
it compiled that view and reports it. -/
lemma keepsCompiled_perform (c : Compiler) (op : Op) (hop : ∀ records, op ≠ .reset records) :
    KeepsCompiled c (c.perform op).2.snapshot (c.perform op).1 := by
  rcases perform_cases c op with ⟨records, rfl, -⟩ | ⟨rec, h⟩ | ⟨names, h₁, h₂⟩ | ⟨h₁, h₂⟩
  · exact absurd rfl (hop records)
  · rw [h]; exact keepsCompiled_replace c rec []
  · rw [h₁, h₂]; exact keepsCompiled_compileEach c names
  · rw [h₁, h₂]; exact KeepsCompiled.refl c []

end Compiler

namespace Snapshot

/-- Every operation keeps the registries consistent. -/
lemma Consistent.perform {c : Compiler} (hs : c.snapshot.Consistent) (op : Op) :
    (c.perform op).2.snapshot.Consistent := by
  rcases Compiler.perform_cases c op with ⟨records, -, h⟩ | ⟨rec, h⟩ | ⟨names, -, h⟩ | ⟨-, h⟩
  · rw [h]; exact Consistent.reset c records
  · rw [h]; exact hs.replace rec
  · rw [h]; exact hs.compileEach names
  · rw [h]; exact hs

end Snapshot

namespace Compiler

/-- Every compiler a program reaches keeps consistent registries; and every operation but a reset
keeps every compiled view, whose compiled text changes only where the operation compiled that very
view and reports it, so a failed compile leaves every view it did not compile as it was. -/
theorem registries_consistent :
    (∀ c : Compiler, c.Reachable → c.snapshot.Consistent) ∧
    ∀ (c : Compiler) (op : Op), (∀ records, op ≠ .reset records) →
      KeepsCompiled c (c.perform op).2.snapshot (c.perform op).1 := by
  refine ⟨fun c hc => ?_, keepsCompiled_perform⟩
  induction hc with
  | new h md drawn => exact Consistent.empty
  | perform op _ ih => exact ih.perform op
  | restore _ _ _ ih' => exact Consistent.restore _ ih'

/-- A new compiler reset to one view that compiles everything has consistent registries, and
compiling everything again keeps its view. -/
theorem reset_compileAll_consistent :
    let c := ((({ handlers := Handlers.empty } : Compiler).perform
      (.reset [Template.ofText "Home/Index" "<p>Hello</p>"])).2.perform .compileAll).2
    c.Reachable ∧ c.snapshot.Consistent ∧ (∀ records, Op.compileAll ≠ .reset records) ∧
      KeepsCompiled c (c.perform .compileAll).2.snapshot (c.perform .compileAll).1 :=
  have hc := Reachable.perform _ (.perform _ (.new Handlers.empty 8 0))
  have hop : ∀ records, Op.compileAll ≠ .reset records := fun _ => by simp
  ⟨hc, registries_consistent.1 _ hc, hop, registries_consistent.2 _ _ hop⟩

end Compiler

end Stencil

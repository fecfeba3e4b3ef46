import Stencil.Proofs.Recompile
/-!
# Compiling every view at once, or one at a time

A view's compile reads the template store and nothing else of the workspace: not the compiled
views, not the graph, not what the run compiled before it. In a workspace whose registries agree,
the record it stores and the dependencies it leaves are those its compile against the store gives
(`compileView_outcome`).

So compiling every template in one run (`Compiler.compileAll`) is atomic view by view: a view
that compiles holds its own record and dependencies, a view that fails keeps what it had, the run
reports the records in name order; and it leaves the registries and last renders that compiling
the templates one at a time leaves, in any order (`compileAll_per_view`). Only the ids the graph
gives its views may differ, since those follow the order in which views were first recorded.

Two name maps with the same look-ups are equal (`NameMap.ext_find?`), which turns the comparison
view by view into equalities of the registries.
-/

namespace Stencil

/-! ### Maps are their look-ups -/

namespace NameMap

variable {α : Type}

/-- Erasing names one after another keeps the entries of every other name, in order. -/
lemma entries_foldl_erase (names : List String) (m : NameMap α) :
    (names.foldl (fun m n => m.erase n) m).entries = m.entries.filter fun e => decide (e.1 ∉ names) := by
  induction names generalizing m with
  | nil => simp
  | cons n names ih =>
    rw [List.foldl_cons, ih]
    simp only [erase, List.filter_filter]
    refine List.filter_congr fun e _ => ?_
    by_cases he : e.1 = n <;> simp [he]

end NameMap

namespace DependencyGraph

/-- The lists of inclusions bind exactly the views, each to what it includes. -/
lemma edges_find? (g : DependencyGraph) (x : String) :
    g.edges.find? x = if x ∈ g.views then some (g.dependenciesOf x) else none := by
  split
  · rename_i hx
    obtain ⟨ds, hds⟩ := NameMap.find?_of_mem_keys hx
    simp [dependenciesOf, hds]
  · rename_i hx
    exact (NameMap.find?_eq_none_iff _ _).2 hx

end DependencyGraph

/-! ### One view's compile -/

namespace Snapshot

/-- **A view's compile reads the store alone.** In a workspace in step with its store, whose
registries agree, compiling a view stores the record its compile against the store gives and
leaves the dependencies that compile recorded, none for a fragment. -/
lemma compileView_outcome {h : Handlers} {md : Int} {ws : Workspace} (hsync : ws.Synced)
    (hs : ws.snapshot.Consistent) (name : String) :
    (compileView h md ws name).map
        (fun r => (r.1, r.2.snapshot.compiled.find? name, r.2.snapshot.graph.dependenciesOf name)) =
      (compileTemplate h md ws.snapshot.templates name).map fun r => (r.1, some r.1, r.2.getD []) := by
  unfold compileView
  rw [hsync.scope_eq]
  cases hr : compileTemplate h md ws.snapshot.templates name with
  | error e => rfl
  | ok r =>
    obtain ⟨v, deps⟩ := r
    simp only [Except.map, Workspace.store_compiled, NameMap.find?_insert_self,
      Workspace.store_graph]
    cases deps with
    | none =>
      -- A fragment leaves the graph alone, and the graph never held it.
      have hfrag := isFragment_of_compileTemplate hs.templates_named hr
      simp [hs.dependenciesOf_of_isFragment hfrag]
    | some ds =>
      simp [DependencyGraph.dependenciesOf_set_of_nodup (compileTemplate_deps hs.templates_named hr).1]

end Snapshot

open Snapshot

namespace Compiler

/-! ### Runs keep the handlers -/

@[simp] lemma compileEach_handlers (c : Compiler) (names : List String) :
    (c.compileEach names).2.handlers = c.handlers := rfl

@[simp] lemma compileEach_maxDepth (c : Compiler) (names : List String) :
    (c.compileEach names).2.maxDepth = c.maxDepth := rfl

@[simp] lemma compileEach_drawn (c : Compiler) (names : List String) :
    (c.compileEach names).2.drawn = c.drawn := rfl

/-- A single compile leaves what a run of compiles over its one name leaves. -/
lemma compile_eq_compileEach (c : Compiler) (name : String) :
    (c.compile name).2 = (c.compileEach [name]).2 := by
  simp only [compile, compileEach, List.foldl, compileStep]
  cases compileView c.handlers c.maxDepth c.begin name <;> rfl

/-- A run of compiles forgets the last renders of the views among its names that compile, and
keeps every other last render where it was. -/
lemma compileEach_renders_entries (c : Compiler) (names : List String) :
    (c.compileEach names).2.renders.entries = c.renders.entries.filter fun e =>
      decide ¬(e.1 ∈ names ∧ (compileTemplate c.handlers c.maxDepth c.snapshot.templates e.1).isOk) := by
  change ((names.foldl (compileStep c.handlers c.maxDepth) ([], [], c.begin)).2.2.touched.foldl
      (fun r n => r.erase n) c.renders).entries = _
  rw [NameMap.entries_foldl_erase, foldl_compileStep_touched names ([], [], c.begin) rfl]
  refine List.filter_congr fun e _ => ?_
  simp [begin]

lemma compiledAfter_idem (r : Except Fault (Template × Option (List String))) (old : Option Template) :
    compiledAfter r (compiledAfter r old) = compiledAfter r old := by
  cases r <;> rfl

lemma depsAfter_idem (r : Except Fault (Template × Option (List String))) (old : List String) :
    depsAfter r (depsAfter r old) = depsAfter r old := by
  rcases r with e | ⟨v, _ | ds⟩ <;> rfl

/-! ### Compiling one view at a time -/

/-- Compiles the named views one at a time, each published before the next. -/
def compileInTurn (c : Compiler) (names : List String) : Compiler :=
  names.foldl (fun c n => (c.compile n).2) c

@[simp] lemma compileInTurn_nil (c : Compiler) : c.compileInTurn [] = c := rfl

lemma compileInTurn_cons (c : Compiler) (n : String) (names : List String) :
    c.compileInTurn (n :: names) = (c.compile n).2.compileInTurn names := rfl

@[simp] lemma compile_handlers (c : Compiler) (n : String) : (c.compile n).2.handlers = c.handlers := by
  rw [compile_eq_compileEach]; rfl

@[simp] lemma compile_maxDepth (c : Compiler) (n : String) : (c.compile n).2.maxDepth = c.maxDepth := by
  rw [compile_eq_compileEach]; rfl

@[simp] lemma compile_templates (c : Compiler) (n : String) :
    (c.compile n).2.snapshot.templates = c.snapshot.templates := by
  rw [compile_eq_compileEach, compileEach_templates]

end Compiler

namespace Snapshot

lemma Consistent.compile {c : Compiler} (hs : c.snapshot.Consistent) (n : String) :
    (c.compile n).2.snapshot.Consistent := by
  rw [Compiler.compile_eq_compileEach]
  exact hs.compileEach [n]

lemma Consistent.compileInTurn {c : Compiler} (hs : c.snapshot.Consistent) (names : List String) :
    (c.compileInTurn names).snapshot.Consistent := by
  induction names generalizing c with
  | nil => exact hs
  | cons n names ih => exact ih (hs.compile n)

end Snapshot

namespace Compiler

section InTurn

variable (c : Compiler) (names : List String)

lemma compileInTurn_templates : (c.compileInTurn names).snapshot.templates = c.snapshot.templates := by
  induction names generalizing c with
  | nil => rfl
  | cons n names ih => rw [compileInTurn_cons, ih, compile_templates]

/-- Compiling one view at a time, a view holds the record of its own compile when it is among the
names and compiles, and the record it had before otherwise, however often it is named. -/
lemma compileInTurn_find? (x : String) :
    (c.compileInTurn names).snapshot.compiled.find? x =
      if x ∈ names then
        compiledAfter (compileTemplate c.handlers c.maxDepth c.snapshot.templates x)
          (c.snapshot.compiled.find? x)
      else c.snapshot.compiled.find? x := by
  induction names generalizing c with
  | nil => simp
  | cons n names ih =>
    rw [compileInTurn_cons, ih, compile_handlers, compile_maxDepth, compile_templates,
      compile_eq_compileEach, compileEach_find?]
    by_cases hx : x = n
    · subst hx
      by_cases hm : x ∈ names <;> simp [hm, compiledAfter_idem]
    · simp [hx]

/-- Compiling one view at a time, a view includes what its own compile recorded when it is among
the names and compiles as no fragment, and what it included before otherwise. -/
lemma compileInTurn_dependenciesOf {c : Compiler} (hs : c.snapshot.Consistent) (names : List String)
    (x : String) :
    (c.compileInTurn names).snapshot.graph.dependenciesOf x =
      if x ∈ names then
        depsAfter (compileTemplate c.handlers c.maxDepth c.snapshot.templates x)
          (c.snapshot.graph.dependenciesOf x)
      else c.snapshot.graph.dependenciesOf x := by
  induction names generalizing c with
  | nil => simp
  | cons n names ih =>
    rw [compileInTurn_cons, ih (hs.compile n), compile_handlers, compile_maxDepth, compile_templates,
      compile_eq_compileEach, compileEach_dependenciesOf _ hs.templates_named]
    by_cases hx : x = n
    · subst hx
      by_cases hm : x ∈ names <;> simp [hm, depsAfter_idem]
    · simp [hx]

/-- Compiling one view at a time forgets the last renders of the views among the names that
compile, and keeps every other last render where it was. -/
lemma compileInTurn_renders_entries :
    (c.compileInTurn names).renders.entries = c.renders.entries.filter fun e =>
      decide ¬(e.1 ∈ names ∧ (compileTemplate c.handlers c.maxDepth c.snapshot.templates e.1).isOk) := by
  induction names generalizing c with
  | nil => simp
  | cons n names ih =>
    rw [compileInTurn_cons, ih, compile_handlers, compile_maxDepth, compile_templates,
      compile_eq_compileEach, compileEach_renders_entries, List.filter_filter]
    refine List.filter_congr fun e _ => ?_
    cases (compileTemplate c.handlers c.maxDepth c.snapshot.templates e.1).isOk with
    | false => simp
    | true => simp [Bool.and_comm]

end InTurn

section Runs

variable {c : Compiler} (hs : c.snapshot.Consistent) {names : List String} {x : String}
include hs

/-- A view of a run that compiles holds its own record and the dependencies its compile recorded,
none for a fragment. -/
lemma compileEach_of_ok (hx : x ∈ names) {v : Template} {deps : Option (List String)}
    (hr : compileTemplate c.handlers c.maxDepth c.snapshot.templates x = .ok (v, deps)) :
    (c.compileEach names).2.snapshot.compiled.find? x = some v ∧
      (c.compileEach names).2.snapshot.graph.dependenciesOf x = deps.getD [] := by
  rw [compileEach_find?, compileEach_dependenciesOf _ hs.templates_named, if_pos hx, if_pos hx, hr,
    compiledAfter_ok, depsAfter_ok]
  refine ⟨rfl, ?_⟩
  cases deps with
  | some ds => rfl
  | none =>
    -- A fragment was in no graph before the run either.
    exact hs.dependenciesOf_of_isFragment (isFragment_of_compileTemplate hs.templates_named hr)

/-- A view of a run that fails keeps its record and its dependencies. -/
lemma compileEach_of_error (hx : x ∈ names) {e : Fault}
    (hr : compileTemplate c.handlers c.maxDepth c.snapshot.templates x = .error e) :
    (c.compileEach names).2.snapshot.compiled.find? x = c.snapshot.compiled.find? x ∧
      (c.compileEach names).2.snapshot.graph.dependenciesOf x = c.snapshot.graph.dependenciesOf x := by
  rw [compileEach_find?, compileEach_dependenciesOf _ hs.templates_named, if_pos hx, if_pos hx, hr]
  exact ⟨rfl, rfl⟩

/-- Compiling views one at a time, in any order, leaves the templates, compiled views, lists of
inclusions and last renders that one run over them leaves. -/
lemma compileInTurn_eq_compileEach {σ : List String} (hσ : σ.Perm names) :
    (c.compileInTurn σ).snapshot.templates = (c.compileEach names).2.snapshot.templates ∧
    (c.compileInTurn σ).snapshot.compiled = (c.compileEach names).2.snapshot.compiled ∧
    (c.compileInTurn σ).snapshot.graph.edges = (c.compileEach names).2.snapshot.graph.edges ∧
    (c.compileInTurn σ).renders = (c.compileEach names).2.renders := by
  have hs₁ := hs.compileInTurn σ
  have hs₂ := hs.compileEach names
  have hC : (c.compileInTurn σ).snapshot.compiled = (c.compileEach names).2.snapshot.compiled :=
    NameMap.ext_find? fun x => by
      rw [compileInTurn_find?, compileEach_find?]
      simp only [hσ.mem_iff]
  refine ⟨by rw [compileInTurn_templates, compileEach_templates], hC, ?_, ?_⟩
  · -- The graphs hold the same views, the compiled views that are no fragments, each with the
    -- same list.
    refine NameMap.ext_find? fun x => ?_
    have hviews : x ∈ (c.compileInTurn σ).snapshot.graph.views ↔
        x ∈ (c.compileEach names).2.snapshot.graph.views := by
      rw [hs₁.views, hs₂.views, hC]
    rw [DependencyGraph.edges_find?, DependencyGraph.edges_find?, compileInTurn_dependenciesOf hs,
      compileEach_dependenciesOf _ hs.templates_named]
    simp only [hviews, hσ.mem_iff]
  · have he : (c.compileInTurn σ).renders.entries = (c.compileEach names).2.renders.entries := by
      rw [compileInTurn_renders_entries, compileEach_renders_entries]
      refine List.filter_congr fun e _ => ?_
      simp only [hσ.mem_iff]
    exact NameMap.ext he

end Runs

/-- **Compiling every view is atomic view by view, and order does not matter.** For every
compiler a program reaches: compiling a view in a workspace with the same templates and names and
agreeing registries stores the record its compile against the store gives, and leaves the dependencies
that compile recorded, whatever else the workspace holds. In every run of compiles, as compiling
everything and recompiling a cascade make, a view that compiles holds its own record and
dependencies and a view that fails keeps what it had. Compiling everything reports the records in
name order; and compiling the templates one at a time, in any order, leaves the same templates,
compiled views, lists of inclusions and last renders. -/
theorem compileAll_per_view (c : Compiler) (hc : c.Reachable) :
    let compiles := compileTemplate c.handlers c.maxDepth c.snapshot.templates
    (∀ (ws : Workspace) (name : String), ws.snapshot.templates = c.snapshot.templates →
      ws.names = c.snapshot.templateNames → ws.snapshot.Consistent →
      (compileView c.handlers c.maxDepth ws name).map
          (fun r => (r.1, r.2.snapshot.compiled.find? name, r.2.snapshot.graph.dependenciesOf name)) =
        (compiles name).map fun r => (r.1, some r.1, r.2.getD [])) ∧
    (∀ (names : List String), ∀ x ∈ names,
      (∀ v deps, compiles x = .ok (v, deps) →
        (c.compileEach names).2.snapshot.compiled.find? x = some v ∧
        (c.compileEach names).2.snapshot.graph.dependenciesOf x = deps.getD []) ∧
      (∀ e, compiles x = .error e →
        (c.compileEach names).2.snapshot.compiled.find? x = c.snapshot.compiled.find? x ∧
        (c.compileEach names).2.snapshot.graph.dependenciesOf x =
          c.snapshot.graph.dependenciesOf x)) ∧
    c.compileAll.1.1 = c.snapshot.templateNames.filterMap (fun n => (compiles n).toOption.map Prod.fst) ∧
    c.snapshot.templateNames.Pairwise (· < ·) ∧
    (∀ σ : List String, σ.Perm c.snapshot.templateNames →
      (c.compileInTurn σ).snapshot.templates = c.compileAll.2.snapshot.templates ∧
      (c.compileInTurn σ).snapshot.compiled = c.compileAll.2.snapshot.compiled ∧
      (c.compileInTurn σ).snapshot.graph.edges = c.compileAll.2.snapshot.graph.edges ∧
      (c.compileInTurn σ).renders = c.compileAll.2.renders) := by
  intro compiles
  have hs := hc.consistent
  refine ⟨fun ws name hT hnames hws => ?_, fun names x hx => ⟨fun v deps hr => compileEach_of_ok hs hx hr,
    fun e hr => compileEach_of_error hs hx hr⟩, compileEach_views c _, c.snapshot.templates.keys_sorted,
    fun σ hσ => compileInTurn_eq_compileEach hs hσ⟩
  -- The workspace scans the names of its store, which are those of the compiler's.
  have hsync : ws.Synced := by
    rw [Workspace.Synced, hnames, hT]
    rfl
  have hout := @compileView_outcome c.handlers c.maxDepth ws hsync hws name
  rw [hT] at hout
  exact hout

/-- Compiling a page and its layout one at a time, the layout first, leaves the compiled views
that compiling both at once leaves. -/
theorem compile_layout_then_page_as_compileAll :
    let layout := Template.ofText "Shared/Layout" "<body>%%View%%</body>"
    let page := Template.ofText "Home/Index" "%%Master=Layout%%<p>Hi</p>"
    let c := (({ handlers := Handlers.defaults (BundleSettings.make none false "") none } :
      Compiler).perform (.reset [layout, page])).2
    c.Reachable ∧ ["Shared/Layout", "Home/Index"].Perm c.snapshot.templateNames ∧
      (c.compileInTurn ["Shared/Layout", "Home/Index"]).snapshot.compiled =
        c.compileAll.2.snapshot.compiled := by
  intro layout page c
  have hc : c.Reachable := .perform _ (.new _ 8 0)
  have hnames : c.snapshot.templateNames = ["Home/Index", "Shared/Layout"] := by decide +kernel
  have hσ : ["Shared/Layout", "Home/Index"].Perm c.snapshot.templateNames := by
    rw [hnames]
    exact List.Perm.swap _ _ _
  exact ⟨hc, hσ, ((compileAll_per_view c hc).2.2.2.2 _ hσ).2.1⟩

end Compiler

end Stencil

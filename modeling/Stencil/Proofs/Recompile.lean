import Stencil.Proofs.Cache
/-!
# Recompiling a cascade rebuilds exactly the views it names

`Compiler.recompileDependencies` takes a name that changed and compiles, in one workspace, the
name itself when it is a template and then every view of its cascade, the cascade read off the
graph before the call. A name that is neither a template nor included by any view is refused, and
nothing changes.

For every compiler a program reaches, the views compiled are each named once, the name first: a
cascade never lists the name it starts from, and lists no view twice, since a graph never gives
two ids to one view. The call reports the records of the views that compiled, in that order, with
the faults of the others joined; each view compiled holds what compiling it against the store
gave and has lost its last render if it compiled; and every other view keeps its template,
compiled record, dependencies and last render (`recompileDependencies_frame`).

The lemmas on runs of compiles say what a run reports as faults and which views it marks touched,
for any names (`foldl_compileStep_faults`, `foldl_compileStep_touched`), and what publishing the
run does to the last renders (`compileEach_renders`).
-/

namespace Stencil

/-! ### Cascades list each view once -/

namespace DependencyGraph

variable {g : DependencyGraph}

/-- Distinct ids sit at distinct positions, so when no view is interned twice no view is listed
twice as including a name. -/
lemma nodup_dependentsOf_of_names (hn : g.names.Nodup) (d : String) : (g.dependentsOf d).Nodup := by
  unfold dependentsOf
  split
  · exact List.nodup_nil
  · rename_i bm _
    refine (List.mergeSort_perm _ _).nodup_iff.2 (List.Nodup.filterMap ?_ ?_)
    · intro a a' b ha ha'
      have hlt : a.toNat < g.names.length := (List.getElem?_eq_some_iff.1 ha).1
      exact UInt32.toNat_inj.1 ((List.getElem?_inj hlt hn).1 (ha.trans ha'.symm))
    · exact bm.increasing.imp fun h => ne_of_apply_ne UInt32.toNat (Nat.ne_of_lt h)

/-- A search adds what it finds to what it has seen, and finds only names not seen yet, each
once: the names seen before it started, followed by those it found, stay free of repeats. -/
lemma search_nodup (hd : ∀ d, (g.dependentsOf d).Nodup) :
    ∀ (fuel : Nat) (queue pre found : List String), (pre ++ found).Nodup →
      (pre ++ g.search fuel queue (pre ++ found) found).Nodup
  | 0, _, _, _, h => by simpa [search] using h
  | _ + 1, [], _, _, h => by simpa [search] using h
  | fuel + 1, current :: queue, pre, found, h => by
    simp only [search]
    let fresh := (g.dependentsOf current).filter fun d => !(pre ++ found).contains d
    -- The views found fresh were not seen, and none is listed twice.
    have hfresh : (pre ++ (found ++ fresh)).Nodup := by
      rw [← List.append_assoc, List.nodup_append]
      refine ⟨h, (hd current).filter _, fun a ha b hb hab => ?_⟩
      subst hab
      have hnot : a ∉ pre ++ found := by simpa using List.of_mem_filter hb
      exact hnot ha
    have hrec := search_nodup hd fuel (queue ++ fresh) pre (found ++ fresh) hfresh
    rwa [← List.append_assoc] at hrec

/-- A cascade lists no view twice, and never the name it starts from, when no view is interned
twice. -/
lemma nodup_cons_cascade (hn : g.names.Nodup) (name : String) : (name :: g.cascade name).Nodup := by
  simpa [cascade] using
    search_nodup (nodup_dependentsOf_of_names hn) (g.size + 1) [name] [name] [] (by simp)

end DependencyGraph

/-! ### Forgetting last renders -/

/-- Erasing names one after another unbinds exactly those names. -/
lemma NameMap.find?_foldl_erase {α : Type} (names : List String) (m : NameMap α) (x : String) :
    (names.foldl (fun m n => m.erase n) m).find? x = if x ∈ names then none else m.find? x := by
  induction names generalizing m with
  | nil => simp
  | cons n names ih =>
    rw [List.foldl_cons, ih, NameMap.find?_erase]
    by_cases hx : x = n
    · subst hx
      simp
    · simp [hx, Ne.symm hx]

@[simp] lemma Workspace.store_touched {ws : Workspace} {name : String} {v : Template}
    {deps : Option (List String)} : (ws.store name v deps).touched = ws.touched ++ [name] := rfl

namespace Compiler

/-- Publishing forgets the last render of exactly the views the workspace touched. -/
lemma publish_renders_find? (c : Compiler) (ws : Workspace) (x : String) :
    (c.publish ws).renders.find? x = if x ∈ ws.touched then none else c.renders.find? x :=
  NameMap.find?_foldl_erase _ _ _

/-! ### Runs of compiles -/

/-- The fault of a compile that failed. -/
def faultOf {α : Type} : Except Fault α → Option Fault
  | .error e => some e
  | .ok _ => none

section Runs

variable {h : Handlers} {md : Int} {T : NameMap Template}

/-- The faults a run of steps reports are those of its names that fail to compile, in order. -/
lemma foldl_compileStep_faults (names : List String) :
    ∀ s : List Template × List Fault × Workspace, s.2.2.scope = T →
      (names.foldl (compileStep h md) s).2.1 =
        s.2.1 ++ names.filterMap fun n => faultOf (compileTemplate h md T n) := by
  induction names with
  | nil => simp
  | cons n names ih =>
    intro s hT
    rw [List.foldl_cons, ih _ ((compileStep_scope s n).trans hT), compileStep_eq, hT]
    cases hr : compileTemplate h md T n <;> simp [faultOf, hr]

/-- A run of steps marks touched exactly the names that compile, in order. -/
lemma foldl_compileStep_touched (names : List String) :
    ∀ s : List Template × List Fault × Workspace, s.2.2.scope = T →
      (names.foldl (compileStep h md) s).2.2.touched =
        s.2.2.touched ++ names.filter fun n => (compileTemplate h md T n).isOk := by
  induction names with
  | nil => simp
  | cons n names ih =>
    intro s hT
    rw [List.foldl_cons, ih _ ((compileStep_scope s n).trans hT), compileStep_eq, hT]
    cases hr : compileTemplate h md T n <;> simp [Except.isOk, Except.toBool, hr]

end Runs

lemma compileEach_templates (c : Compiler) (names : List String) :
    (c.compileEach names).2.snapshot.templates = c.snapshot.templates := by
  rw [compileEach_snapshot]
  exact foldl_compileStep_templates names _

/-- A run of compiles reports the faults of the names that fail, in order, joined. -/
lemma compileEach_faults (c : Compiler) (names : List String) :
    (c.compileEach names).1.2 =
      Fault.join (names.filterMap fun n => faultOf (compileTemplate c.handlers c.maxDepth c.snapshot.templates n)) := by
  change Fault.join (names.foldl (compileStep c.handlers c.maxDepth) ([], [], c.begin)).2.1 = _
  rw [foldl_compileStep_faults names ([], [], c.begin) rfl]
  rfl

/-- A run of compiles forgets the last render of exactly the views among its names that compile. -/
lemma compileEach_renders (c : Compiler) (names : List String) (x : String) :
    (c.compileEach names).2.renders.find? x =
      if x ∈ names ∧ (compileTemplate c.handlers c.maxDepth c.snapshot.templates x).isOk then none
      else c.renders.find? x := by
  change (c.publish (names.foldl (compileStep c.handlers c.maxDepth) ([], [], c.begin)).2.2).renders.find? x = _
  rw [publish_renders_find?, foldl_compileStep_touched names ([], [], c.begin) rfl]
  simp [begin]

/-! ### Recompiling a cascade -/

/-- The views a recompile of `name` compiles: the name, when it is a template, then its cascade. -/
def recompileTargets (c : Compiler) (name : String) : List String :=
  (if c.snapshot.templates.contains name then [name] else []) ++ c.cascade name

lemma recompileDependencies_of_refused {c : Compiler} {name : String}
    (hk : c.snapshot.templates.contains name = false) (hcas : c.cascade name = []) :
    c.recompileDependencies name = (.error (viewNotFound name), c) := by
  simp [recompileDependencies, hk, hcas]

lemma recompileDependencies_of_accepted {c : Compiler} {name : String}
    (h : c.snapshot.templates.contains name = true ∨ c.cascade name ≠ []) :
    c.recompileDependencies name =
      (.ok (c.compileEach (c.recompileTargets name)).1, (c.compileEach (c.recompileTargets name)).2) := by
  have hgo : (!c.snapshot.templates.contains name && (c.cascade name).isEmpty) = false := by
    rcases h with h | h
    · simp [h]
    · simp [h]
  simp only [recompileDependencies, hgo]
  rfl

lemma viewNotFound_involves (name : String) : (viewNotFound name).involves .templateNotFound = true := by
  simp [viewNotFound, Fault.about, Fault.withDetail, Fault.wrap, Fault.involves]

/-- The targets of a recompile are each named once, and the cascade does not list the name. -/
lemma nodup_recompileTargets {c : Compiler} (hc : c.Reachable) (name : String) :
    (c.recompileTargets name).Nodup ∧ name ∉ c.cascade name := by
  have hcas := DependencyGraph.nodup_cons_cascade hc.graph.interned.nodup name
  have hnot := (List.nodup_cons.1 hcas).1
  refine ⟨?_, hnot⟩
  unfold recompileTargets
  split
  · exact hcas
  · exact (List.nodup_cons.1 hcas).2

/-- **Recompiling a cascade rebuilds exactly the views it names.** For every compiler a program
reaches and every name: a name that is no template and included by no view is refused with a
missing template, and nothing changes. Otherwise the name, when it is a template, then its
cascade are compiled, each once; the call reports the records of those that compiled, in that
order, with the faults of the others joined; the templates stay; each view compiled holds what
compiling it against the store gave, and loses its last render if it compiled; and every other
view keeps its compiled record, its dependencies and its last render. -/
theorem recompileDependencies_frame (c : Compiler) (hc : c.Reachable) (name : String) :
    let c' := (c.recompileDependencies name).2
    let compiles := compileTemplate c.handlers c.maxDepth c.snapshot.templates
    (c.snapshot.templates.contains name = false ∧ c.cascade name = [] →
      c.recompileDependencies name = (.error (viewNotFound name), c) ∧
        (viewNotFound name).involves .templateNotFound = true) ∧
    (c.snapshot.templates.contains name = true ∨ c.cascade name ≠ [] →
      (c.recompileTargets name).Nodup ∧ name ∉ c.cascade name ∧
      (c.recompileDependencies name).1 =
        .ok ((c.recompileTargets name).filterMap fun n => (compiles n).toOption.map Prod.fst,
          Fault.join ((c.recompileTargets name).filterMap fun n => faultOf (compiles n))) ∧
      c'.snapshot.templates = c.snapshot.templates ∧
      (∀ x ∈ c.recompileTargets name,
        c'.snapshot.compiled.find? x = compiledAfter (compiles x) (c.snapshot.compiled.find? x) ∧
        c'.snapshot.graph.dependenciesOf x =
          depsAfter (compiles x) (c.snapshot.graph.dependenciesOf x) ∧
        c'.renders.find? x = if (compiles x).isOk then none else c.renders.find? x) ∧
      (∀ x ∉ c.recompileTargets name,
        c'.snapshot.compiled.find? x = c.snapshot.compiled.find? x ∧
        c'.snapshot.graph.dependenciesOf x = c.snapshot.graph.dependenciesOf x ∧
        c'.renders.find? x = c.renders.find? x)) := by
  intro c' compiles
  refine ⟨fun ⟨hk, hcas⟩ => ⟨recompileDependencies_of_refused hk hcas, viewNotFound_involves name⟩,
    fun hgo => ?_⟩
  have hrun := recompileDependencies_of_accepted hgo
  have hT := hc.consistent.templates_named
  have hc' : c' = (c.compileEach (c.recompileTargets name)).2 := by
    simp only [c', hrun]
  obtain ⟨hnd, hnot⟩ := nodup_recompileTargets hc name
  refine ⟨hnd, hnot, ?_, ?_, fun x hx => ?_, fun x hx => ?_⟩
  · rw [hrun]
    exact congrArg Except.ok (Prod.ext (compileEach_views c _) (compileEach_faults c _))
  · rw [hc', compileEach_templates]
  · rw [hc', compileEach_find?, compileEach_dependenciesOf _ hT, compileEach_renders]
    simp only [hx, if_true, true_and]
    exact ⟨rfl, rfl, rfl⟩
  · rw [hc', compileEach_find?, compileEach_dependenciesOf _ hT, compileEach_renders]
    simp [hx]

/-- Recompiling a layout that a page uses compiles the layout, then the page, each once. -/
theorem recompile_layout_compiles_page :
    let layout := Template.ofText "Shared/Layout" "<body>%%View%%</body>"
    let page := Template.ofText "Home/Index" "%%Master=Layout%%<p>Hi</p>"
    let c := ((({ handlers := Handlers.defaults (BundleSettings.make none false "") none } :
      Compiler).perform (.reset [layout, page])).2.perform .compileAll).2
    c.Reachable ∧ c.snapshot.templates.contains "Shared/Layout" = true ∧
      c.recompileTargets "Shared/Layout" = ["Shared/Layout", "Home/Index"] ∧
      (c.recompileTargets "Shared/Layout").Nodup ∧ "Shared/Layout" ∉ c.cascade "Shared/Layout" := by
  intro layout page c
  have hc : c.Reachable := .perform _ (.perform _ (.new _ 8 0))
  have hk : c.snapshot.templates.contains "Shared/Layout" = true := by decide +kernel
  have ht : c.recompileTargets "Shared/Layout" = ["Shared/Layout", "Home/Index"] := by decide +kernel
  obtain ⟨hnd, hnot, -⟩ := (recompileDependencies_frame c hc "Shared/Layout").2 (.inl hk)
  exact ⟨hc, hk, ht, hnd, hnot⟩

end Compiler

end Stencil

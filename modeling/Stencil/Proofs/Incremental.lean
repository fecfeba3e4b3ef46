import Stencil.Proofs.Registry
/-!
# Reloading a template against rebuilding every view

A reload stores a changed template and compiles it again; when the template made a compiled view
stale it compiles every view of that view's cascade too (`Compiler.reload`). The question is
whether a reload after a rebuild (a reset to a store, then compiling everything) leaves each view
as a rebuild of the store with the new template does.

It does for every view the rebuild compiles, when the template replaces one of the store and
fewer than `2 ^ 32` templates are stored, if the view is the template's own, or was compiled
before and the reload recompiled the cascade, or the view does not include the template, or the
template keeps its text (`reload_matches_rebuild`). It does not in general: a fragment, or a
template whose own compile failed, is never stale, so a view that includes it keeps the text it
had (`reload_keeps_included_fragment`).

The proof compares each view's outcome. A view the reload compiles is compiled against the new
store, as in the rebuild. A view it does not compile keeps the record its compile against the old
store gave, and compiling it against the new store gives the same record, since it reads nothing
that changed (`compileTemplate_agree`). That the reload's cascade holds every view including the
template needs the dependency graph's reverse index, which is exact while ids do not wrap.
-/

namespace Stencil

lemma compileTemplate_of_not_mem {h : Handlers} {md : Int} {T : NameMap Template} {name : String}
    (hn : name ∉ T.keys) : compileTemplate h md T name = .error (viewNotFound name) := by
  rw [← NameMap.find?_eq_none_iff] at hn
  simp [compileTemplate, hn]

namespace DependencyGraph

lemma dependenciesOf_of_not_mem_views {g : DependencyGraph} {v : String} (hv : v ∉ g.views) :
    g.dependenciesOf v = [] := by
  rw [views, ← NameMap.find?_eq_none_iff] at hv
  simp [dependenciesOf, hv]

end DependencyGraph

lemma OwnNamed.insert {T : NameMap Template} (hT : OwnNamed T) (t : Template) :
    OwnNamed (T.insert t.name t) := by
  intro k u hk
  rw [NameMap.find?_insert] at hk
  split at hk
  · cases hk; assumption
  · exact hT k u hk

section Agree

variable {h : Handlers} {md : Int} {T : NameMap Template} {rec r : Template} {v : String}
  {deps : Option (List String)}

/-- A view compiled with no dependencies recorded is a fragment. -/
lemma isFragment_of_compileTemplate (hT : OwnNamed T) (hc : compileTemplate h md T v = .ok (r, none)) :
    isFragment v = true := by
  obtain ⟨tpl, htpl, -, hfrag⟩ := compileTemplate_ok hc
  rw [← hT v tpl htpl]
  exact hfrag.1 rfl

/-- Replacing a template leaves the compile of another view alone when that view does not include
the template or the template keeps its text. -/
lemma compileTemplate_insert (hT : OwnNamed T) (hk : rec.name ∈ T.keys)
    (hne : v ≠ rec.name) (hc : compileTemplate h md T v = .ok (r, deps))
    (hread : rec.name ∉ deps.getD [] ∨ (T.find? rec.name).map Template.raw = some rec.raw) :
    compileTemplate h md (T.insert rec.name rec) v = .ok (r, deps) := by
  refine compileTemplate_agree hT hc (NameMap.find?_insert_ne _ _ (Ne.symm hne))
    ⟨NameMap.keys_insert_of_mem hk rec, fun n hn => ?_⟩
  by_cases hn' : n = rec.name
  · subst hn'
    -- The view includes the template, which then keeps its name and its text.
    have hraw := hread.resolve_left (not_not_intro hn)
    obtain ⟨old, hold, horaw⟩ := Option.map_eq_some_iff.1 hraw
    rw [NameMap.find?_insert_self, hold]
    simp [Template.nameRaw, hT _ old hold, horaw]
  · rw [NameMap.find?_insert_ne _ _ (Ne.symm hn')]

end Agree

/-- A fragment is in no dependency graph of a consistent snapshot. -/
lemma Snapshot.Consistent.dependenciesOf_of_isFragment {s : Snapshot} (hs : s.Consistent) {v : String}
    (hfrag : isFragment v = true) : s.graph.dependenciesOf v = [] :=
  DependencyGraph.dependenciesOf_of_not_mem_views fun hm => by simp [((hs.views v).1 hm).2] at hfrag

open Snapshot

namespace Compiler

/-! ### A rebuild -/

section Rebuild

variable (c : Compiler) (records : List Template)

/-- After a rebuild each view holds the record its compile against the store gave. -/
lemma rebuild_find? (x : String) :
    (c.reset records).compileAll.2.snapshot.compiled.find? x =
      compiledAfter (compileTemplate c.handlers c.maxDepth (c.reset records).snapshot.templates x)
        none := by
  rw [compileAll, compileEach_find?]
  split
  · rfl
  · rename_i hx
    rw [compileTemplate_of_not_mem hx]
    rfl

/-- After a rebuild each view includes what its compile against the store recorded. -/
lemma rebuild_dependenciesOf (x : String) :
    (c.reset records).compileAll.2.snapshot.graph.dependenciesOf x =
      depsAfter (compileTemplate c.handlers c.maxDepth (c.reset records).snapshot.templates x) [] := by
  rw [compileAll, compileEach_dependenciesOf _ (Consistent.reset c records).templates_named]
  split
  · rfl
  · rename_i hx
    rw [compileTemplate_of_not_mem hx]
    rfl

/-- A view a rebuild holds compiled against the store. -/
lemma compileTemplate_of_mem_rebuild {x : String}
    (hx : x ∈ (c.reset records).compileAll.2.snapshot.compiled.keys) :
    ∃ r d, compileTemplate c.handlers c.maxDepth (c.reset records).snapshot.templates x = .ok (r, d) := by
  rw [← NameMap.find?_isSome_iff, rebuild_find?] at hx
  cases hc : compileTemplate c.handlers c.maxDepth (c.reset records).snapshot.templates x with
  | error e => simp [hc] at hx
  | ok p => exact ⟨p.1, p.2, rfl⟩

/-- A view whose compile against the store succeeds holds, after a rebuild, the record and the
dependencies that compile gave. -/
lemma rebuild_of_compileTemplate {x : String} {r : Template} {d : Option (List String)}
    (hr : compileTemplate c.handlers c.maxDepth (c.reset records).snapshot.templates x = .ok (r, d)) :
    (c.reset records).compileAll.2.snapshot.compiled.find? x = some r ∧
      (c.reset records).compileAll.2.snapshot.graph.dependenciesOf x = d.getD [] := by
  rw [rebuild_find?, rebuild_dependenciesOf, hr, compiledAfter_ok, depsAfter_ok]
  exact ⟨rfl, rfl⟩

lemma rebuild_templates :
    (c.reset records).compileAll.2.snapshot.templates = (c.reset records).snapshot.templates :=
  foldl_compileStep_templates _ _

/-- Resetting to a store with one more record stores it over the rebuild's store. -/
lemma reset_append_templates (rec : Template) :
    (c.reset (records ++ [rec])).snapshot.templates =
      (c.reset records).compileAll.2.snapshot.templates.insert rec.name rec := by
  rw [rebuild_templates]
  simp [reset, NameMap.ofList_append_singleton]

lemma rebuild_consistent : (c.reset records).compileAll.2.snapshot.Consistent :=
  (Consistent.reset c records).compileEach _

/-- Every step of a run of compiles keeps the dependency graph one a program can build. -/
lemma foldl_compileStep_reachable {h : Handlers} {md : Int} (names : List String) :
    ∀ s : List Template × List Fault × Workspace, s.2.2.snapshot.graph.Reachable →
      (names.foldl (compileStep h md) s).2.2.snapshot.graph.Reachable := by
  induction names with
  | nil => exact fun _ hs => hs
  | cons n names ih =>
    intro s hs
    apply ih
    rw [compileStep_eq]
    split
    · exact hs
    · rename_i v deps _
      rw [Workspace.store_graph]
      cases deps with
      | none => exact hs
      | some ds => exact .set _ _ hs

/-- The graph of a rebuild of fewer than `2 ^ 32` templates is well formed: its views are
compiled templates, each once. -/
lemma rebuild_wellFormed (hlen : records.length < 2 ^ 32) :
    (c.reset records).compileAll.2.snapshot.graph.WellFormed := by
  have hs := rebuild_consistent c records
  have hreach : (c.reset records).compileAll.2.snapshot.graph.Reachable :=
    foldl_compileStep_reachable _ _ .empty
  apply hreach.wellFormed_of_views
  -- The views are template names, each once, and the store has at most one per record.
  have hsub : ∀ n ∈ (c.reset records).compileAll.2.snapshot.graph.views,
      n ∈ (c.reset records).snapshot.templates.keys := fun n hn => by
    rw [← rebuild_templates]
    exact hs.compiled_templates n ((hs.views n).1 hn).1
  have hnd : (c.reset records).compileAll.2.snapshot.graph.views.Nodup := NameMap.keys_nodup _
  calc _ ≤ (c.reset records).snapshot.templates.keys.length := (List.subperm_of_subset hnd hsub).length_le
    _ ≤ (records.map fun t => (t.name, t)).length := NameMap.length_keys_ofList_le _
    _ = records.length := List.length_map _
    _ < 2 ^ 32 := hlen

end Rebuild

/-! ### A reload -/

/-- The views a reload compiles: the template's own, then its cascade when the template made a
compiled view stale. -/
def reloadTargets (c : Compiler) (rec : Template) : List String :=
  rec.name :: if (c.replace rec).1 then (c.replace rec).2.cascade rec.name else []

lemma replace_find?_ne (c : Compiler) (rec : Template) {x : String} (hx : x ≠ rec.name) :
    (c.replace rec).2.snapshot.compiled.find? x = c.snapshot.compiled.find? x := by
  obtain ⟨-, -, hC | ⟨old, -, hC⟩⟩ := replace_cases c rec
  · rw [hC]
  · rw [hC, NameMap.find?_insert_ne _ _ (Ne.symm hx)]

/-- A reload publishes what a run of compiles over its targets publishes after the replace. -/
lemma reload_snapshot (c : Compiler) (rec : Template) :
    (c.reload rec).2.snapshot = ((c.replace rec).2.compileEach (c.reloadTargets rec)).2.snapshot := by
  have hknown : (c.replace rec).2.snapshot.templates.contains rec.name = true := by
    rw [(replace_cases c rec).1, NameMap.contains_iff, NameMap.mem_keys_insert]
    exact .inl rfl
  unfold reload reloadTargets
  rcases hr : c.replace rec with ⟨_ | _, c'⟩
  · rw [hr] at hknown
    simp only [Bool.false_eq_true, if_false]
    rw [← compile_snapshot]
    rcases c'.compile rec.name with ⟨_ | _, c''⟩ <;> rfl
  · rw [hr] at hknown
    simp [recompileDependencies, hknown]


/-- After a reload a view holds what compiling it against the new store gave when the reload
compiled it, and what it held after the replace otherwise. -/
lemma reload_find? (c : Compiler) (rec : Template) (x : String) :
    (c.reload rec).2.snapshot.compiled.find? x =
      if x ∈ c.reloadTargets rec then
        compiledAfter (compileTemplate c.handlers c.maxDepth (c.snapshot.templates.insert rec.name rec) x)
          ((c.replace rec).2.snapshot.compiled.find? x)
      else (c.replace rec).2.snapshot.compiled.find? x := by
  rw [reload_snapshot, compileEach_find?, (replace_cases c rec).1, replace_handlers, replace_maxDepth]

/-- After a reload a view includes what its compile against the new store recorded when the reload
compiled it, and what it included before otherwise. -/
lemma reload_dependenciesOf (c : Compiler) (hT : OwnNamed c.snapshot.templates) (rec : Template)
    (x : String) :
    (c.reload rec).2.snapshot.graph.dependenciesOf x =
      if x ∈ c.reloadTargets rec then
        depsAfter (compileTemplate c.handlers c.maxDepth (c.snapshot.templates.insert rec.name rec) x)
          (c.snapshot.graph.dependenciesOf x)
      else c.snapshot.graph.dependenciesOf x := by
  obtain ⟨hTr, hG, -⟩ := replace_cases c rec
  rw [reload_snapshot, compileEach_dependenciesOf _ (hTr ▸ hT.insert rec), hTr, hG, replace_handlers,
    replace_maxDepth]

/-- A reload that finds the template stale compiles every view that includes it. -/
lemma mem_reloadTargets (c : Compiler) (rec : Template) (hg : c.snapshot.graph.WellFormed)
    (hstale : (c.replace rec).1 = true) {v : String} (hv : rec.name ∈ c.snapshot.graph.dependenciesOf v) :
    v ∈ c.reloadTargets rec := by
  unfold reloadTargets
  rw [if_pos hstale]
  by_cases hne : v = rec.name
  · exact hne ▸ List.mem_cons_self
  · apply List.mem_cons_of_mem
    rw [cascade, (replace_cases c rec).2.1]
    exact DependencyGraph.mem_cascade_of_mem_dependentsOf (hg.mem_dependentsOf.2 hv) hne

/-- A view the reload compiles holds the record and the dependencies its compile against the new
store gave. -/
lemma reload_of_mem_reloadTargets (c : Compiler) (rec : Template) (hc : c.snapshot.Consistent)
    {v : String} (hin : v ∈ c.reloadTargets rec) {r : Template} {d : Option (List String)}
    (hr : compileTemplate c.handlers c.maxDepth (c.snapshot.templates.insert rec.name rec) v =
      .ok (r, d)) :
    (c.reload rec).2.snapshot.compiled.find? v = some r ∧
      (c.reload rec).2.snapshot.graph.dependenciesOf v = d.getD [] := by
  rw [reload_find?, reload_dependenciesOf _ hc.templates_named, if_pos hin, if_pos hin, hr,
    compiledAfter_ok, depsAfter_ok]
  refine ⟨rfl, ?_⟩
  cases d with
  | some ds => rfl
  | none =>
    -- A fragment is in neither graph.
    exact hc.dependenciesOf_of_isFragment (isFragment_of_compileTemplate (hc.templates_named.insert rec) hr)

/-- A view the reload does not compile keeps its record and its dependencies. -/
lemma reload_of_not_mem_reloadTargets (c : Compiler) (rec : Template) (hT : OwnNamed c.snapshot.templates)
    {v : String} (hin : v ∉ c.reloadTargets rec) :
    (c.reload rec).2.snapshot.compiled.find? v = c.snapshot.compiled.find? v ∧
      (c.reload rec).2.snapshot.graph.dependenciesOf v = c.snapshot.graph.dependenciesOf v := by
  have hne : v ≠ rec.name := fun h => hin (h ▸ List.mem_cons_self)
  rw [reload_find?, reload_dependenciesOf _ hT, if_neg hin, if_neg hin, replace_find?_ne _ _ hne]
  exact ⟨rfl, rfl⟩

/-! ### Reloading after a rebuild -/

section Reload

variable (c : Compiler) (records : List Template) (rec : Template)

/-- A view of a rebuild that the reload does not compile compiles against the new store as it did
against the old one, when the reload found the template stale, or the view does not include the
template, or the template keeps its text: a stale template has every view including it among the
reload's targets. -/
lemma compileTemplate_insert_of_not_mem_reloadTargets (hlen : records.length < 2 ^ 32)
    (hrep : rec.name ∈ records.map Template.name) {v : String}
    (hin : v ∉ (c.reset records).compileAll.2.reloadTargets rec) {r₀ : Template}
    {d₀ : Option (List String)}
    (hr₀ : compileTemplate c.handlers c.maxDepth (c.reset records).snapshot.templates v = .ok (r₀, d₀))
    (hcase : ((c.reset records).compileAll.2.replace rec).1 = true ∨
      rec.name ∉ (c.reset records).compileAll.2.snapshot.graph.dependenciesOf v ∨
      ((c.reset records).compileAll.2.snapshot.templates.find? rec.name).map Template.raw =
        some rec.raw) :
    compileTemplate c.handlers c.maxDepth
      ((c.reset records).compileAll.2.snapshot.templates.insert rec.name rec) v = .ok (r₀, d₀) := by
  have hsb := rebuild_consistent c records
  have hne : v ≠ rec.name := fun h => hin (h ▸ List.mem_cons_self)
  have hdeps := (rebuild_of_compileTemplate c records hr₀).2
  have hread : rec.name ∉ d₀.getD [] ∨
      ((c.reset records).compileAll.2.snapshot.templates.find? rec.name).map Template.raw =
        some rec.raw := by
    rcases hcase with hstale | hnot | hraw
    · exact .inl fun hmem =>
        hin (mem_reloadTargets _ _ (rebuild_wellFormed c records hlen) hstale (hdeps ▸ hmem))
    · exact .inl (hdeps ▸ hnot)
    · exact .inr hraw
  have hk : rec.name ∈ (c.reset records).compileAll.2.snapshot.templates.keys := by
    rw [rebuild_templates]
    exact NameMap.mem_keys_ofList.2 (by simpa using hrep)
  rw [← rebuild_templates] at hr₀
  exact compileTemplate_insert hsb.templates_named hk hne hr₀ hread

end Reload

/-- **A reload after a rebuild agrees with a rebuild of the new store.** Take a rebuild of fewer
than `2 ^ 32` records and a record `rec` that replaces one of them. For every view `v` that the
rebuild with `rec` compiles, the reload leaves the same record and dependencies as that rebuild,
when `v` is `rec`'s own view, or `v` was compiled before and the reload found `rec` stale, or `v`
does not include `rec`, or `rec` keeps the text it replaces. -/
theorem reload_matches_rebuild (c : Compiler) (records : List Template) (rec : Template)
    (hlen : records.length < 2 ^ 32) (hrep : rec.name ∈ records.map Template.name) (v : String) :
    let before := (c.reset records).compileAll.2
    let rebuilt := (c.reset (records ++ [rec])).compileAll.2
    v ∈ rebuilt.snapshot.compiled.keys →
    (v = rec.name ∨ v ∈ before.snapshot.compiled.keys ∧
      ((before.replace rec).1 = true ∨ rec.name ∉ before.snapshot.graph.dependenciesOf v ∨
        (before.snapshot.templates.find? rec.name).map Template.raw = some rec.raw)) →
    (before.reload rec).2.snapshot.compiled.find? v = rebuilt.snapshot.compiled.find? v ∧
      (before.reload rec).2.snapshot.graph.dependenciesOf v =
        rebuilt.snapshot.graph.dependenciesOf v := by
  intro before rebuilt hafter hv
  obtain ⟨r, d, hr⟩ := compileTemplate_of_mem_rebuild c _ hafter
  obtain ⟨hfind, hdeps⟩ := rebuild_of_compileTemplate c _ hr
  rw [hfind, hdeps]
  rw [reset_append_templates] at hr
  by_cases hin : v ∈ before.reloadTargets rec
  · -- The reload compiled the view against the new store, as the rebuild did.
    exact reload_of_mem_reloadTargets before rec (rebuild_consistent c records) hin hr
  · -- The view kept its record, and compiling it against the new store gives that record again.
    obtain ⟨hbefore, hcase⟩ := hv.resolve_left fun h => hin (h ▸ List.mem_cons_self)
    obtain ⟨r₀, d₀, hr₀⟩ := compileTemplate_of_mem_rebuild c records hbefore
    have hsame := compileTemplate_insert_of_not_mem_reloadTargets c records rec hlen hrep hin hr₀ hcase
    rw [hr] at hsame
    cases hsame
    obtain ⟨hkept, hkeptDeps⟩ :=
      reload_of_not_mem_reloadTargets before rec (rebuild_consistent c records).templates_named hin
    rw [hkept, hkeptDeps]
    exact rebuild_of_compileTemplate c records hr₀

/-- A reload of a partial that compiled before rebuilds the view that includes it, as a rebuild
does. -/
theorem reload_matches_rebuild_of_stale_partial :
    let c : Compiler := { handlers := Handlers.defaults (BundleSettings.make none false "") none }
    let row : Template :=
      { name := "Shared/Row", displayName := "Row", raw := "a", fingerprint := "1" }
    let index : Template := { name := "Home/Index", displayName := "Index",
                              raw := "<main>%%Partial=Row%%</main>", fingerprint := "2" }
    let row' : Template := { row with raw := "b", fingerprint := "3" }
    "Home/Index" ∈ (c.reset ([index, row] ++ [row'])).compileAll.2.snapshot.compiled.keys ∧
      "Home/Index" ∈ (c.reset [index, row]).compileAll.2.snapshot.compiled.keys ∧
      ((c.reset [index, row]).compileAll.2.replace row').1 = true ∧
      (((c.reset [index, row]).compileAll.2.reload row').2.snapshot.compiled.find? "Home/Index" =
        (c.reset ([index, row] ++ [row'])).compileAll.2.snapshot.compiled.find? "Home/Index") ∧
      (((c.reset [index, row]).compileAll.2.reload row').2.snapshot.graph.dependenciesOf "Home/Index" =
        (c.reset ([index, row] ++ [row'])).compileAll.2.snapshot.graph.dependenciesOf "Home/Index") := by
  intro c row index row'
  have hafter : "Home/Index" ∈ (c.reset ([index, row] ++ [row'])).compileAll.2.snapshot.compiled.keys := by
    decide +kernel
  have hbefore : "Home/Index" ∈ (c.reset [index, row]).compileAll.2.snapshot.compiled.keys := by
    decide +kernel
  have hstale : ((c.reset [index, row]).compileAll.2.replace row').1 = true := by decide +kernel
  have hlen : [index, row].length < 2 ^ 32 := by simp
  have hrep : row'.name ∈ [index, row].map Template.name := by simp [row', row]
  exact ⟨hafter, hbefore, hstale, reload_matches_rebuild c [index, row] row' hlen hrep
    "Home/Index" hafter (.inr ⟨hbefore, .inl hstale⟩)⟩

/-- **A reload misses the views that include a fragment.** A fragment is never stale, so the reload
compiles it alone, and a view that includes it keeps the text it was compiled with, where a
rebuild gives the new text. -/
theorem reload_keeps_included_fragment :
    let c : Compiler := { handlers := Handlers.defaults (BundleSettings.make none false "") none }
    let row : Template :=
      { name := "Shared/RowFragment", displayName := "RowFragment", raw := "a", fingerprint := "1" }
    let index : Template := { name := "Home/Index", displayName := "Index",
                              raw := "<main>%%Partial=RowFragment%%</main>", fingerprint := "2" }
    let row' : Template := { row with raw := "b", fingerprint := "3" }
    let before := (c.reset [index, row]).compileAll.2
    (before.replace row').1 = false ∧
      ((before.reload row').2.snapshot.compiled.find? "Home/Index").map Template.compiled =
        some "<main>a</main>" ∧
      ((c.reset ([index, row] ++ [row'])).compileAll.2.snapshot.compiled.find? "Home/Index").map
        Template.compiled = some "<main>b</main>" := by
  decide +kernel

end Compiler

end Stencil

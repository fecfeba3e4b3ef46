import Stencil.Graph
import Stencil.Proofs.NameMap
/-!
# The dependency graph keeps its reverse index exact

The graph keeps three things in step: the list of inclusions of every view, the ids of the views
(name to id, and id to name by position), and for every included name the set of ids of the views
that include it. `WellFormed` says they agree. It holds of the empty graph, and `add`, `detach`
and `set` keep it as long as fewer than `2 ^ 32` names have ids, the ids being 32-bit numbers
given out in order. From it, the views that include a name are exactly the views whose list holds
the name, in name order and each once (`WellFormed.dependentsOf_eq`).

A program may hold several graphs at once and copy one to change the copy (`GraphFamily`).
Graphs are values, so an operation on one member of the family leaves every other member as it
was, and every member is reachable from the first by `add` and `set`.
-/

namespace Stencil.DependencyGraph

variable {g : DependencyGraph} {view dep d v w : String} {i id : UInt32}

/-- The reverse index lists the id `i` among the views that include `d`. -/
def Indexed (g : DependencyGraph) (d : String) (i : UInt32) : Prop :=
  ∃ bm, g.dependents.find? d = some bm ∧ i ∈ bm.toList

/-- The lists of inclusions, the ids and the reverse index agree. -/
structure WellFormed (g : DependencyGraph) : Prop where
  /-- No view includes a name twice. -/
  nodup : ∀ v, (g.dependenciesOf v).Nodup
  /-- A name has an id exactly when the id's position holds the name. -/
  id_name : ∀ n i, g.ids.find? n = some i ↔ g.names[i.toNat]? = some n
  /-- Every view that includes something has an id. -/
  interned : ∀ v d, d ∈ g.dependenciesOf v → (g.ids.find? v).isSome
  /-- The reverse index holds exactly the ids of the views that include a name. -/
  indexed : ∀ d i, g.Indexed d i ↔ ∃ v, g.ids.find? v = some i ∧ d ∈ g.dependenciesOf v

/-! ### What each operation changes -/

@[simp] lemma dependenciesOf_empty (v : String) : empty.dependenciesOf v = [] := rfl

lemma not_indexed_empty (d : String) (i : UInt32) : ¬ empty.Indexed d i := by
  simp [Indexed, empty]

lemma intern_of_find? (h : g.ids.find? view = some id) : g.intern view = (id, g) := by
  simp [intern, h]

lemma intern_of_find?_none (h : g.ids.find? view = none) :
    g.intern view = (g.names.length.toUInt32,
      { g with ids := g.ids.insert view g.names.length.toUInt32, names := g.names ++ [view] }) := by
  simp [intern, h]

lemma add_of_mem (h : dep ∈ g.dependenciesOf view) : g.add view dep = g := by
  simp [add, h]

lemma add_of_not_mem (h : dep ∉ g.dependenciesOf view) :
    g.add view dep =
      { edges := g.edges.insert view (g.dependenciesOf view ++ [dep])
        dependents := g.dependents.insert dep
          (((g.dependents.find? dep).getD .empty).insert (g.intern view).1)
        ids := (g.intern view).2.ids
        names := (g.intern view).2.names } := by
  unfold add intern
  cases hid : g.ids.find? view <;> simp [h, hid]

lemma dependenciesOf_add (g : DependencyGraph) (view dep w : String) :
    (g.add view dep).dependenciesOf w =
      if w = view ∧ dep ∉ g.dependenciesOf view then g.dependenciesOf view ++ [dep]
      else g.dependenciesOf w := by
  by_cases h : dep ∈ g.dependenciesOf view
  · simp [add_of_mem h, h]
  · rw [add_of_not_mem h]
    by_cases hw : w = view
    · subst hw; rw [if_pos ⟨rfl, h⟩]; simp [dependenciesOf]
    · simp [dependenciesOf, hw, Ne.symm hw]

lemma find?_intern (g : DependencyGraph) (view w : String) :
    (g.intern view).2.ids.find? w = if view = w then some (g.intern view).1 else g.ids.find? w := by
  cases h : g.ids.find? view with
  | some id =>
    rw [intern_of_find? h]
    by_cases hw : view = w
    · subst hw; simp [h]
    · simp [hw]
  | none =>
    rw [intern_of_find?_none h]
    simp [NameMap.find?_insert]

lemma names_intern (g : DependencyGraph) (view : String) :
    g.names <+: (g.intern view).2.names := by
  cases h : g.ids.find? view with
  | some id => simp [intern_of_find? h]
  | none => simp [intern_of_find?_none h]

lemma names_add (g : DependencyGraph) (view dep : String) : g.names <+: (g.add view dep).names := by
  by_cases h : dep ∈ g.dependenciesOf view
  · simp [add_of_mem h]
  · simpa [add_of_not_mem h] using names_intern g view

/-- Giving a fresh name the next id keeps ids and names inverse, while ids stay below `2 ^ 32`. -/
lemma id_name_intern (hid : ∀ n i, g.ids.find? n = some i ↔ g.names[i.toNat]? = some n)
    (hlen : (g.intern view).2.names.length < 2 ^ 32) (n : String) (i : UInt32) :
    (g.intern view).2.ids.find? n = some i ↔ (g.intern view).2.names[i.toNat]? = some n := by
  cases h : g.ids.find? view with
  | some id => rw [intern_of_find? h]; exact hid n i
  | none =>
    rw [intern_of_find?_none h] at hlen ⊢
    simp only [List.length_append, List.length_singleton] at hlen
    have hfresh : (g.names.length.toUInt32).toNat = g.names.length := by
      simp only [Nat.toUInt32]
      exact Nat.mod_eq_of_lt (by omega)
    simp only [NameMap.find?_insert]
    by_cases hn : view = n
    · subst hn
      simp only [if_true, Option.some.injEq]
      constructor
      · rintro rfl; simp [hfresh]
      · intro hi
        -- The position holds the fresh name, which had no id, so it is the new last one.
        by_cases hlt : i.toNat < g.names.length
        · rw [List.getElem?_append_left hlt] at hi
          exact absurd ((hid view i).2 hi) (by simp [h])
        · have hle : i.toNat ≤ g.names.length := by
            obtain ⟨hb, -⟩ := List.getElem?_eq_some_iff.1 hi
            simp only [List.length_append, List.length_singleton] at hb
            omega
          rw [← UInt32.toNat_inj, hfresh]
          omega
    · simp only [hn, if_false]
      rw [hid n i]
      by_cases hlt : i.toNat < g.names.length
      · rw [List.getElem?_append_left hlt]
      · rw [List.getElem?_eq_none (by omega), List.getElem?_append_right (by omega)]
        constructor
        · intro e; exact absurd e (by simp)
        · intro e
          have hi : i.toNat - g.names.length = 0 := by
            obtain ⟨hb, -⟩ := List.getElem?_eq_some_iff.1 e
            simp only [List.length_singleton] at hb
            omega
          exact absurd (by simpa [hi] using e) hn

lemma mem_insertId_iff {k j : UInt32} {js : List UInt32} : k ∈ insertId j js ↔ k = j ∨ k ∈ js := by
  refine ⟨mem_insertId, ?_⟩
  induction js with
  | nil => simp [insertId]
  | cons x xs ih =>
    rintro (rfl | hk)
    · simp only [insertId]
      split
      · simp
      · split
        · rename_i e; simp [e]
        · exact List.mem_cons_of_mem _ (ih (.inl rfl))
    · simp only [insertId]
      split
      · exact List.mem_cons_of_mem _ hk
      · split
        · exact hk
        · rcases List.mem_cons.1 hk with rfl | hk
          · exact List.mem_cons_self
          · exact List.mem_cons_of_mem _ (ih (.inr hk))

@[simp] lemma IdSet.mem_insert {s : IdSet} {j k : UInt32} :
    k ∈ (s.insert j).toList ↔ k = j ∨ k ∈ s.toList :=
  mem_insertId_iff

@[simp] lemma IdSet.mem_erase {s : IdSet} {j k : UInt32} :
    k ∈ (s.erase j).toList ↔ k ∈ s.toList ∧ k ≠ j := by
  simp [IdSet.erase]

@[simp] lemma IdSet.not_mem_empty (k : UInt32) : k ∉ IdSet.empty.toList := by
  simp [IdSet.empty]

/-- Adding a new inclusion puts the view's id under the included name and changes no other
entry of the index. -/
lemma indexed_add (h : dep ∉ g.dependenciesOf view) :
    (g.add view dep).Indexed d i ↔ (d = dep ∧ i = (g.intern view).1) ∨ g.Indexed d i := by
  rw [add_of_not_mem h]
  simp only [Indexed, NameMap.find?_insert]
  by_cases hd : dep = d
  · subst hd
    cases g.dependents.find? dep <;> simp
  · simp [hd, Ne.symm hd]

/-- Adding an inclusion keeps the graph well formed while fewer than `2 ^ 32` names have ids. -/
lemma WellFormed.add (hg : g.WellFormed) (hlen : (g.add view dep).names.length < 2 ^ 32) :
    (g.add view dep).WellFormed := by
  by_cases h : dep ∈ g.dependenciesOf view
  · rwa [add_of_mem h]
  have hids : ∀ w, (g.add view dep).ids.find? w =
      if view = w then some (g.intern view).1 else g.ids.find? w := by
    intro w; rw [add_of_not_mem h]; exact find?_intern g view w
  -- A view that already included something keeps the id it had.
  have hown : ∀ d', d' ∈ g.dependenciesOf view → g.ids.find? view = some (g.intern view).1 := by
    intro d' hd'
    obtain ⟨id, hid⟩ := Option.isSome_iff_exists.1 (hg.interned view d' hd')
    rw [hid, intern_of_find? hid]
  refine ⟨?_, ?_, ?_, ?_⟩
  · intro w
    rw [dependenciesOf_add]
    split
    · refine List.nodup_append.2 ⟨hg.nodup view, List.nodup_singleton dep, fun a ha b hb => ?_⟩
      rw [List.mem_singleton] at hb
      rintro rfl
      exact h (hb ▸ ha)
    · exact hg.nodup w
  · rw [add_of_not_mem h] at hlen ⊢
    exact id_name_intern hg.id_name hlen
  · intro w d' hd'
    rw [hids]
    by_cases hw : view = w
    · simp [hw]
    · rw [dependenciesOf_add, if_neg (fun e => hw e.1.symm)] at hd'
      simpa [hw] using hg.interned w d' hd'
  · intro d' i
    rw [indexed_add h, hg.indexed]
    simp only [hids, dependenciesOf_add]
    constructor
    · rintro (⟨rfl, rfl⟩ | ⟨w, hw, hd'⟩)
      · exact ⟨view, by simp, by simp [h]⟩
      · by_cases e : view = w
        · subst e
          refine ⟨view, by simp [← hown d' hd', hw], by simp [h, hd']⟩
        · exact ⟨w, by simp [e, hw], by simp [Ne.symm e, hd']⟩
    · rintro ⟨w, hw, hd'⟩
      by_cases e : view = w
      · subst e
        simp only [if_true, Option.some.injEq, h, not_false_eq_true, and_self,
          List.mem_append, List.mem_singleton] at hw hd'
        rcases hd' with hd' | rfl
        · exact .inr ⟨view, by rw [hown d' hd', hw], hd'⟩
        · exact .inl ⟨rfl, hw.symm⟩
      · simp only [e, if_false, Ne.symm e, false_and] at hw hd'
        exact .inr ⟨w, hw, hd'⟩

/-- Two views with the same id are the same view. -/
lemma WellFormed.ids_inj (hg : g.WellFormed) (hv : g.ids.find? v = some i)
    (hw : g.ids.find? w = some i) : v = w := by
  rw [hg.id_name] at hv hw
  rw [hv] at hw
  exact Option.some.inj hw

@[simp] lemma release_edges (g : DependencyGraph) (id : UInt32) (dep : String) :
    (g.release id dep).edges = g.edges := by
  unfold release; split <;> rfl

@[simp] lemma release_ids (g : DependencyGraph) (id : UInt32) (dep : String) :
    (g.release id dep).ids = g.ids := by
  unfold release; split <;> rfl

@[simp] lemma release_names (g : DependencyGraph) (id : UInt32) (dep : String) :
    (g.release id dep).names = g.names := by
  unfold release; split <;> rfl

/-- Releasing takes exactly the one id out from under the one name. -/
lemma indexed_release : (g.release id dep).Indexed d i ↔ g.Indexed d i ∧ (d = dep → i ≠ id) := by
  unfold release
  cases hbm : g.dependents.find? dep with
  | none =>
    simp only
    constructor
    · intro hi
      refine ⟨hi, ?_⟩
      rintro rfl
      obtain ⟨bm, hbm', -⟩ := hi
      simp [hbm] at hbm'
    · exact fun hi => hi.1
  | some bm =>
    simp only [Indexed]
    by_cases hd : dep = d
    · subst hd
      split
      · rename_i hempty
        -- The emptied set is dropped, and nothing was left in it.
        have hnil : (bm.erase id).toList = [] := List.isEmpty_iff.1 hempty
        rw [NameMap.find?_erase_self, hbm]
        constructor
        · rintro ⟨_, h, _⟩; cases h
        · rintro ⟨⟨_, h, hi⟩, hne⟩
          cases h
          have : i ∈ (bm.erase id).toList := IdSet.mem_erase.2 ⟨hi, hne rfl⟩
          simp [hnil] at this
      · simp [hbm]
    · split <;> simp [hd, Ne.symm hd]

lemma foldl_release_fields (L : List String) (g : DependencyGraph) :
    let g' := L.foldl (fun (g : DependencyGraph) dep => g.release id dep) g
    g'.edges = g.edges ∧ g'.ids = g.ids ∧ g'.names = g.names := by
  induction L generalizing g with
  | nil => simp
  | cons dep L ih => simpa using ih (g.release id dep)

lemma indexed_foldl_release (L : List String) (g : DependencyGraph) :
    (L.foldl (fun (g : DependencyGraph) dep => g.release id dep) g).Indexed d i ↔
      g.Indexed d i ∧ (d ∈ L → i ≠ id) := by
  induction L generalizing g with
  | nil => simp
  | cons dep L ih =>
    rw [List.foldl_cons, ih, indexed_release]
    simp only [List.mem_cons]
    constructor
    · rintro ⟨⟨hi, h1⟩, h2⟩
      exact ⟨hi, fun hd => hd.elim h1 h2⟩
    · rintro ⟨hi, h⟩
      exact ⟨⟨hi, fun hd => h (.inl hd)⟩, fun hd => h (.inr hd)⟩

@[simp] lemma detach_edges (g : DependencyGraph) (view : String) :
    (g.detach view).edges = g.edges.insert view [] := by
  unfold detach; split
  · exact congrArg (fun e => NameMap.insert e view []) (foldl_release_fields _ g).1
  · rfl

@[simp] lemma detach_ids (g : DependencyGraph) (view : String) : (g.detach view).ids = g.ids := by
  unfold detach; split
  · exact (foldl_release_fields _ g).2.1
  · rfl

@[simp] lemma detach_names (g : DependencyGraph) (view : String) :
    (g.detach view).names = g.names := by
  unfold detach; split
  · exact (foldl_release_fields _ g).2.2
  · rfl

lemma dependenciesOf_detach (g : DependencyGraph) (view w : String) :
    (g.detach view).dependenciesOf w = if w = view then [] else g.dependenciesOf w := by
  by_cases hw : w = view
  · subst hw; simp [dependenciesOf]
  · simp [dependenciesOf, hw, Ne.symm hw]

/-- Detaching takes the view's id out from under every name it included. -/
lemma indexed_detach :
    (g.detach view).Indexed d i ↔
      g.Indexed d i ∧ (d ∈ g.dependenciesOf view → g.ids.find? view ≠ some i) := by
  unfold detach
  cases hid : g.ids.find? view with
  | none => simp [Indexed]
  | some id =>
    simp only [Indexed] at *
    rw [← Indexed, ← Indexed, indexed_foldl_release]
    simp [eq_comm]

/-- Detaching a view keeps the graph well formed. -/
lemma WellFormed.detach (hg : g.WellFormed) (view : String) : (g.detach view).WellFormed := by
  refine ⟨?_, ?_, ?_, ?_⟩
  · intro w
    rw [dependenciesOf_detach]
    split
    · exact List.nodup_nil
    · exact hg.nodup w
  · simpa using hg.id_name
  · intro w d' hd'
    rw [dependenciesOf_detach] at hd'
    split at hd'
    · simp at hd'
    · simpa using hg.interned w d' hd'
  · intro d' i
    rw [indexed_detach, hg.indexed]
    simp only [detach_ids, dependenciesOf_detach]
    constructor
    · rintro ⟨⟨w, hw, hd'⟩, hnot⟩
      refine ⟨w, hw, ?_⟩
      split
      · rename_i e; subst e; exact absurd hw (hnot hd')
      · exact hd'
    · rintro ⟨w, hw, hd'⟩
      split at hd'
      · simp at hd'
      · rename_i e
        refine ⟨⟨w, hw, hd'⟩, fun _ hv => e (hg.ids_inj hw hv)⟩

/-! ### Setting what a view includes -/

lemma mem_views_add : w ∈ (g.add view dep).views ↔ w = view ∧ dep ∉ g.dependenciesOf view ∨ w ∈ g.views := by
  by_cases h : dep ∈ g.dependenciesOf view
  · simp [add_of_mem h, h]
  · simp [add_of_not_mem h, views, h]

section Adds

variable (view : String)

/-- Adding one name after another to the same view. -/
abbrev addAll (g : DependencyGraph) (ds : List String) : DependencyGraph :=
  ds.foldl (fun g d => g.add view d) g

lemma names_addAll (ds : List String) (g : DependencyGraph) : g.names <+: (addAll view g ds).names := by
  induction ds generalizing g with
  | nil => exact List.prefix_refl _
  | cons d ds ih => exact (names_add g view d).trans (ih _)

lemma dependenciesOf_addAll_ne (h : w ≠ view) (ds : List String) (g : DependencyGraph) :
    (addAll view g ds).dependenciesOf w = g.dependenciesOf w := by
  induction ds generalizing g with
  | nil => rfl
  | cons d ds ih => simp [ih, dependenciesOf_add, h]

lemma mem_dependenciesOf_addAll (ds : List String) (g : DependencyGraph) :
    d ∈ (addAll view g ds).dependenciesOf view ↔ d ∈ g.dependenciesOf view ∨ d ∈ ds := by
  induction ds generalizing g with
  | nil => simp
  | cons d' ds ih =>
    show d ∈ (addAll view (g.add view d') ds).dependenciesOf view ↔ _
    rw [ih, dependenciesOf_add]
    by_cases h : d' ∈ g.dependenciesOf view
    · simp only [h, not_true_eq_false, and_false, if_false, List.mem_cons]
      -- The name added was already there.
      constructor
      · rintro (h' | h')
        · exact .inl h'
        · exact .inr (.inr h')
      · rintro (h' | rfl | h')
        · exact .inl h'
        · exact .inl h
        · exact .inr h'
    · simp only [h, not_false_eq_true, and_self, if_true, List.mem_append, List.mem_cons,
        List.not_mem_nil, or_false]
      constructor
      · rintro ((h' | rfl) | h')
        · exact .inl h'
        · exact .inr (.inl rfl)
        · exact .inr (.inr h')
      · rintro (h' | rfl | h')
        · exact .inl (.inl h')
        · exact .inl (.inr rfl)
        · exact .inr h'

lemma dependenciesOf_addAll_of_nodup {ds : List String} (hds : ds.Nodup)
    (hdis : ∀ d ∈ ds, d ∉ g.dependenciesOf view) :
    (addAll view g ds).dependenciesOf view = g.dependenciesOf view ++ ds := by
  induction ds generalizing g with
  | nil => simp
  | cons d ds ih =>
    have hd := hdis d List.mem_cons_self
    simp only [List.foldl_cons]
    rw [ih (List.nodup_cons.1 hds).2]
    · simp [dependenciesOf_add, hd]
    · intro d' hd'
      rw [dependenciesOf_add, if_pos ⟨rfl, hd⟩, List.mem_append, List.mem_singleton, not_or]
      exact ⟨hdis d' (List.mem_cons_of_mem _ hd'),
        fun e => (List.nodup_cons.1 hds).1 (e ▸ hd')⟩

/-- Adding new names one after another records the view's list grown by them. -/
lemma edges_addAll_of_nodup (E : NameMap (List String)) {ds : List String} (hds : ds.Nodup) :
    ∀ {g : DependencyGraph}, g.edges = E.insert view (g.dependenciesOf view) →
      (∀ d ∈ ds, d ∉ g.dependenciesOf view) →
        (addAll view g ds).edges = E.insert view (g.dependenciesOf view ++ ds) := by
  induction ds with
  | nil => intro g hE _; simpa using hE
  | cons d ds ih =>
    intro g hE hdis
    have hd := hdis d List.mem_cons_self
    have hdeps : (g.add view d).dependenciesOf view = g.dependenciesOf view ++ [d] := by
      rw [dependenciesOf_add, if_pos ⟨rfl, hd⟩]
    simp only [List.foldl_cons]
    rw [ih (List.nodup_cons.1 hds).2, hdeps, List.append_assoc, List.singleton_append]
    · rw [hdeps, add_of_not_mem hd]
      simp [hE]
    · intro d' hd'
      rw [hdeps, List.mem_append, List.mem_singleton, not_or]
      exact ⟨hdis d' (List.mem_cons_of_mem _ hd'), fun e => (List.nodup_cons.1 hds).1 (e ▸ hd')⟩

lemma mem_views_addAll (ds : List String) (g : DependencyGraph) :
    w ∈ (addAll view g ds).views ↔ (w = view ∧ ∃ d ∈ ds, d ∉ g.dependenciesOf view) ∨ w ∈ g.views := by
  induction ds generalizing g with
  | nil => simp
  | cons d ds ih =>
    simp only [List.foldl_cons, ih, mem_views_add, List.mem_cons, dependenciesOf_add]
    by_cases hd : d ∈ g.dependenciesOf view <;> by_cases hw : w = view <;> simp_all

lemma WellFormed.addAll (ds : List String) (hg : g.WellFormed)
    (hlen : (addAll view g ds).names.length < 2 ^ 32) : (addAll view g ds).WellFormed := by
  induction ds generalizing g with
  | nil => exact hg
  | cons d ds ih =>
    -- The names only grow, so the bound at the end holds at every step.
    have hstep : (g.add view d).names.length < 2 ^ 32 :=
      lt_of_le_of_lt (names_addAll view ds (g.add view d)).length_le hlen
    exact ih (hg.add hstep) hlen

end Adds

lemma set_eq_addAll (g : DependencyGraph) (view : String) (ds : List String) :
    g.set view ds = addAll view (g.detach view) ds := rfl

lemma dependenciesOf_set_ne (h : w ≠ view) (ds : List String) :
    (g.set view ds).dependenciesOf w = g.dependenciesOf w := by
  rw [set_eq_addAll, dependenciesOf_addAll_ne view h, dependenciesOf_detach, if_neg h]

@[simp] lemma mem_dependenciesOf_set (ds : List String) :
    d ∈ (g.set view ds).dependenciesOf view ↔ d ∈ ds := by
  simp [set_eq_addAll, mem_dependenciesOf_addAll, dependenciesOf_detach]

/-- A list without repeats is recorded as it is. -/
lemma dependenciesOf_set_of_nodup {ds : List String} (hds : ds.Nodup) :
    (g.set view ds).dependenciesOf view = ds := by
  rw [set_eq_addAll, dependenciesOf_addAll_of_nodup view hds] <;> simp [dependenciesOf_detach]

@[simp] lemma mem_views_set (ds : List String) : w ∈ (g.set view ds).views ↔ w = view ∨ w ∈ g.views := by
  rw [set_eq_addAll, mem_views_addAll]
  simp only [views, detach_edges, NameMap.mem_keys_insert, dependenciesOf_detach, if_true,
    List.not_mem_nil, not_false_eq_true, and_true]
  constructor
  · rintro (⟨rfl, -⟩ | h) <;> simp_all
  · rintro (rfl | h) <;> simp_all

lemma names_set (g : DependencyGraph) (view : String) (ds : List String) :
    g.names <+: (g.set view ds).names := by
  simpa [set_eq_addAll] using names_addAll view ds (g.detach view)

/-- Setting a list without repeats binds the view to it in the lists of inclusions. -/
lemma edges_set_of_nodup {ds : List String} (hds : ds.Nodup) :
    (g.set view ds).edges = g.edges.insert view ds := by
  rw [set_eq_addAll, edges_addAll_of_nodup view g.edges hds] <;> simp [dependenciesOf_detach]

/-- Setting what a view includes keeps the graph well formed while fewer than `2 ^ 32` names
have ids. -/
lemma WellFormed.set (hg : g.WellFormed) (hlen : (g.set view ds).names.length < 2 ^ 32) :
    (g.set view ds).WellFormed :=
  (hg.detach view).addAll view ds hlen

/-! ### Reading the reverse index -/

/-- A view is listed as including `d` exactly when its own list holds `d`. -/
lemma WellFormed.mem_dependentsOf (hg : g.WellFormed) : v ∈ g.dependentsOf d ↔ d ∈ g.dependenciesOf v := by
  unfold dependentsOf
  cases hbm : g.dependents.find? d with
  | none =>
    simp only [List.not_mem_nil, false_iff]
    intro hd
    obtain ⟨i, hi⟩ := Option.isSome_iff_exists.1 (hg.interned v d hd)
    obtain ⟨bm, hbm', -⟩ := (hg.indexed d i).2 ⟨v, hi, hd⟩
    simp [hbm] at hbm'
  | some bm =>
    simp only [List.mem_mergeSort, List.mem_filterMap]
    constructor
    · rintro ⟨i, hi, hname⟩
      obtain ⟨w, hw, hdw⟩ := (hg.indexed d i).1 ⟨bm, hbm, hi⟩
      rwa [hg.ids_inj ((hg.id_name v i).2 hname) hw]
    · intro hd
      obtain ⟨i, hi⟩ := Option.isSome_iff_exists.1 (hg.interned v d hd)
      obtain ⟨bm', hbm', hmem⟩ := (hg.indexed d i).2 ⟨v, hi, hd⟩
      rw [hbm] at hbm'
      cases hbm'
      exact ⟨i, hmem, (hg.id_name v i).1 hi⟩

/-- Distinct ids name distinct views, so no view is listed twice. -/
lemma WellFormed.nodup_dependentsOf (hg : g.WellFormed) (d : String) : (g.dependentsOf d).Nodup := by
  unfold dependentsOf
  split
  · exact List.nodup_nil
  · rename_i bm _
    refine (List.mergeSort_perm _ _).nodup_iff.2 (List.Nodup.filterMap ?_ ?_)
    · intro a a' b ha ha'
      have h1 := (hg.id_name b a).2 ha
      have h2 := (hg.id_name b a').2 ha'
      rw [h1] at h2
      exact Option.some.inj h2
    · exact bm.increasing.imp fun h => ne_of_apply_ne UInt32.toNat (Nat.ne_of_lt h)

lemma WellFormed.dependentsOf_increasing (hg : g.WellFormed) (d : String) :
    (g.dependentsOf d).Pairwise (· < ·) := by
  have hle : (g.dependentsOf d).Pairwise (· ≤ ·) := by
    unfold dependentsOf
    split
    · exact List.Pairwise.nil
    · rename_i bm _
      let L := bm.toList.filterMap fun id => g.names[id.toNat]?
      have : (L.mergeSort fun a b => decide (a ≤ b)).Pairwise fun a b => decide (a ≤ b) :=
        List.pairwise_mergeSort
          (fun a b c hab hbc => by simp only [decide_eq_true_eq] at *; exact le_trans hab hbc)
          (fun a b => by simpa using le_total a b) L
      simpa using this
  exact (hle.and (hg.nodup_dependentsOf d)).imp fun ⟨h1, h2⟩ => lt_of_le_of_ne h1 h2

/-- The views that include a name, read off the reverse index, are exactly the views whose list
holds the name, in name order. -/
theorem WellFormed.dependentsOf_eq (hg : g.WellFormed) (d : String) :
    g.dependentsOf d = g.views.filter fun v => (g.dependenciesOf v).contains d := by
  refine List.Pairwise.eq_of_mem_iff (hg.dependentsOf_increasing d)
    (g.edges.keys_sorted.filter _) fun v => ?_
  rw [hg.mem_dependentsOf, List.mem_filter, List.contains_iff_mem]
  constructor
  · intro hd
    refine ⟨?_, hd⟩
    -- A view with a nonempty list is recorded.
    have hsome : (g.edges.find? v).isSome := by
      cases h : g.edges.find? v with
      | none => simp [dependenciesOf, h] at hd
      | some _ => rfl
    exact (NameMap.find?_isSome_iff _ _).1 hsome
  · exact fun h => h.2

/-! ### Reachable graphs -/

lemma WellFormed.empty : (empty : DependencyGraph).WellFormed where
  nodup _ := List.nodup_nil
  id_name n i := by simp [DependencyGraph.empty]
  interned _ _ h := by simp at h
  indexed d i := iff_of_false (not_indexed_empty d i) (by simp)

/-- The graphs a program can build: from the empty graph by `add` and `set`. -/
inductive Reachable : DependencyGraph → Prop
  | empty : Reachable .empty
  | add {g : DependencyGraph} (view dep : String) : Reachable g → Reachable (g.add view dep)
  | set {g : DependencyGraph} (view : String) (deps : List String) :
      Reachable g → Reachable (g.set view deps)

/-- A graph read from an adjacency map is the empty graph with each view set in turn. -/
lemma Reachable.ofEntries (m : NameMap (List String)) : Reachable (ofEntries m) := by
  unfold DependencyGraph.ofEntries
  suffices ∀ (es : List (String × List String)) g, Reachable g →
      Reachable (es.foldl (fun g (p : String × List String) => g.set p.1 p.2) g) from
    this _ _ .empty
  intro es
  induction es with
  | nil => exact fun _ h => h
  | cons e es ih => exact fun _ h => ih _ (.set e.1 e.2 h)

section OfEntries

variable (es : List (String × List String))

lemma foldl_set_views : ∀ (g : DependencyGraph) (v : String),
    v ∈ (es.foldl (fun g (p : String × List String) => g.set p.1 p.2) g).views ↔
      v ∈ g.views ∨ v ∈ es.map Prod.fst := by
  induction es with
  | nil => simp
  | cons e es ih =>
    intro g v
    rw [List.foldl_cons, ih, mem_views_set]
    simp only [List.map_cons, List.mem_cons]
    constructor
    · rintro ((h | h) | h)
      · exact .inr (.inl h)
      · exact .inl h
      · exact .inr (.inr h)
    · rintro (h | h | h)
      · exact .inl (.inr h)
      · exact .inl (.inl h)
      · exact .inr h

lemma foldl_set_dependenciesOf : ∀ (g : DependencyGraph) {v d : String},
    d ∈ (es.foldl (fun g (p : String × List String) => g.set p.1 p.2) g).dependenciesOf v →
      d ∈ g.dependenciesOf v ∨ ∃ ds, (v, ds) ∈ es ∧ d ∈ ds := by
  induction es with
  | nil => exact fun _ _ _ h => .inl h
  | cons e es ih =>
    intro g v d h
    rcases ih _ h with h | ⟨ds, hds, hd⟩
    · by_cases hv : v = e.1
      · subst hv
        rw [mem_dependenciesOf_set] at h
        exact .inr ⟨e.2, List.mem_cons_self, h⟩
      · rw [dependenciesOf_set_ne hv] at h
        exact .inl h
    · exact .inr ⟨ds, List.mem_cons_of_mem _ hds, hd⟩

/-- Setting lists without repeats in turn inserts them in turn into the lists of inclusions. -/
lemma foldl_set_edges (hes : ∀ p ∈ es, p.2.Nodup) : ∀ g : DependencyGraph,
    (es.foldl (fun g (p : String × List String) => g.set p.1 p.2) g).edges =
      es.foldl (fun m (p : String × List String) => m.insert p.1 p.2) g.edges := by
  induction es with
  | nil => exact fun _ => rfl
  | cons e es ih =>
    intro g
    rw [List.foldl_cons, List.foldl_cons, ih (fun p hp => hes p (List.mem_cons_of_mem _ hp)),
      edges_set_of_nodup (hes e List.mem_cons_self)]

end OfEntries

/-- The views of a graph read from an adjacency map are the map's names. -/
lemma mem_views_ofEntries (m : NameMap (List String)) : v ∈ (ofEntries m).views ↔ v ∈ m.keys := by
  unfold DependencyGraph.ofEntries
  rw [foldl_set_views]
  simp [views, DependencyGraph.empty, NameMap.keys, NameMap.empty]

/-- What a view of a graph read from an adjacency map includes is listed for it in the map. -/
lemma mem_dependenciesOf_ofEntries {m : NameMap (List String)}
    (h : d ∈ (ofEntries m).dependenciesOf v) : ∃ ds, (v, ds) ∈ m.entries ∧ d ∈ ds := by
  unfold DependencyGraph.ofEntries at h
  rcases foldl_set_dependenciesOf _ _ h with h | h
  · simp at h
  · exact h

/-- A graph read from an adjacency map without repeated inclusions keeps the map as its lists
of inclusions. -/
lemma edges_ofEntries {m : NameMap (List String)} (hnd : ∀ v ds, (v, ds) ∈ m.entries → ds.Nodup) :
    (ofEntries m).edges = m := by
  unfold DependencyGraph.ofEntries
  rw [foldl_set_edges _ (fun p hp => hnd p.1 p.2 hp)]
  exact NameMap.ofList_of_sorted m.sorted

/-- Every graph a program builds is well formed while fewer than `2 ^ 32` names have ids. -/
lemma Reachable.wellFormed (h : Reachable g) (hlen : g.names.length < 2 ^ 32) : g.WellFormed := by
  induction h with
  | empty => exact .empty
  | add view dep _ ih =>
    exact (ih (lt_of_le_of_lt (names_add _ view dep).length_le hlen)).add hlen
  | set view deps _ ih =>
    exact (ih (lt_of_le_of_lt (names_set _ view deps).length_le hlen)).set hlen

/-! ### Interned names -/

/-- The interned names are the names with an id, each once, and each a view. -/
structure Interned (g : DependencyGraph) : Prop where
  /-- A name has an id exactly when it is interned. -/
  ids : ∀ n, (g.ids.find? n).isSome ↔ n ∈ g.names
  /-- No name is interned twice. -/
  nodup : g.names.Nodup
  /-- Every interned name is a view. -/
  views : ∀ n ∈ g.names, n ∈ g.views

lemma Interned.empty : (empty : DependencyGraph).Interned where
  ids n := by simp [DependencyGraph.empty]
  nodup := List.nodup_nil
  views n h := by simp [DependencyGraph.empty] at h

/-- Interning a name keeps ids and interned names in step, and interns nothing but that name. -/
lemma Interned.intern (hg : g.Interned) (view : String) :
    (∀ n, ((g.intern view).2.ids.find? n).isSome ↔ n ∈ (g.intern view).2.names) ∧
      (g.intern view).2.names.Nodup ∧ ∀ n ∈ (g.intern view).2.names, n = view ∨ n ∈ g.names := by
  cases h : g.ids.find? view with
  | some id =>
    rw [intern_of_find? h]
    exact ⟨hg.ids, hg.nodup, fun n hn => .inr hn⟩
  | none =>
    rw [intern_of_find?_none h]
    -- A name without an id is not interned yet, so it joins the names once.
    have hv : view ∉ g.names := by rw [← hg.ids, h]; simp
    refine ⟨fun n => ?_, ?_, fun n hn => ?_⟩
    · by_cases hn : view = n
      · subst hn; simp
      · simp [hn, hg.ids, Ne.symm hn]
    · exact hg.nodup.append (List.nodup_singleton view) (by simpa using hv)
    · simp only [List.mem_append, List.mem_singleton] at hn
      exact hn.symm.imp id id

lemma Interned.add (hg : g.Interned) (view dep : String) : (g.add view dep).Interned := by
  by_cases h : dep ∈ g.dependenciesOf view
  · rwa [add_of_mem h]
  · obtain ⟨hids, hnd, hsub⟩ := hg.intern view
    rw [add_of_not_mem h]
    refine ⟨hids, hnd, fun n hn => ?_⟩
    simp only [DependencyGraph.views, NameMap.mem_keys_insert]
    rcases hsub n hn with rfl | hn
    · exact .inl rfl
    · exact .inr (hg.views n hn)

lemma Interned.detach (hg : g.Interned) (view : String) : (g.detach view).Interned where
  ids n := by rw [detach_ids, detach_names]; exact hg.ids n
  nodup := by rw [detach_names]; exact hg.nodup
  views n hn := by
    rw [detach_names] at hn
    simp only [DependencyGraph.views, detach_edges, NameMap.mem_keys_insert]
    exact .inr (hg.views n hn)

lemma Interned.set (hg : g.Interned) (view : String) (ds : List String) : (g.set view ds).Interned := by
  rw [set_eq_addAll]
  suffices ∀ (ds : List String) (g : DependencyGraph), g.Interned → (addAll view g ds).Interned from
    this ds _ (hg.detach view)
  intro ds
  induction ds with
  | nil => exact fun _ h => h
  | cons d ds ih => exact fun g h => ih _ (h.add view d)

lemma Reachable.interned (h : Reachable g) : g.Interned := by
  induction h with
  | empty => exact .empty
  | add view dep _ ih => exact ih.add view dep
  | set view deps _ ih => exact ih.set view deps

/-- Every graph a program builds is well formed while it has fewer than `2 ^ 32` views: only
views are interned, each once. -/
lemma Reachable.wellFormed_of_views (h : Reachable g) (hlen : g.views.length < 2 ^ 32) :
    g.WellFormed :=
  have hint := h.interned
  h.wellFormed (lt_of_le_of_lt (List.subperm_of_subset hint.nodup hint.views).length_le hlen)

/-! ### Cascades -/

/-- A search only adds to the names it found. -/
lemma found_subset_search (g : DependencyGraph) :
    ∀ (fuel : Nat) (queue seen found : List String), found ⊆ g.search fuel queue seen found
  | 0, _, _, _ => by simp [search]
  | _ + 1, [], _, _ => by simp [search]
  | fuel + 1, current :: queue, seen, found => by
    simp only [search]
    exact fun x hx => found_subset_search g fuel _ _ _ (List.mem_append_left _ hx)

/-- Every view that includes a name directly, the name itself apart, is in its cascade. -/
lemma mem_cascade_of_mem_dependentsOf {name v : String} (h : v ∈ g.dependentsOf name)
    (hne : v ≠ name) : v ∈ g.cascade name := by
  unfold cascade
  simp only [search]
  apply found_subset_search
  simp [h, hne]

/-- Two well-formed graphs with the same lists of inclusions list the same views as including a
name, however their ids were given out. -/
lemma WellFormed.dependentsOf_congr {g' : DependencyGraph} (hg : g.WellFormed)
    (hg' : g'.WellFormed) (he : g.edges = g'.edges) (d : String) :
    g.dependentsOf d = g'.dependentsOf d := by
  rw [hg.dependentsOf_eq, hg'.dependentsOf_eq]
  simp only [views, dependenciesOf, he]

/-- A search reads the graph only through the views including each name. -/
lemma search_congr {g' : DependencyGraph} (h : ∀ d, g.dependentsOf d = g'.dependentsOf d) :
    ∀ (fuel : Nat) (queue seen found : List String),
      g.search fuel queue seen found = g'.search fuel queue seen found
  | 0, _, _, _ => by simp [search]
  | _ + 1, [], _, _ => by simp [search]
  | fuel + 1, current :: queue, seen, found => by
    simp only [search, h current]
    exact search_congr h fuel _ _ _

/-- Two well-formed graphs with the same lists of inclusions have the same cascades. -/
lemma WellFormed.cascade_congr {g' : DependencyGraph} (hg : g.WellFormed) (hg' : g'.WellFormed)
    (he : g.edges = g'.edges) (name : String) : g.cascade name = g'.cascade name := by
  have hsize : g.size = g'.size := by simp only [size, he]
  rw [cascade, cascade, hsize]
  exact search_congr (hg.dependentsOf_congr hg' he) _ _ _ _

/-! ### Families of graphs -/

/-- An operation on a family of graphs held at once: `add` and `set` change member `i`, and
`clone i` puts a copy of member `i` at the end. -/
inductive FamilyOp where
  | add (i : Nat) (view dep : String)
  | set (i : Nat) (view : String) (deps : List String)
  | clone (i : Nat)

namespace FamilyOp

/-- The member an operation changes, if any. -/
def target : FamilyOp → Option Nat
  | .add i .. | .set i .. => some i
  | .clone _ => none

/-- Runs an operation on a family; an index out of range changes nothing. -/
def run (gs : List DependencyGraph) : FamilyOp → List DependencyGraph
  | .add i v d => gs.modify i fun g => g.add v d
  | .set i v ds => gs.modify i fun g => g.set v ds
  | .clone i =>
    match gs[i]? with
    | some g => gs ++ [g]
    | none => gs

/-- An operation leaves every member it does not target as it was. -/
lemma run_getElem?_of_ne (gs : List DependencyGraph) (op : FamilyOp) {j : Nat}
    (hj : op.target ≠ some j) (hlt : j < gs.length) : (op.run gs)[j]? = gs[j]? := by
  cases op with
  | add i v d => exact List.getElem?_modify_ne _ _ (fun e => hj (congrArg some e))
  | set i v ds => exact List.getElem?_modify_ne _ _ (fun e => hj (congrArg some e))
  | clone i =>
    simp only [run]
    split
    · exact List.getElem?_append_left hlt
    · rfl

lemma mem_modify {gs : List DependencyGraph} {i : Nat} {f : DependencyGraph → DependencyGraph}
    (hg : g ∈ gs.modify i f) : g ∈ gs ∨ ∃ g' ∈ gs, g = f g' := by
  obtain ⟨j, hj⟩ := List.mem_iff_getElem?.1 hg
  by_cases e : i = j
  · subst e
    rw [List.getElem?_modify_eq] at hj
    obtain ⟨g', hg', rfl⟩ := Option.map_eq_some_iff.1 hj
    exact .inr ⟨g', List.mem_of_getElem? hg', rfl⟩
  · rw [List.getElem?_modify_ne _ _ e] at hj
    exact .inl (List.mem_of_getElem? hj)

/-- Every member after an operation is a member before it, or one that `add` or `set` changed. -/
lemma run_reachable {gs : List DependencyGraph} (hgs : ∀ g ∈ gs, Reachable g) (op : FamilyOp) :
    ∀ g ∈ op.run gs, Reachable g := by
  intro g hg
  cases op with
  | add i v d =>
    rcases mem_modify hg with hg | ⟨g', hg', rfl⟩
    · exact hgs g hg
    · exact .add v d (hgs g' hg')
  | set i v ds =>
    rcases mem_modify hg with hg | ⟨g', hg', rfl⟩
    · exact hgs g hg
    · exact .set v ds (hgs g' hg')
  | clone i =>
    simp only [run] at hg
    split at hg
    · rename_i g' hg'
      rcases List.mem_append.1 hg with hg | hg
      · exact hgs g hg
      · rw [List.mem_singleton.1 hg]; exact hgs g' (List.mem_of_getElem? hg')
    · exact hgs g hg

end FamilyOp

/-- The family a program holds after `ops`, starting from one graph read from an adjacency map
(the empty graph is the one read from the empty map). -/
def family (m : NameMap (List String)) (ops : List FamilyOp) : List DependencyGraph :=
  ops.foldl FamilyOp.run [ofEntries m]

lemma reachable_of_mem_family {m : NameMap (List String)} {ops : List FamilyOp}
    (hg : g ∈ family m ops) : Reachable g := by
  unfold family at hg
  suffices ∀ gs, (∀ g ∈ gs, Reachable g) → ∀ g ∈ ops.foldl FamilyOp.run gs, Reachable g from
    this _ (by simpa using Reachable.ofEntries m) g hg
  clear hg
  induction ops with
  | nil => exact fun _ h => h
  | cons op ops ih => exact fun gs h => ih _ (FamilyOp.run_reachable h op)

/-- **The reverse index is exact.** In every family of graphs a program can hold, a member with
fewer than `2 ^ 32` ids has duplicate-free lists, ids and names inverse to each other, and lists
as the views that include a name exactly the views whose list holds it, in strictly increasing
name order; once a
view's list is set, it is listed under no name outside the new list. An operation on one member
changes no other member, so changing a copy never changes the graph it was copied from. -/
theorem family_index_exact (m : NameMap (List String)) (ops : List FamilyOp) :
    (∀ g ∈ family m ops, g.names.length < 2 ^ 32 →
      (∀ v, (g.dependenciesOf v).Nodup) ∧
      (∀ n i, g.ids.find? n = some i ↔ g.names[i.toNat]? = some n) ∧
      (∀ d, (g.dependentsOf d).Pairwise (· < ·) ∧
        g.dependentsOf d = g.views.filter fun v => (g.dependenciesOf v).contains d) ∧
      (∀ v ds d, (g.set v ds).names.length < 2 ^ 32 → d ∉ ds → v ∉ (g.set v ds).dependentsOf d)) ∧
    (∀ (op : FamilyOp) (j : Nat), op.target ≠ some j → j < (family m ops).length →
      (op.run (family m ops))[j]? = (family m ops)[j]?) := by
  refine ⟨fun g hg hlen => ?_, fun op j hj hlt => FamilyOp.run_getElem?_of_ne _ op hj hlt⟩
  have hr := reachable_of_mem_family hg
  have hwf := hr.wellFormed hlen
  refine ⟨hwf.nodup, hwf.id_name, fun d => ⟨hwf.dependentsOf_increasing d, hwf.dependentsOf_eq d⟩,
    fun v ds d hlen' hd => ?_⟩
  rw [((Reachable.set v ds hr).wellFormed hlen').mem_dependentsOf, mem_dependenciesOf_set]
  exact hd

end Stencil.DependencyGraph

import Stencil.Proofs.Graph
import Mathlib.Data.Nat.Find
/-!
# The cascade is the breadth-first closure

The cascade of a name lists the views to rebuild when the name changes: every view that includes
it through a chain of inclusions. It is found breadth first from the name, over the views that
include each name taken from the queue, and each view found once.

In every graph a program builds (with fewer than `2 ^ 32` views, the width of the view ids), the
search empties its queue within the fuel the cascade gives it, so that more fuel changes nothing;
and the cascade holds each view once, exactly the views other than the name that reach it by a
chain, in the order of their shortest chains (`cascade_breadth_first`), cycles included.

The search is followed through `Visit`: the names seen, the name first, and how many of them were
taken from the queue. What makes the order right is the breadth-first invariant: every name seen
is at most one inclusion further than the next in the queue (`near`), and every name nearer than
the next in the queue was taken from it already (`below`). A view found from the name taken is
then exactly one further (`Visit.fresh_dist`).
-/

namespace Stencil.DependencyGraph

variable {g : DependencyGraph} {n v w : String}

/-! ### Chains of inclusions -/

/-- `g.Chain n k v`: a chain of `k` inclusions leads from the view `v` to the name `n`: `v`
includes a view that includes, and so on, `n`. -/
inductive Chain (g : DependencyGraph) (n : String) : Nat → String → Prop
  | here : Chain g n 0 n
  | step {k : Nat} {v w : String} : w ∈ g.dependenciesOf v → Chain g n k w → Chain g n (k + 1) v

lemma Chain.eq_of_zero (h : g.Chain n 0 v) : v = n := by
  cases h
  rfl

section Distance

open Classical in
/-- The length of a shortest chain from `v` to `n`, when there is one. -/
noncomputable def chainDist (g : DependencyGraph) (n v : String) : Nat :=
  if h : ∃ k, g.Chain n k v then Nat.find h else 0

lemma chain_chainDist (h : ∃ k, g.Chain n k v) : g.Chain n (g.chainDist n v) v := by
  classical
  unfold chainDist
  rw [dif_pos h]
  exact Nat.find_spec h

lemma chainDist_le {k : Nat} (h : g.Chain n k v) : g.chainDist n v ≤ k := by
  classical
  unfold chainDist
  rw [dif_pos ⟨k, h⟩]
  exact Nat.find_min' _ h

/-- A view is at most one inclusion further than a view it includes. -/
lemma chainDist_step (hw : w ∈ g.dependenciesOf v) (h : ∃ k, g.Chain n k w) :
    g.chainDist n v ≤ g.chainDist n w + 1 :=
  chainDist_le (.step hw (chain_chainDist h))

/-- A view other than the name includes a view one inclusion nearer, the next on a shortest chain. -/
lemma exists_nearer (h : ∃ k, g.Chain n k v) (hne : v ≠ n) :
    ∃ w, w ∈ g.dependenciesOf v ∧ (∃ k, g.Chain n k w) ∧ g.chainDist n w + 1 = g.chainDist n v := by
  have hc := chain_chainDist h
  generalize hd : g.chainDist n v = d at hc
  cases hc with
  | here => exact absurd rfl hne
  | @step k _ w hw hk =>
    refine ⟨w, hw, ⟨k, hk⟩, ?_⟩
    have h₁ := chainDist_le hk
    have h₂ := chainDist_step hw ⟨k, hk⟩
    omega

end Distance

/-- A view that includes something is a view of the graph. -/
lemma mem_views_of_mem_dependenciesOf {d : String} (h : d ∈ g.dependenciesOf v) : v ∈ g.views := by
  unfold dependenciesOf at h
  cases hv : g.edges.find? v with
  | none => simp [hv] at h
  | some ds => exact NameMap.mem_keys_of_find? hv

lemma length_views : g.views.length = g.size := by
  simp [views, size, NameMap.keys, NameMap.size]

/-! ### The search -/

/-- The search keeps, of the views including a name, those not seen. -/
lemma mem_unseen {l seen : List String} {f : String} :
    f ∈ l.filter (fun d => !seen.contains d) ↔ f ∈ l ∧ f ∉ seen := by
  simp [List.mem_filter]

section Queue

variable {seen rest fresh : List String} {p : Nat} {c : String}

/-- The queue is what follows the names taken among the names seen. -/
lemma lt_length_of_drop (hq : seen.drop p = c :: rest) : p < seen.length := by
  have := congrArg List.length hq
  simp only [List.length_drop, List.length_cons] at this
  omega

/-- Taking `c` from the queue and seeing `fresh` leaves `fresh` at the end of the queue. -/
lemma drop_succ_append (hq : seen.drop p = c :: rest) :
    (seen ++ fresh).drop (p + 1) = rest ++ fresh := by
  have hp : p + 1 ≤ seen.length := lt_length_of_drop hq
  rw [List.drop_append_of_le_length hp, ← List.drop_drop, hq]
  rfl

/-- Taking `c` from the queue adds it to the names taken. -/
lemma take_succ_append (hq : seen.drop p = c :: rest) :
    (seen ++ fresh).take (p + 1) = seen.take p ++ [c] := by
  have hp : p + 1 ≤ seen.length := lt_length_of_drop hq
  rw [List.take_append_of_le_length hp, List.take_add_one, ← List.head?_drop, hq]
  rfl

end Queue

/-- The state of a search from `n` that found `found`: the names seen are `n` and then `found`, and
the first `p` of them were taken from the queue, which holds the rest. -/
structure Visit (g : DependencyGraph) (n : String) (found : List String) (p : Nat) : Prop where
  /-- No name is seen twice. -/
  nodup : (n :: found).Nodup
  /-- Every view found is a view of the graph. -/
  views : ∀ x ∈ found, x ∈ g.views
  /-- Every name seen reaches `n`. -/
  leads : ∀ x ∈ n :: found, ∃ k, g.Chain n k x
  /-- The views including a name taken from the queue are all seen. -/
  closed : ∀ c ∈ (n :: found).take p, ∀ y ∈ g.dependentsOf c, y ∈ n :: found
  /-- The names are seen in the order of their shortest chains. -/
  sorted : (n :: found).Pairwise fun a b => g.chainDist n a ≤ g.chainDist n b
  /-- Every name seen is at most one inclusion further than the next in the queue. -/
  near : ∀ c ∈ ((n :: found).drop p).head?, ∀ x ∈ n :: found,
    g.chainDist n x ≤ g.chainDist n c + 1
  /-- Every name nearer than the next in the queue was taken from the queue. -/
  below : ∀ c ∈ ((n :: found).drop p).head?, ∀ u, (∃ k, g.Chain n k u) →
    g.chainDist n u < g.chainDist n c → u ∈ (n :: found).take p
  /-- The names taken were seen. -/
  le_length : p ≤ found.length + 1

namespace Visit

variable {found : List String} {p : Nat}

/-- The search starts from the name alone. -/
lemma start : g.Visit n [] 0 where
  nodup := List.nodup_singleton n
  views := by simp
  leads := by simpa using ⟨0, .here⟩
  closed := by simp
  sorted := List.pairwise_singleton _ n
  near := by simp
  below := by
    intro c hc u _ hlt
    have h0 : g.chainDist n n ≤ 0 := chainDist_le .here
    simp only [List.drop_zero, List.head?_cons, Option.mem_def, Option.some.injEq] at hc
    subst hc
    omega
  le_length := by simp

/-- The names seen number at most one more than the views. -/
lemma length_le (hv : g.Visit n found p) : found.length + 1 ≤ g.size + 1 := by
  have hnd := (List.nodup_cons.1 hv.nodup).2
  have := (List.subperm_of_subset hnd hv.views).length_le
  rw [← length_views]
  omega

section Step

variable (hg : g.WellFormed) (hv : g.Visit n found p) {c : String} {rest : List String}
  (hq : (n :: found).drop p = c :: rest)
include hg hv hq

/-- A view found from the name taken from the queue is one inclusion further than it. -/
lemma fresh_dist {f : String} (hf : f ∈ (g.dependentsOf c).filter fun d => !(n :: found).contains d) :
    g.chainDist n f = g.chainDist n c + 1 := by
  obtain ⟨hfc, hfresh⟩ := mem_unseen.1 hf
  have hcin : c ∈ n :: found := List.mem_of_mem_drop (hq ▸ List.mem_cons_self)
  have hclead := hv.leads c hcin
  have hcf : c ∈ g.dependenciesOf f := (hg.mem_dependentsOf).1 hfc
  have hle := chainDist_step hcf hclead
  -- A shorter chain would pass through a name nearer than `c`, taken already, so `f` was seen.
  by_contra hne
  have hlt : g.chainDist n f ≤ g.chainDist n c := by omega
  have hfn : f ≠ n := fun h => hfresh (h ▸ List.mem_cons_self)
  obtain ⟨w, hw, hwlead, hwd⟩ := exists_nearer ⟨_, .step hcf (chain_chainDist hclead)⟩ hfn
  have hwtaken := hv.below c (by simp [hq]) w hwlead (by omega)
  exact hfresh (hv.closed w hwtaken f ((hg.mem_dependentsOf).2 hw))

/-- Taking a name from the queue keeps every name nearer than the next in the queue taken. -/
lemma below_step (hnear : ∀ x ∈ n :: (found ++ (g.dependentsOf c).filter
      fun d => !(n :: found).contains d), g.chainDist n x ≤ g.chainDist n c + 1)
    {c' : String} (hc' : c' ∈ (rest ++ (g.dependentsOf c).filter fun d => !(n :: found).contains d).head?)
    {u : String} (hu : ∃ k, g.Chain n k u) (hlt : g.chainDist n u < g.chainDist n c') :
    u ∈ (n :: found).take p ++ [c] := by
  have hsorted := hv.sorted
  rw [← List.take_append_drop p (n :: found), hq, List.pairwise_append, List.pairwise_cons]
    at hsorted
  obtain ⟨-, ⟨hcrest, hrest⟩, -⟩ := hsorted
  -- `c'` is the next in the queue: the head of `rest`, or a view found from `c`.
  have hc'mem : c' ∈ rest ++ (g.dependentsOf c).filter fun d => !(n :: found).contains d :=
    List.mem_of_mem_head? hc'
  have hcc' : g.chainDist n c ≤ g.chainDist n c' := by
    rcases List.mem_append.1 hc'mem with h | h
    · exact hcrest c' h
    · rw [fresh_dist hg hv hq h]; omega
  have hc'le : g.chainDist n c' ≤ g.chainDist n c + 1 :=
    hnear c' (List.mem_of_mem_drop ((drop_succ_append hq).symm ▸ hc'mem))
  by_cases hnearer : g.chainDist n u < g.chainDist n c
  · exact List.mem_append_left _ (hv.below c (by simp [hq]) u hu hnearer)
  -- Otherwise `u` is as far as `c`, and was seen: from a name one nearer, taken already.
  have hu_eq : g.chainDist n u = g.chainDist n c := by omega
  have huin : u ∈ n :: found := by
    by_cases hun : u = n
    · exact hun ▸ List.mem_cons_self
    · obtain ⟨w, hw, hwlead, hwd⟩ := exists_nearer hu hun
      exact hv.closed w (hv.below c (by simp [hq]) w hwlead (by omega)) u
        ((hg.mem_dependentsOf).2 hw)
  rw [← List.take_append_drop p (n :: found), hq] at huin
  rcases List.mem_append.1 huin with h | h
  · exact List.mem_append_left _ h
  · rcases List.mem_cons.1 h with rfl | h
    · exact List.mem_append_right _ List.mem_cons_self
    · -- A name of the queue after `c` is no nearer than the next one, `c'`.
      exfalso
      obtain ⟨c'', rest', rfl⟩ := List.exists_cons_of_ne_nil (List.ne_nil_of_mem h)
      simp only [List.cons_append, List.head?_cons, Option.mem_def, Option.some.injEq] at hc'
      subst hc'
      rcases List.mem_cons.1 h with rfl | h
      · omega
      · have := (List.pairwise_cons.1 hrest).1 u h
        omega

/-- Taking a name from the queue keeps the search a visit, with the views including it that were
not seen added at the end. -/
lemma step :
    g.Visit n (found ++ (g.dependentsOf c).filter fun d => !(n :: found).contains d) (p + 1) := by
  set fresh := (g.dependentsOf c).filter fun d => !(n :: found).contains d with hfresh_def
  have hp : p < found.length + 1 := lt_length_of_drop hq
  have hcin : c ∈ n :: found := List.mem_of_mem_drop (hq ▸ List.mem_cons_self)
  have hmem_fresh : ∀ f, f ∈ fresh ↔ f ∈ g.dependentsOf c ∧ f ∉ n :: found := fun _ => mem_unseen
  have hfresh_dist : ∀ f ∈ fresh, g.chainDist n f = g.chainDist n c + 1 :=
    fun f hf => fresh_dist hg hv hq hf
  have hseen : n :: (found ++ fresh) = (n :: found) ++ fresh := rfl
  have htake : (n :: (found ++ fresh)).take (p + 1) = (n :: found).take p ++ [c] :=
    take_succ_append hq
  have hdrop : (n :: (found ++ fresh)).drop (p + 1) = rest ++ fresh := drop_succ_append hq
  have hnear : ∀ x ∈ n :: (found ++ fresh), g.chainDist n x ≤ g.chainDist n c + 1 := by
    intro x hx
    rw [hseen] at hx
    rcases List.mem_append.1 hx with hx | hx
    · exact hv.near c (by simp [hq]) x hx
    · exact (hfresh_dist x hx).le
  refine ⟨?_, ?_, ?_, ?_, ?_, ?_, ?_, ?_⟩
  · -- nodup: the views found from `c` are distinct and were not seen.
    rw [hseen, List.nodup_append]
    refine ⟨hv.nodup, (hg.nodup_dependentsOf c).filter _, fun a ha b hb hab => ?_⟩
    exact ((hmem_fresh b).1 hb).2 (hab ▸ ha)
  · intro x hx
    rcases List.mem_append.1 hx with hx | hx
    · exact hv.views x hx
    · exact mem_views_of_mem_dependenciesOf ((hg.mem_dependentsOf).1 ((hmem_fresh x).1 hx).1)
  · intro x hx
    rw [hseen] at hx
    rcases List.mem_append.1 hx with hx | hx
    · exact hv.leads x hx
    · obtain ⟨k, hk⟩ := hv.leads c hcin
      exact ⟨k + 1, .step ((hg.mem_dependentsOf).1 ((hmem_fresh x).1 hx).1) hk⟩
  · intro x hx y hy
    rw [htake] at hx
    rw [hseen]
    rcases List.mem_append.1 hx with hx | hx
    · exact List.mem_append_left _ (hv.closed x hx y hy)
    · rw [List.mem_singleton] at hx
      subst hx
      by_cases hyin : y ∈ n :: found
      · exact List.mem_append_left _ hyin
      · exact List.mem_append_right _ ((hmem_fresh y).2 ⟨hy, hyin⟩)
  · rw [hseen, List.pairwise_append]
    refine ⟨hv.sorted, ?_, fun a ha b hb => ?_⟩
    · -- The views found from `c` are all one inclusion further than it.
      refine List.pairwise_of_forall_mem_list fun a ha b hb => ?_
      rw [hfresh_dist a ha, hfresh_dist b hb]
    · rw [hfresh_dist b hb]
      exact hv.near c (by simp [hq]) a ha
  · intro c' hc' x hx
    rw [hdrop] at hc'
    have hcc' : g.chainDist n c ≤ g.chainDist n c' := by
      have hsorted := hv.sorted
      rw [← List.take_append_drop p (n :: found), hq, List.pairwise_append, List.pairwise_cons]
        at hsorted
      rcases List.mem_append.1 (List.mem_of_mem_head? hc') with h | h
      · exact hsorted.2.1.1 c' h
      · rw [hfresh_dist c' h]; omega
    have := hnear x hx
    omega
  · intro c' hc' u hu hlt
    rw [hdrop] at hc'
    rw [htake]
    exact below_step hg hv hq hnear hc' hu hlt
  · simp only [List.length_append]
    omega

end Step

/-- When the queue is empty, every name that reaches `n` was seen. -/
lemma complete (hg : g.WellFormed) (hv : g.Visit n found (found.length + 1)) {k : Nat}
    (hu : g.Chain n k v) : v ∈ n :: found := by
  induction hu with
  | here => exact List.mem_cons_self
  | step hw _ ih =>
    refine hv.closed _ ?_ _ ((hg.mem_dependentsOf).2 hw)
    rwa [← List.length_cons, List.take_length]

end Visit

/-- A search from a visit ends, within fuel enough to take every view, in a visit with an empty
queue; more fuel gives the same names. -/
lemma search_visit (hg : g.WellFormed) (fuel : Nat) :
    ∀ (p : Nat) (found : List String), g.Visit n found p → g.size + 1 ≤ fuel + p →
      ∃ found', g.Visit n found' (found'.length + 1) ∧
        ∀ k, g.search (fuel + k) ((n :: found).drop p) (n :: found) found = found' := by
  induction fuel with
  | zero =>
    intro p found hv hfuel
    -- Every name was taken: the queue is empty.
    have hp : p = found.length + 1 := by
      have := hv.length_le
      have := hv.le_length
      omega
    subst hp
    refine ⟨found, hv, fun k => ?_⟩
    rw [← List.length_cons, List.drop_length]
    cases k <;> simp [search]
  | succ fuel ih =>
    intro p found hv hfuel
    cases hq : (n :: found).drop p with
    | nil =>
      have hp : p = found.length + 1 := by
        have := congrArg List.length hq
        simp only [List.length_drop, List.length_cons, List.length_nil] at this
        have := hv.le_length
        omega
      subst hp
      refine ⟨found, hv, fun k => ?_⟩
      rw [show fuel + 1 + k = (fuel + k) + 1 by omega]
      simp [search]
    | cons c rest =>
      obtain ⟨found', hv', hsearch⟩ := ih (p + 1) _ (hv.step hg hq) (by omega)
      refine ⟨found', hv', fun k => ?_⟩
      rw [show fuel + 1 + k = (fuel + k) + 1 by omega]
      simp only [search]
      rw [← hsearch k]
      congr 1
      exact (drop_succ_append hq).symm

/-- In every graph a program builds with fewer than `2 ^ 32` views, cyclic ones included, the
cascade of a name is its breadth-first closure: the search ends with an empty queue within its
fuel, so that any more fuel gives the same list; the list holds each view once; it holds exactly
the views other than the name from which a chain of one or more inclusions leads to the name; and
a view comes before another only if its shortest chain is no longer. -/
theorem cascade_breadth_first (hg : g.Reachable) (hlen : g.views.length < 2 ^ 32) (n : String) :
    (∀ fuel, g.size + 1 ≤ fuel → g.search fuel [n] [n] [] = g.cascade n) ∧
    (g.cascade n).Nodup ∧
    (∀ v, v ∈ g.cascade n ↔ v ≠ n ∧ ∃ k, 0 < k ∧ g.Chain n k v) ∧
    (g.cascade n).Pairwise fun a b => ∀ k, g.Chain n k b → ∃ j ≤ k, g.Chain n j a := by
  have hwf := hg.wellFormed_of_views hlen
  obtain ⟨found, hv, hsearch⟩ := search_visit hwf (g.size + 1) 0 [] Visit.start (by omega)
  have hcas : g.cascade n = found := by simpa [cascade] using hsearch 0
  refine ⟨fun fuel hfuel => ?_, ?_, fun v => ?_, ?_⟩
  · obtain ⟨k, rfl⟩ := Nat.exists_eq_add_of_le hfuel
    rw [hcas]
    simpa using hsearch k
  · rw [hcas]
    exact (List.nodup_cons.1 hv.nodup).2
  · rw [hcas]
    constructor
    · intro hvf
      have hvn : v ≠ n := fun h => (List.nodup_cons.1 hv.nodup).1 (h ▸ hvf)
      obtain ⟨k, hk⟩ := hv.leads v (List.mem_cons_of_mem _ hvf)
      refine ⟨hvn, k, Nat.pos_of_ne_zero fun hk0 => hvn ?_, hk⟩
      subst hk0
      exact hk.eq_of_zero
    · rintro ⟨hvn, k, -, hk⟩
      exact (List.mem_cons.1 (hv.complete hwf hk)).resolve_left hvn
  · rw [hcas]
    -- Each view found has a shortest chain, no longer than those of the views after it.
    refine ((List.pairwise_cons.1 hv.sorted).2.imp_of_mem fun {a b} ha _ hab k hb => ?_)
    exact ⟨_, le_trans hab (chainDist_le hb),
      chain_chainDist (hv.leads a (List.mem_cons_of_mem _ ha))⟩

/-- In a graph with a cycle between a layout and a navigation view, the cascade of the layout holds
the views including it, and not the layout itself. -/
theorem cascade_of_layout_cycle :
    let g := ofEntries (NameMap.ofList [("Home/Index", ["Shared/Layout"]),
      ("Shared/Layout", ["Shared/Nav"]), ("Shared/Nav", ["Shared/Layout"])])
    g.Reachable ∧ g.views.length < 2 ^ 32 ∧
      ∀ v, v ∈ g.cascade "Shared/Layout" ↔
        v ≠ "Shared/Layout" ∧ ∃ k, 0 < k ∧ g.Chain "Shared/Layout" k v := by
  intro g
  have hr : g.Reachable := Reachable.ofEntries _
  have hl : g.views.length < 2 ^ 32 := by decide +kernel
  exact ⟨hr, hl, (cascade_breadth_first hr hl "Shared/Layout").2.2.1⟩

end Stencil.DependencyGraph

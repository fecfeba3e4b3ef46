import Stencil.Engine.Dispatch
import Mathlib.Data.List.Infix
import Mathlib.Data.List.Nodup
import Mathlib.Data.String.Basic
/-!
# Sending a route to its action

An application tries its route keys longest first, and keys of one length in byte order; the first
key the route starts with wins. Two keys of one length that a route starts with are one key, so
this is longest-prefix matching by text (`matchRoute_eq_some_iff`), and no key is chosen exactly
when the route starts with none (`matchRoute_eq_none_iff`). Dispatching then runs the chosen key's
action on what follows the key in the route, cut at `/` without the empty pieces
(`dispatch_runs_longest_key`).

The match is by text, not by path segments: the key `/blog` takes the route `/blogger`, with the
argument `ger`, although the route neither is the key nor goes on with `/` after it
(`dispatch_takes_longer_segment`).
-/

namespace Stencil

namespace Application

/-- A key is tried before another when it is longer, or as long and not after it in byte
order. -/
lemma triedBefore_iff (a b : String) :
    triedBefore a b = true ↔ b.length < a.length ∨ (a.length = b.length ∧ a ≤ b) := by
  simp only [triedBefore, Bool.or_eq_true, Bool.and_eq_true, decide_eq_true_eq, beq_iff_eq,
    gt_iff_lt]

/-- The order keys are tried in is transitive. -/
lemma triedBefore_trans (a b c : String) (hab : triedBefore a b = true)
    (hbc : triedBefore b c = true) : triedBefore a c = true := by
  rw [triedBefore_iff] at hab hbc ⊢
  rcases hab with hab | ⟨hab, hab'⟩ <;> rcases hbc with hbc | ⟨hbc, hbc'⟩
  · exact .inl (by omega)
  · exact .inl (by omega)
  · exact .inl (by omega)
  · exact .inr ⟨by omega, le_trans hab' hbc'⟩

/-- Any two keys are tried in some order. -/
lemma triedBefore_total (a b : String) : (triedBefore a b || triedBefore b a) = true := by
  rw [Bool.or_eq_true, triedBefore_iff, triedBefore_iff]
  rcases Nat.lt_trichotomy a.length b.length with h | h | h
  · exact .inr (.inl h)
  · rcases le_total a b with hle | hle
    · exact .inl (.inr ⟨h, hle⟩)
    · exact .inr (.inr ⟨h.symm, hle⟩)
  · exact .inl (.inl h)

/-- Two keys of one length that a route starts with are one key. -/
lemma eq_of_startsWith {r K K' : String} (h : r.startsWith K = true) (h' : r.startsWith K' = true)
    (hl : K.length = K'.length) : K = K' := by
  rw [String.startsWith_string_iff] at h h'
  apply String.toList_injective
  apply List.IsPrefix.eq_of_length
    (List.prefix_of_prefix_length_le h h' (by rw [String.length_toList, String.length_toList, hl]))
  rw [String.length_toList, String.length_toList, hl]

variable {app : Application} {r : String}

/-- The keys in the order they are tried: the application's keys, each before those tried after
it. -/
lemma tried_order (app : Application) :
    (app.routes.mergeSort fun a b => triedBefore a.1 b.1).Perm app.routes ∧
      (app.routes.mergeSort fun a b => triedBefore a.1 b.1).Pairwise
        fun a b => triedBefore a.1 b.1 = true :=
  ⟨List.mergeSort_perm app.routes _,
    @List.pairwise_mergeSort (String × Action) (fun a b => triedBefore a.1 b.1)
      (fun a b c => triedBefore_trans a.1 b.1 c.1) (fun a b => triedBefore_total a.1 b.1) app.routes⟩

/-- No key is chosen exactly when the route starts with none. -/
lemma matchRoute_eq_none_iff : app.matchRoute r = none ↔ ∀ kv ∈ app.routes, r.startsWith kv.1 = false := by
  rw [matchRoute, List.find?_eq_none]
  simp only [(tried_order app).1.mem_iff, Bool.not_eq_true]

/-- The key chosen is a key the route starts with, and no key it starts with is longer. -/
lemma matchRoute_longest {K : String} {a : Action} (h : app.matchRoute r = some (K, a)) :
    (K, a) ∈ app.routes ∧ r.startsWith K = true ∧
      ∀ kv ∈ app.routes, r.startsWith kv.1 = true → kv.1.length ≤ K.length := by
  obtain ⟨hperm, hsorted⟩ := tried_order app
  obtain ⟨hK, before, after, hsplit, hbefore⟩ := List.find?_eq_some_iff_append.1 h
  have hmem : (K, a) ∈ app.routes := hperm.mem_iff.1 (by simp [hsplit])
  refine ⟨hmem, hK, fun kv hkv hpre => ?_⟩
  -- A key the route starts with is not tried before the chosen one, so it is tried after it.
  have hkv' : kv ∈ before ++ (K, a) :: after := by rw [← hsplit]; exact hperm.mem_iff.2 hkv
  rcases List.mem_append.1 hkv' with hb | ha
  · simpa [hpre] using hbefore kv hb
  · rw [hsplit] at hsorted
    have hlater : triedBefore K kv.1 = true ∨ kv = (K, a) := by
      rcases List.mem_cons.1 ha with rfl | ha
      · exact .inr rfl
      · exact .inl (List.rel_of_pairwise_cons (List.pairwise_append.1 hsorted).2.1 ha)
    rcases hlater with hlater | rfl
    · rw [triedBefore_iff] at hlater
      omega
    · exact le_rfl

/-- **Matching is longest-prefix matching by text.** Among keys that are distinct, as those of a
map, the key chosen for a route is exactly a longest key the route starts with. -/
lemma matchRoute_eq_some_iff (hkeys : (app.routes.map Prod.fst).Nodup) {K : String} {a : Action} :
    app.matchRoute r = some (K, a) ↔
      (K, a) ∈ app.routes ∧ r.startsWith K = true ∧
        ∀ kv ∈ app.routes, r.startsWith kv.1 = true → kv.1.length ≤ K.length := by
  refine ⟨matchRoute_longest, fun ⟨hmem, hpre, hlong⟩ => ?_⟩
  -- Some key is chosen, since the route starts with `K`; it is as long as `K`, hence `K`.
  cases hm : app.matchRoute r with
  | none => exact absurd hpre (by simp [matchRoute_eq_none_iff.1 hm _ hmem])
  | some kv =>
    obtain ⟨hmem', hpre', hlong'⟩ := matchRoute_longest hm
    have hkey : kv.1 = K :=
      eq_of_startsWith hpre' hpre (Nat.le_antisymm (hlong _ hmem' hpre') (hlong' _ hmem hpre))
    exact congrArg some (List.inj_on_of_nodup_map hkeys hmem' hmem hkey)

end Application

namespace Engine

variable {app : Application} {route : String} {tags : NameMap String}

/-- A route that no key matches is refused. -/
lemma dispatch_of_matchRoute_none (h : app.matchRoute (rootedRoute route) = none) :
    dispatch (some app) route tags =
      pure (.error (((Fault.condition .actionNotFound).wrap "cannot dispatch").about "route"
        (rootedRoute route))) := by
  simp only [dispatch, h]

/-- A route that a key matches runs the key's action on the rest of the route. -/
lemma dispatch_of_matchRoute_some {K : String} {a : Action}
    (h : app.matchRoute (rootedRoute route) = some (K, a)) :
    dispatch (some app) route tags = runAction K (routeArgs (rootedRoute route) K) tags a := by
  simp only [dispatch, h]

end Engine

/-- **A route goes to the longest key it starts with.** With its keys distinct, as those of a map,
an application refuses a route, rooted with `/` when it is not, that starts with none of its keys;
and it runs the action of a longest key the route starts with, on what follows the key in the
route cut at `/` without the empty pieces, and with the tags as given. -/
theorem dispatch_runs_longest_key (app : Application) (hkeys : (app.routes.map Prod.fst).Nodup)
    (route : String) (tags : NameMap String) :
    ((∀ kv ∈ app.routes, (rootedRoute route).startsWith kv.1 = false) →
      Engine.dispatch (some app) route tags =
        pure (.error (((Fault.condition .actionNotFound).wrap "cannot dispatch").about "route"
          (rootedRoute route)))) ∧
    ∀ K a, (K, a) ∈ app.routes → (rootedRoute route).startsWith K = true →
      (∀ kv ∈ app.routes, (rootedRoute route).startsWith kv.1 = true → kv.1.length ≤ K.length) →
      Engine.dispatch (some app) route tags =
        Engine.runAction K (routeArgs (rootedRoute route) K) tags a :=
  ⟨fun hnone => Engine.dispatch_of_matchRoute_none (Application.matchRoute_eq_none_iff.2 hnone),
    fun _ _ hmem hpre hlong => Engine.dispatch_of_matchRoute_some
      ((Application.matchRoute_eq_some_iff hkeys).2 ⟨hmem, hpre, hlong⟩)⟩

/-- The application of pages, a blog and its archive: `blog/archive/old` goes to the archive, the
longest key it starts with. -/
theorem dispatch_blog_archive :
    Engine.dispatch (some ⟨[("/", .page), ("/blog", .view), ("/blog/archive", .echo)]⟩)
        "blog/archive/old" NameMap.empty =
      Engine.runAction "/blog/archive" (routeArgs (rootedRoute "blog/archive/old") "/blog/archive")
        NameMap.empty .echo :=
  (dispatch_runs_longest_key ⟨[("/", .page), ("/blog", .view), ("/blog/archive", .echo)]⟩
    (by decide) "blog/archive/old" NameMap.empty).2 "/blog/archive" .echo (by simp)
    (by decide +kernel) (by decide +kernel)

/-- A key is a prefix of a route by segments: the route is the key, or goes on with `/` after it,
or the key ends with `/`. -/
def SegmentPrefix (key route : String) : Prop :=
  route.startsWith key = true ∧
    (route = key ∨ route.startsWith (key ++ "/") = true ∨ key.endsWith "/" = true)

/-- **Matching is by text, not by segments.** No key of the application `/blog` is a prefix of the
route `/blogger` by segments, yet the route is not refused: it goes to the key's action, on the
rest `ger` of the route. -/
theorem dispatch_takes_longer_segment :
    (∀ kv ∈ [("/blog", Action.echo)], ¬ SegmentPrefix kv.1 "/blogger") ∧
      Engine.dispatch (some ⟨[("/blog", .echo)]⟩) "/blogger" NameMap.empty =
        Engine.runAction "/blog" (routeArgs "/blogger" "/blog") NameMap.empty .echo ∧
      String.ofList ("/blogger".toList.drop "/blog".length) = "ger" ∧
      ∃ text, Engine.runAction "/blog" (routeArgs "/blogger" "/blog") NameMap.empty .echo =
        pure (.ok text) := by
  have hmatch : Application.matchRoute ⟨[("/blog", .echo)]⟩ (rootedRoute "/blogger") =
      some ("/blog", .echo) :=
    (Application.matchRoute_eq_some_iff (by decide)).2 ⟨by simp, by decide +kernel, by decide +kernel⟩
  have hroot : rootedRoute "/blogger" = "/blogger" := by decide +kernel
  refine ⟨?_, by rw [Engine.dispatch_of_matchRoute_some hmatch, hroot], by decide +kernel, _, rfl⟩
  simp only [List.mem_singleton, forall_eq, SegmentPrefix]
  decide +kernel

end Stencil

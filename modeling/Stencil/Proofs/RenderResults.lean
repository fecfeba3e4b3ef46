import Stencil.Proofs.Registry
/-!
# Last renders in the cache

A compiler keeps the last render of each view beside its compiled records, and the cache it hands
out lays them over the records (`Compiler.viewCache`). A render sets the overlay of its view;
publishing a workspace forgets the overlay of every view it touched; a compile leaves a record
with no last render of its own; a restore brings in the records of a cache with the last render
each carries; and a replace that finds a view stale gives the record the new text in place,
keeping the rest of it.

Along every run of calls from a new compiler, the last render the cache reports for a view is
empty, the output of the most recent render of that view (a value a restore carried in counting
as a render just before it), or the value the last restore carried in for that view
(`reported_render_origin`). The third case does happen after a newer render:
a restore, a render and then a replace of the view leave the cache with the restored value
(`replace_exposes_restored_render`). The invariant behind it, `RenderHistory.Accounts`, holds the
overlay to the most recent renders and each record's own last render to the last restore.
-/

namespace Stencil

namespace Compiler

/-- A call a program makes of a compiler: an operation, or a restore from a cache. -/
inductive Call where
  | perform (op : Op)
  | restore (cache : ViewCache)

/-- The compiler after a call. -/
def apply (c : Compiler) : Call → Compiler
  | .perform op => (c.perform op).2
  | .restore cache => c.restore cache

end Compiler

/-- The last render a cache carries for a view, when it compiled the view. -/
def ViewCache.carried (cache : ViewCache) (v : String) : Option String :=
  (cache.toSnapshot.compiled.find? v).map Template.lastRender

/-- What a run of calls rendered: the output of the most recent render of each view, a value a
restore carried in counting as a render made just before it; and what the last restore carried
in. -/
structure RenderHistory where
  latest : String → Option String
  carried : String → Option String

namespace RenderHistory

/-- Nothing rendered or restored yet. -/
def empty : RenderHistory := ⟨fun _ => none, fun _ => none⟩

/-- The history after a call made of a compiler. -/
def record (h : RenderHistory) (c : Compiler) : Compiler.Call → RenderHistory
  | .perform (.render name tags) =>
    match (c.render name tags).1 with
    | .ok v => { h with latest := fun n => if n = name then some v.lastRender else h.latest n }
    | .error _ => h
  | .perform _ => h
  | .restore cache => ⟨fun n => (cache.carried n).or (h.latest n), cache.carried⟩

end RenderHistory

namespace Compiler

/-- Makes calls in order, following what they render. -/
def runCalls (c : Compiler) (h : RenderHistory) : List Call → Compiler × RenderHistory
  | [] => (c, h)
  | call :: calls => (c.apply call).runCalls (h.record c call) calls

/-! ### What each operation does to the last renders -/

/-- Erasing names one after another only unbinds. -/
lemma find?_foldl_erase {m : NameMap String} {v r : String} :
    ∀ {names : List String}, (names.foldl (fun m n => m.erase n) m).find? v = some r →
      m.find? v = some r
  | [], h => h
  | n :: ns, h => by
    have h' := @find?_foldl_erase (m.erase n) v r ns h
    rw [NameMap.find?_erase] at h'
    split at h'
    · cases h'
    · exact h'

/-- Publishing only forgets last renders. -/
lemma publish_renders {c : Compiler} {ws : Workspace} {v r : String}
    (h : (c.publish ws).renders.find? v = some r) : c.renders.find? v = some r :=
  find?_foldl_erase h

lemma render_ok {c : Compiler} {name : String} {tags : NameMap String} {v : Template}
    (h : (c.render name tags).1 = .ok v) :
    (c.render name tags).2.renders = c.renders.insert name v.lastRender := by
  unfold render at h ⊢
  split at h
  · cases h
  · split at h
    · cases h
    · cases h
      rfl

lemma render_error {c : Compiler} {name : String} {tags : NameMap String} {f : Fault}
    (h : (c.render name tags).1 = .error f) : (c.render name tags).2 = c := by
  unfold render at h ⊢
  split at h
  · rfl
  · split at h
    · rfl
    · cases h

/-- A compile publishes its workspace or leaves the compiler as it was. -/
lemma compile_publishes (c : Compiler) (name : String) :
    (c.compile name).2 = c ∨ ∃ ws, (c.compile name).2 = c.publish ws := by
  unfold compile
  cases compileView c.handlers c.maxDepth c.begin name with
  | error e => exact .inl rfl
  | ok r => exact .inr ⟨r.2, rfl⟩

/-- A recompile of a cascade publishes its workspace or leaves the compiler as it was. -/
lemma recompileDependencies_publishes (c : Compiler) (name : String) :
    (c.recompileDependencies name).2 = c ∨ ∃ ws, (c.recompileDependencies name).2 = c.publish ws := by
  unfold recompileDependencies
  dsimp only
  split
  · exact .inl rfl
  · exact .inr ⟨_, rfl⟩

/-- A replace publishes its workspace. -/
lemma replace_publishes (c : Compiler) (rec : Template) : ∃ ws, (c.replace rec).2 = c.publish ws := by
  unfold replace
  dsimp only
  split
  · split
    · exact ⟨_, rfl⟩
    · exact ⟨_, rfl⟩
  · exact ⟨_, rfl⟩

/-- Every operation but a render only forgets last renders. -/
lemma perform_renders {c : Compiler} {op : Op} (hop : ∀ name tags, op ≠ .render name tags)
    {v r : String} (h : (c.perform op).2.renders.find? v = some r) : c.renders.find? v = some r := by
  -- Each operation but a reset publishes a workspace or leaves the compiler alone.
  have hpub : ∀ c' : Compiler, (c' = c ∨ ∃ ws, c' = c.publish ws) →
      c'.renders.find? v = some r → c.renders.find? v = some r := by
    rintro c' (rfl | ⟨ws, rfl⟩) h'
    · exact h'
    · exact publish_renders h'
  cases op with
  | reset records => simp [perform, reset] at h
  | replace rec => exact hpub _ (.inr (replace_publishes c rec)) h
  | compile name =>
    simp only [perform] at h
    split at h <;> rename_i heq <;>
      exact hpub _ (congrArg Prod.snd heq ▸ compile_publishes c name) h
  | compileAll => exact publish_renders h
  | recompile name =>
    simp only [perform] at h
    split at h <;> rename_i heq <;>
      exact hpub _ (congrArg Prod.snd heq ▸ recompileDependencies_publishes c name) h
  | render name tags => exact absurd rfl (hop name tags)

/-- A compile leaves a record with no last render of its own. -/
lemma compileTemplate_lastRender {h : Handlers} {md : Int} {s : Scope} {name : String}
    {v : Template} {deps : Option (List String)} (hc : compileTemplate h md s name = .ok (v, deps)) :
    v.lastRender = "" := by
  obtain ⟨tpl, -, ⟨-, -, rfl⟩ | ⟨-, _, _, _, _, _, _, _, -, -, -, -, rfl⟩⟩ := compileTemplate_cases hc
  · rfl
  · rfl

/-- A record after compiles is one from before, or a fresh compile with no last render. -/
lemma foldl_compileStep_entries {h : Handlers} {md : Int} (names : List String) :
    ∀ (s : List Template × List Fault × Workspace) {e : String × Template},
      e ∈ (names.foldl (compileStep h md) s).2.2.snapshot.compiled.entries →
        e ∈ s.2.2.snapshot.compiled.entries ∨ e.2.lastRender = "" := by
  induction names with
  | nil => exact fun _ _ he => .inl he
  | cons n names ih =>
    intro s e he
    rcases ih _ he with he | he
    · rw [compileStep_eq] at he
      split at he
      · exact .inl he
      · rename_i v deps hc
        -- The step stored the view it compiled, or left the entry where it was.
        rcases NameMap.mem_insertEntry he with rfl | he
        · exact .inr (compileTemplate_lastRender hc)
        · exact .inl he
    · exact .inr he

/-- A record after an operation is a fresh compile with no last render, or one from before that
kept its name and last render. -/
lemma perform_entries (c : Compiler) (op : Op) {e : String × Template}
    (he : e ∈ (c.perform op).2.snapshot.compiled.entries) :
    e.2.lastRender = "" ∨ ∃ e' ∈ c.snapshot.compiled.entries,
      e'.2.name = e.2.name ∧ e'.2.lastRender = e.2.lastRender := by
  rcases perform_cases c op with ⟨records, -, h⟩ | ⟨rec, h⟩ | ⟨names, -, h⟩ | ⟨-, h⟩
  · rw [h] at he
    simp [reset, Snapshot.empty, NameMap.empty] at he
  · rw [h] at he
    obtain ⟨-, -, hC | ⟨old, hold, hC⟩⟩ := replace_cases c rec
    · rw [hC] at he
      exact .inr ⟨e, he, rfl, rfl⟩
    · rw [hC] at he
      rcases NameMap.mem_insertEntry he with rfl | he
      · -- The stale view took the new text and kept its name and last render.
        exact .inr ⟨_, NameMap.mem_entries_of_find? hold, rfl, rfl⟩
      · exact .inr ⟨e, he, rfl, rfl⟩
  · rw [h, compileEach_snapshot] at he
    rcases foldl_compileStep_entries names _ he with he | he
    · exact .inr ⟨e, he, rfl, rfl⟩
    · exact .inl he
  · rw [h] at he
    exact .inr ⟨e, he, rfl, rfl⟩

/-- Every record restored from a cache carries the last render the cache gives its name. -/
lemma restore_entries (c : Compiler) (cache : ViewCache) {e : String × Template}
    (he : e ∈ (c.restore cache).snapshot.compiled.entries) :
    cache.carried e.2.name = some e.2.lastRender := by
  change e ∈ (NameMap.ofList (cache.compiled.map fun t => (t.name, t))).entries at he
  have hfind := NameMap.find?_of_mem he
  obtain ⟨t, -, ht⟩ := List.mem_map.1 (NameMap.mem_of_find?_ofList hfind)
  obtain ⟨k, v⟩ := e
  obtain ⟨rfl, rfl⟩ := Prod.mk.inj ht
  simp only [ViewCache.carried, ViewCache.toSnapshot]
  rw [hfind]
  rfl

end Compiler

/-! ### The invariant -/

namespace RenderHistory

/-- What a compiler's last renders owe to a history: the overlay holds the most recent render of
each view in it, and a record's own last render is empty or what the last restore carried in. -/
structure Accounts (h : RenderHistory) (c : Compiler) : Prop where
  overlay : ∀ v r, c.renders.find? v = some r → h.latest v = some r
  records : ∀ e ∈ c.snapshot.compiled.entries,
    e.2.lastRender = "" ∨ h.carried e.2.name = some e.2.lastRender

lemma accounts_new (hs : Handlers) (md : Int) (drawn : Nat) :
    empty.Accounts { handlers := hs, maxDepth := md, drawn := drawn } where
  overlay _ _ h := by simp at h
  records _ he := by simp [Snapshot.empty, NameMap.empty] at he

/-- Every call keeps the account. -/
lemma Accounts.apply {h : RenderHistory} {c : Compiler} (ha : h.Accounts c) (call : Compiler.Call) :
    (h.record c call).Accounts (c.apply call) := by
  cases call with
  | restore cache =>
    -- A restore forgets every overlay and brings in records that the cache carries.
    refine ⟨fun v r hv => by simp [Compiler.apply, Compiler.restore] at hv, fun e he => ?_⟩
    exact .inr (Compiler.restore_entries c cache he)
  | perform op =>
    by_cases hren : ∃ name tags, op = .render name tags
    · obtain ⟨name, tags, rfl⟩ := hren
      simp only [record, Compiler.apply, Compiler.perform]
      cases hr : (c.render name tags).1 with
      | error f =>
        rw [Compiler.render_error hr]
        exact ha
      | ok v =>
        -- The render's output joins the overlay and is the most recent render of its view.
        refine ⟨fun n r hn => ?_, fun e he => ha.records e (by simpa using he)⟩
        rw [Compiler.render_ok hr, NameMap.find?_insert] at hn
        split at hn
        · cases hn
          simp_all
        · rename_i hne
          simp only [if_neg (Ne.symm hne)]
          exact ha.overlay n r hn
    · have hop : ∀ name tags, op ≠ .render name tags := fun name tags h => hren ⟨name, tags, h⟩
      have hrec : h.record c (.perform op) = h := by
        cases op <;> first | rfl | exact absurd rfl (hop _ _)
      rw [hrec]
      refine ⟨fun v r hv => ha.overlay v r (Compiler.perform_renders hop hv), fun e he => ?_⟩
      rcases Compiler.perform_entries c op he with he | ⟨e', he', hname, hlast⟩
      · exact .inl he
      · rw [← hname, ← hlast]
        exact ha.records e' he'

end RenderHistory

namespace Compiler

/-- A run of calls keeps the account. -/
lemma runCalls_accounts : ∀ (c : Compiler) (h : RenderHistory) (calls : List Call), h.Accounts c →
    (c.runCalls h calls).2.Accounts (c.runCalls h calls).1
  | _, _, [], ha => ha
  | _, _, call :: calls, ha => runCalls_accounts _ _ calls (ha.apply call)

/-- Along every run of resets, restores, renders, replaces and compiles from a new compiler, the last
render the cache reports for a compiled view is empty, the output of the most recent render of
that view (a value a restore carried in counting as a render just before it), or the value the
last restore carried in for it. -/
theorem reported_render_origin (hs : Handlers) (md : Int) (drawn : Nat) (calls : List Call) :
    let r := ({ handlers := hs, maxDepth := md, drawn := drawn } : Compiler).runCalls
      RenderHistory.empty calls
    ∀ v ∈ r.1.viewCache.compiled, v.lastRender = "" ∨ r.2.latest v.name = some v.lastRender ∨
      r.2.carried v.name = some v.lastRender := by
  intro r v hv
  have ha := runCalls_accounts _ _ calls (RenderHistory.accounts_new hs md drawn)
  rw [viewCache_eq] at hv
  obtain ⟨rec, hrec, rfl⟩ := List.mem_map.1 hv
  obtain ⟨e, he, rfl⟩ := List.mem_map.1 hrec
  simp only [Template.withRender]
  cases hr : r.1.renders.find? e.2.name with
  | some x => exact .inr (.inl (ha.overlay _ _ hr))
  | none =>
    rcases ha.records e he with h | h
    · exact .inl h
    · exact .inr (.inr h)

/-- A restore carrying a last render, a newer render and then a replace that finds the view stale
leave the cache reporting the restored render: neither empty nor the most recent one. -/
theorem replace_exposes_restored_render :
    let old : Template := { name := "Home/Index", displayName := "Index", raw := "<p>\x7b\x7btitle\x7d\x7d</p>",
                            fingerprint := "1", compiled := "<p>\x7b\x7btitle\x7d\x7d</p>",
                            lastRender := "<p>Old</p>" }
    let cache : ViewCache := ⟨[{ old with compiled := "", lastRender := "" }], [old],
                              NameMap.empty.insert "Home/Index" []⟩
    let fresh : Template := { name := "Home/Index", displayName := "Index",
                              raw := "<p>\x7b\x7btitle\x7d\x7d!</p>", fingerprint := "2" }
    let r := ({ handlers := Handlers.empty } : Compiler).runCalls RenderHistory.empty
      [.restore cache, .perform (.render "Home/Index" (NameMap.empty.insert "title" "New")),
       .perform (.replace fresh)]
    ¬ ∀ v ∈ r.1.viewCache.compiled, v.lastRender = "" ∨ r.2.latest v.name = some v.lastRender := by
  decide +kernel

end Compiler

end Stencil

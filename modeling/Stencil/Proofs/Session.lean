import Stencil.Engine.Reload
import Stencil.Proofs.Registry
/-!
# The mark of unsaved changes

An engine marks whether its state changed since the cache was last fetched or written. A run of
operations on an engine (starts, renders, compiles, fetches and writes of the cache, and watch
batches) is followed here together with the compiler as it stood at the last point the mark is
measured from: a start, a fetch of the cache, or a write of it that succeeded (`Session`).

While the mark is clear, the registries (templates, compiled views and dependency graph) are what
they were at that point, over every run in which a watch batch that reloaded no path left the
registries alone (`Session.Run.registries_synced_while_unmarked`). The mark covers no more than
that: a render records its result in the cache without setting it
(`render_changes_cache_without_mark`), and the reloads of a batch may each replace a template and
then fail to compile it, which leaves the mark as it was.

Each operation is read through one lemma on the engine it leaves (`perform_mark`); the
computations that only read the engine or work on its compiler and store keep the mark
(`KeepsMark`), whatever the host answers them.
-/

namespace Stencil

namespace Engine

variable {α β : Type}

/-- Runs an engine computation from an engine and a host: its answer, and the engine and host it
leaves. -/
def exec (m : EngineM α) (e : Engine) (h : Host) : (α × Engine) × Host :=
  Id.run ((m.run e).run h)

lemma exec_bind (x : EngineM α) (f : α → EngineM β) (e : Engine) (h : Host) :
    exec (x >>= f) e h = exec (f (exec x e h).1.1) (exec x e h).1.2 (exec x e h).2 := rfl

/-! ### Computations that keep the mark -/

/-- A computation that leaves the mark as it found it. -/
def KeepsMark (m : EngineM α) : Prop :=
  ∀ e h, (exec m e h).1.2.dirty = e.dirty

lemma KeepsMark.bind {x : EngineM α} {f : α → EngineM β} (hx : KeepsMark x)
    (hf : ∀ a, KeepsMark (f a)) : KeepsMark (x >>= f) := fun e h =>
  (hf _ _ _).trans (hx e h)

lemma keepsMark_pure (a : α) : KeepsMark (pure a : EngineM α) := fun _ _ => rfl

lemma keepsMark_lift (x : HostM α) : KeepsMark (monadLift x : EngineM α) := fun _ _ => rfl

lemma keepsMark_foldlM {f : β → α → EngineM β} (hf : ∀ b a, KeepsMark (f b a)) :
    ∀ (l : List α) (b : β), KeepsMark (l.foldlM f b)
  | [], b => keepsMark_pure b
  | a :: l, b => (hf b a).bind fun b' => keepsMark_foldlM hf l b'

lemma keepsMark_forIn {f : α → β → EngineM (ForInStep β)} (hf : ∀ a b, KeepsMark (f a b)) :
    ∀ (l : List α) (b : β), KeepsMark (forIn l b f)
  | [], b => keepsMark_pure b
  | a :: l, b => by
    rw [List.forIn_cons]
    refine (hf a b).bind fun step => ?_
    cases step with
    | done b' => exact keepsMark_pure b'
    | yield b' => exact keepsMark_forIn hf l b'

/-- A reload works on the compiler alone. -/
lemma keepsMark_reload (path : String) : KeepsMark (reload path) := by
  intro e h
  simp only [exec, reload, reload.reloadIn, Host.tree, bind_pure_comp, liftM_map, liftM_get,
    Bool.not_eq_eq_eq_not, Bool.not_true, onCompiler, bind_assoc, bind_map_left, StateT.run_bind,
    StateT.run_get, StateT.run_map, StateT.run_monadLift, monadLift_self, Functor.map_map, pure_bind,
    Id.run_bind, Id.run_map]
  -- The reload stops when the path stays unreadable, when the template does not load, and
  -- otherwise after the compiler's reload, whatever it answers.
  split
  · rfl
  · simp only [StateT.run_bind, StateT.run_get, pure_bind]
    split
    · rfl
    · simp only [StateT.run_bind, StateT.run_get, StateT.run_modify, pure_bind]
      split <;> rfl

lemma keepsMark_reloadBatch (paths : List String) : KeepsMark (reloadBatch paths) := by
  unfold reloadBatch
  refine keepsMark_foldlM (fun ok path => (keepsMark_reload path).bind fun r => ?_) paths 0
  rcases r with ⟨views, _ | f⟩
  · exact (keepsMark_forIn (fun _ _ => (keepsMark_lift _).bind fun _ => keepsMark_pure _) views
      _).bind fun _ => keepsMark_pure _
  · exact (keepsMark_lift _).bind fun _ => keepsMark_pure _

/-! ### The engine each operation leaves -/

variable (e : Engine) (h : Host)

@[simp] lemma exec_render (name : String) (tags : NameMap String) :
    (exec (render name tags) e h).1.2 = { e with compiler := (e.compiler.render name tags).2 } := by
  simp only [exec, render, onCompiler, bind_pure_comp, bind_assoc, bind_map_left, StateT.run_bind,
    StateT.run_get, StateT.run_modify, pure_bind]
  split <;> rfl

@[simp] lemma exec_getCache : (exec getCache e h).1.2 = { e with dirty := false } := rfl

@[simp] lemma exec_markDirty (b : Bool) :
    exec (markDirty b) e h = (((), { e with dirty := b }), h) := rfl

lemma exec_compile_dirty (names : List String) : (exec (compile names) e h).1.2.dirty = true := by
  unfold compile
  dsimp only
  split <;> rw [exec_bind] <;> rfl

/-- A write of the cache that fails leaves the mark and the compiler as they were. -/
lemma exec_updateCache_of_error (hr : (exec updateCache e h).1.1.isOk = false) :
    (exec updateCache e h).1.2.dirty = e.dirty ∧
      (exec updateCache e h).1.2.compiler = e.compiler := by
  simp only [exec, updateCache, encoded, bind_pure_comp, onStore, markDirty, bind_assoc,
    bind_map_left, LawfulMonadStateOf.get_bind_get_bind, StateT.run_bind, StateT.run_get,
    StateT.run_monadLift, monadLift_self, StateT.run_modify, pure_bind, Id.run_bind] at hr ⊢
  split at hr
  · simp_all
  · simp [Except.isOk, Except.toBool] at hr

/-- A watch batch answers whether it wrote the cache; when it did not, either some path reloaded
and the mark is set, or none did and the mark is as it was. -/
lemma settle_mark (changes : List Watch.Change) :
    (exec (settle changes) e h).1.1 = true ∨ (exec (settle changes) e h).1.2.dirty = true ∨
      ((exec (settle changes) e h).1.2.dirty = e.dirty ∧
        (exec (reloadBatch (reloadPaths changes)) e h).1.1 = 0) := by
  unfold settle
  rw [exec_bind]
  have hkeep := keepsMark_reloadBatch (reloadPaths changes) e h
  generalize exec (reloadBatch (reloadPaths changes)) e h = r at hkeep ⊢
  obtain ⟨⟨n, e₁⟩, h₁⟩ := r
  dsimp only at hkeep ⊢
  split
  · rename_i hzero
    exact .inr (.inr ⟨hkeep, by simpa using hzero⟩)
  · -- Some path reloaded: the mark is set before the write.
    rw [exec_bind, exec_markDirty, exec_bind]
    dsimp only
    have hfail := exec_updateCache_of_error { e₁ with dirty := true } h₁
    cases hu : (exec Engine.updateCache { e₁ with dirty := true } h₁).1.1 with
    | ok => exact .inl rfl
    | error f => exact .inr (.inl (hfail (by rw [hu]; rfl)).1)

end Engine

/-! ### Runs -/

/-- An operation a program performs on an engine. -/
inductive EngineOp where
  | start (ignoreCache : Bool)
  | loadView (name : String) (tags : NameMap String)
  | compile (names : List String)
  | getCache
  | updateCache
  | watchBatch (changes : List Watch.Change)

namespace EngineOp

open Engine

/-- Performs an operation, answering whether it is a point the mark is measured from: a start, a
fetch of the cache, or a write of it that succeeded. -/
def perform : EngineOp → EngineM Bool
  | .start ignoreCache => do
    let _ ← Engine.start ignoreCache
    return true
  | .loadView name tags => do
    let _ ← render name tags
    return false
  | .compile names => do
    let _ ← Engine.compile names
    return false
  | .getCache => do
    let _ ← Engine.getCache
    return true
  | .updateCache => do
    return (← Engine.updateCache).isOk
  | .watchBatch changes => settle changes

variable (e : Engine) (h : Host)

@[simp] lemma perform_loadView (name : String) (tags : NameMap String) :
    (exec (loadView name tags).perform e h).1 =
      (false, { e with compiler := (e.compiler.render name tags).2 }) :=
  Prod.ext rfl (exec_render e h name tags)

@[simp] lemma perform_getCache :
    (exec getCache.perform e h).1 = (true, { e with dirty := false }) := rfl

/-- What an operation does to the mark: it is a point the mark is measured from, or it sets the
mark, or it keeps the mark and the registries, but for a watch batch in which no path
reloaded. -/
lemma perform_mark (op : EngineOp) :
    (exec op.perform e h).1.1 = true ∨ (exec op.perform e h).1.2.dirty = true ∨
      ((exec op.perform e h).1.2.dirty = e.dirty ∧
        ((exec op.perform e h).1.2.compiler.snapshot = e.compiler.snapshot ∨
          ∃ changes, op = .watchBatch changes ∧
            (exec (reloadBatch (reloadPaths changes)) e h).1.1 = 0)) := by
  cases op with
  | start ignoreCache => exact .inl rfl
  | loadView name tags =>
    refine .inr (.inr ⟨?_, .inl ?_⟩) <;> simp [perform_loadView]
  | compile names => exact .inr (.inl (exec_compile_dirty _ _ names))
  | getCache => exact .inl rfl
  | updateCache =>
    -- The answer is whether the write succeeded.
    cases hr : (exec Engine.updateCache e h).1.1.isOk with
    | true => exact .inl hr
    | false =>
      obtain ⟨hd, hc⟩ := exec_updateCache_of_error e h hr
      exact .inr (.inr ⟨hd, .inl (congrArg Compiler.snapshot hc)⟩)
  | watchBatch changes =>
    rcases settle_mark e h changes with hw | hd | ⟨hd, hn⟩
    · exact .inl hw
    · exact .inr (.inl hd)
    · exact .inr (.inr ⟨hd, .inr ⟨changes, rfl, hn⟩⟩)

end EngineOp

/-- An engine and its host in a run, with the compiler as it stood at the last point the mark is
measured from. -/
structure Session where
  engine : Engine
  host : Host
  synced : Compiler

namespace Session

open Engine

/-- The session after an operation. -/
def apply (s : Session) (op : EngineOp) : Session :=
  let r := exec op.perform s.engine s.host
  { engine := r.1.2, host := r.2, synced := if r.1.1 then r.1.2.compiler else s.synced }

/-- The operations the mark accounts for: all but a watch batch in which no path reloaded and
that changed the registries. -/
def Accounted (s : Session) : EngineOp → Prop
  | .watchBatch changes =>
    0 < (exec (reloadBatch (reloadPaths changes)) s.engine s.host).1.1 ∨
      (s.apply (.watchBatch changes)).engine.compiler.snapshot = s.engine.compiler.snapshot
  | _ => True

/-- The sessions of a run: any engine, taken as matching its cache, after operations the mark
accounts for. -/
inductive Run : Session → Prop where
  | begin (e : Engine) (h : Host) : Run ⟨e, h, e.compiler⟩
  | step {s : Session} (op : EngineOp) : Run s → s.Accounted op → Run (s.apply op)

/-- While the mark is clear, the registries are as they were at the point it is measured from. -/
def Synced (s : Session) : Prop :=
  s.engine.dirty = false → s.engine.compiler.snapshot = s.synced.snapshot

lemma Synced.apply {s : Session} (hs : s.Synced) {op : EngineOp} (hop : s.Accounted op) :
    (s.apply op).Synced := by
  intro hclean
  simp only [Session.apply] at hclean ⊢
  generalize hr : exec op.perform s.engine s.host = r at hclean ⊢
  have hmark := EngineOp.perform_mark s.engine s.host op
  rw [hr] at hmark
  cases hw : r.1.1 with
  | true => simp
  | false =>
    -- Past a point the mark is not measured from, the mark is set or kept with the registries.
    have hkeep : r.1.2.compiler.snapshot = s.engine.compiler.snapshot ∧
        r.1.2.dirty = s.engine.dirty := by
      rcases hmark with hw' | hd | ⟨hd, hsnap | ⟨changes, rfl, hn⟩⟩
      · simp [hw] at hw'
      · simp [hd] at hclean
      · exact ⟨hsnap, hd⟩
      · -- A batch in which no path reloaded is accounted for by keeping the registries.
        rcases hop with hpos | hsnap
        · omega
        · exact ⟨by rwa [Session.apply, hr] at hsnap, hd⟩
    simp only [Bool.false_eq_true, if_false]
    rw [hkeep.1]
    exact hs (hkeep.2 ▸ hclean)

/-- Over every run, while the mark is clear the registries are those of the last start, fetch of
the cache or successful write of it. -/
theorem Run.registries_synced_while_unmarked {s : Session} (hs : s.Run)
    (hclean : s.engine.dirty = false) : s.engine.compiler.snapshot = s.synced.snapshot := by
  induction hs with
  | begin e h => rfl
  | step op _ hop ih => exact Synced.apply ih hop hclean

/-- A fetch of the cache and then a render: the mark is clear, the compiler keeps the render, and
the point of measure is the compiler the run began with. -/
lemma Run.fetch_then_render (e : Engine) (h : Host) (name : String) (tags : NameMap String) :
    let s := ((⟨e, h, e.compiler⟩ : Session).apply .getCache).apply (.loadView name tags)
    s.Run ∧ s.engine = { e with dirty := false, compiler := (e.compiler.render name tags).2 } ∧
      s.synced = e.compiler := by
  intro s
  refine ⟨.step _ (.step _ (.begin e h) trivial) trivial, ?_, ?_⟩ <;> simp [s, Session.apply]

/-- A fetch of the cache and a render of a greeting keep the registries of the fetch. -/
theorem greeting_render_keeps_registries :
    let view : Template := { name := "Home/Index", displayName := "Index", raw := "",
                             fingerprint := "", compiled := "<p>\x7b\x7btitle\x7d\x7d</p>" }
    let c : Compiler := { handlers := Handlers.empty,
                          snapshot := { Snapshot.empty with
                                        compiled := NameMap.empty.insert "Home/Index" view } }
    let e : Engine := { config := { root := "/" }, loader := default, compiler := c,
                        format := .json, store := default }
    let s := ((⟨e, default, e.compiler⟩ : Session).apply .getCache).apply
      (.loadView "Home/Index" (NameMap.empty.insert "title" "Hi"))
    s.Run ∧ s.engine.dirty = false ∧ s.engine.compiler.snapshot = s.synced.snapshot := by
  intro view c e s
  obtain ⟨hrun, heng, -⟩ :=
    Run.fetch_then_render e default "Home/Index" (NameMap.empty.insert "title" "Hi")
  have hclean : s.engine.dirty = false := by rw [heng]
  exact ⟨hrun, hclean, Run.registries_synced_while_unmarked hrun hclean⟩

/-- The mark does not cover the cache itself: a render after a fetch of the cache records its
result in the cache while the mark stays clear. -/
theorem render_changes_cache_without_mark :
    let view : Template := { name := "Home/Index", displayName := "Index", raw := "",
                             fingerprint := "", compiled := "<p>\x7b\x7btitle\x7d\x7d</p>" }
    let c : Compiler := { handlers := Handlers.empty,
                          snapshot := { Snapshot.empty with
                                        compiled := NameMap.empty.insert "Home/Index" view } }
    let e : Engine := { config := { root := "/" }, loader := default, compiler := c,
                        format := .json, store := default }
    let s := ((⟨e, default, e.compiler⟩ : Session).apply .getCache).apply
      (.loadView "Home/Index" (NameMap.empty.insert "title" "Hi"))
    s.Run ∧ s.engine.dirty = false ∧ s.engine.compiler.viewCache ≠ s.synced.viewCache := by
  intro view c e s
  obtain ⟨hrun, heng, hsynced⟩ :=
    Run.fetch_then_render e default "Home/Index" (NameMap.empty.insert "title" "Hi")
  refine ⟨hrun, by rw [heng], fun hcache => ?_⟩
  rw [heng, hsynced] at hcache
  change (c.render "Home/Index" (NameMap.empty.insert "title" "Hi")).2.viewCache = c.viewCache
    at hcache
  -- The cache lists the new render where it listed none before.
  have hrender :
      (c.render "Home/Index" (NameMap.empty.insert "title" "Hi")).2.viewCache.compiled.map
        Template.lastRender = ["<p>Hi</p>"] := by decide +kernel
  have hbefore : c.viewCache.compiled.map Template.lastRender = [""] := by decide +kernel
  rw [hcache, hbefore] at hrender
  exact absurd hrender (by decide)

end Session

end Stencil

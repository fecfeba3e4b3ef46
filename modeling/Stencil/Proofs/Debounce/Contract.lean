import Stencil.Proofs.Debounce.Protocol
import Stencil.Proofs.EventLog
import Mathlib
/-!
# What every interleaving of the debouncer's goroutines guarantees

Four invariants hold of every state the goroutines reach, each carried by one lemma per step:

* `Paths`: the pending paths are distinct, every batch drained is strictly increasing, the log
  drains exactly the batches recorded for the callback, and for every path the log shows its adds
  each covered by the next drain or stop that takes it, with an add waiting exactly while the path
  is pending;
* `Timers`: the timer the debouncer holds is live or expired, and one is held while a path is
  pending;
* `Delivery`: the done signals closed are those of the first batches, whose callbacks have
  returned in order; the delivering goroutine is absent, at the top of its loop, or in the callback
  with the next batch, and the queue holds the batches after those;
* `Waiters`: a caller of `Flush` waits for a batch holding every path it found pending.

From them, `debounce_contract`: every batch handed to the callback is strictly increasing; every
add is covered by exactly one drain or stop; the goroutines can only take finitely many steps
that no caller starts, and when none is left nothing is pending and every drained batch has come
back from the callback; batches reach the callback one at a time in the order they were drained;
and a `Flush` returns with every path it found pending handed to a callback that returned,
unless it found the held timer run out, whose function is then still to drain them.
`flush_returns_before_batch` shows that such a return happens.

The steps no caller starts end because each lowers the work left (`Inv.work_lt`): a timer's
steps lower the work of the timers, and each step of the delivery lowers its own work while the
timers stay as they are.
-/

namespace Stencil

namespace Debouncer

variable (d : Debouncer)

lemma mem_nextBatch {p : String} : p ∈ d.nextBatch ↔ p ∈ d.pending := List.mem_mergeSort

lemma nextBatch_eq_nil : d.nextBatch = [] ↔ d.pending = [] := by
  constructor
  · intro h
    unfold nextBatch at h
    exact (h ▸ (List.mergeSort_perm d.pending _).symm).eq_nil
  · intro h
    simp [nextBatch, h]

/-- Distinct pending paths drain into a strictly increasing batch. -/
lemma nextBatch_strict (h : d.pending.Nodup) : d.nextBatch.Pairwise (· < ·) := by
  have hsorted : d.nextBatch.Pairwise fun a b => decide (a ≤ b) = true :=
    List.pairwise_mergeSort
      (fun a b c hab hbc => by
        simp only [decide_eq_true_eq] at hab hbc ⊢
        exact le_trans hab hbc)
      (fun a b => by
        simp only [Bool.or_eq_true, decide_eq_true_eq]
        exact le_total a b) _
  have hnd : d.nextBatch.Nodup := (List.mergeSort_perm _ _).nodup_iff.2 h
  exact (hsorted.and hnd).imp fun hab => lt_of_le_of_ne (by simpa using hab.1) hab.2

variable {d} {p q : String}

lemma mem_add_pending (h : d.stopped = false) : q ∈ (d.add p).pending ↔ q = p ∨ q ∈ d.pending := by
  simp only [add, h, Bool.false_eq_true, if_false]
  split_ifs with hp
  · simp only [List.contains_iff_mem] at hp
    constructor
    · exact .inr
    · rintro (rfl | hq)
      · exact hp
      · exact hq
  · simp [or_comm]

lemma nodup_add_pending (h : d.stopped = false) (hn : d.pending.Nodup) : (d.add p).pending.Nodup := by
  simp only [add, h, Bool.false_eq_true, if_false]
  split_ifs with hp
  · exact hn
  · simp only [List.contains_iff_mem] at hp
    refine List.nodup_append.2 ⟨hn, List.pairwise_singleton _ p, fun a ha b hb hab => hp ?_⟩
    obtain rfl := List.mem_singleton.1 hb
    exact hab ▸ ha

@[simp] lemma add_batches : (d.add p).batches = d.batches := by
  unfold add
  split <;> rfl

@[simp] lemma add_receiving : (d.add p).receiving = d.receiving := by
  unfold add
  split <;> rfl

@[simp] lemma drain_pending : d.drain.pending = [] := rfl

@[simp] lemma drain_receiving : d.drain.receiving = d.receiving := rfl

/-- Draining pending paths adds their batch when there is a callback. -/
lemma drain_batches (h : d.pending ≠ []) :
    d.drain.batches = if d.receiving then d.batches ++ [d.nextBatch] else d.batches := by
  have hne : d.nextBatch.isEmpty = false := by
    simpa [List.isEmpty_iff, nextBatch_eq_nil] using h
  rw [drain_eq]
  cases d.receiving <;> simp [hne]

@[simp] lemma stop_pending : d.stop.pending = [] := rfl

@[simp] lemma stop_batches : d.stop.batches = d.batches := rfl

@[simp] lemma stop_receiving : d.stop.receiving = d.receiving := rfl

end Debouncer

namespace Debouncing

/-! ### Following one path along the log -/

section Coverage

variable {log : List Event} {e : Event} {p : String}

lemma coverage_append_none (he : e.touches p = none) :
    coverage ((log ++ [e]).filterMap (Event.touches p)) =
      coverage (log.filterMap (Event.touches p)) := by
  simp [List.filterMap_append, he]

lemma coverage_append_some {m : Bool} (he : e.touches p = some m) :
    coverage ((log ++ [e]).filterMap (Event.touches p)) =
      (coverage (log.filterMap (Event.touches p))).bind fun w => cover w m := by
  simp [coverage, List.filterMap_append, he, List.foldlM_append]

/-- Following a path's marks succeeds exactly when no take-away follows another with no add
between, and it ends with an add waiting exactly when the last mark is an add. -/
lemma foldlM_cover_eq_some {m : List Bool} {w₀ w : Bool} :
    m.foldlM cover w₀ = some w ↔
      (w₀ :: m).IsChain (fun a b => (a || b) = true) ∧
        (w₀ :: m).getLast (List.cons_ne_nil _ _) = w := by
  induction m generalizing w₀ with
  | nil => simp
  | cons a m ih =>
    rw [List.foldlM_cons, List.isChain_cons_cons, List.getLast_cons_cons]
    cases a <;> cases w₀ <;> simp [cover, ih]

end Coverage

namespace State

variable {s : State}

/-! ### What the shared steps change -/

@[simp] lemma drain_core : s.drain.core = s.core.drain := by
  dsimp only [State.drain, State.enqueue]
  split_ifs <;> rfl

@[simp] lemma drain_log : s.drain.log = s.log ++ [.drained s.core.nextBatch] := by
  dsimp only [State.drain, State.enqueue]
  split_ifs <;> rfl

@[simp] lemma drain_timers : s.drain.timers = s.timers := by
  dsimp only [State.drain, State.enqueue]
  split_ifs <;> rfl

@[simp] lemma drain_current : s.drain.current = s.current := by
  dsimp only [State.drain, State.enqueue]
  split_ifs <;> rfl

@[simp] lemma drain_closed : s.drain.closed = s.closed := by
  dsimp only [State.drain, State.enqueue]
  split_ifs <;> rfl

@[simp] lemma drain_waiting : s.drain.waiting = s.waiting := by
  dsimp only [State.drain, State.enqueue]
  split_ifs <;> rfl

/-- Stopping a timer changes the timers alone. -/
lemma stopTimer_eq (t : Nat) : s.stopTimer t = { s with timers := (s.stopTimer t).timers } := by
  unfold stopTimer
  split <;> rfl

/-- Stopping the timer held changes the timers alone. -/
lemma stopCurrent_eq : s.stopCurrent = { s with timers := s.stopCurrent.timers } := by
  obtain ⟨core, timers, current, queue, delivering, deliverers, closed, waiting, log⟩ := s
  unfold stopCurrent
  cases current with
  | none => rfl
  | some t => exact stopTimer_eq t

/-- `Flush` drains what is pending once no timer is held, a live one stopped first; it returns at
once when the timer held ran out. -/
lemma flush_cases :
    (∃ ts, s.flush = ({ s with timers := ts, current := none } : State).flushPending) ∨
      s.flush = { s with log := s.log ++ [.deferred s.core.pending] } := by
  obtain ⟨core, timers, current, queue, delivering, deliverers, closed, waiting, log⟩ := s
  unfold State.flush
  cases current with
  | none => exact .inl ⟨timers, rfl⟩
  | some t =>
    dsimp only
    split_ifs with hlive
    · exact .inl ⟨timers.set t .over, by rw [State.stopTimer, if_pos hlive]⟩
    · exact .inr rfl

/-! ### The paths -/

/-- What the log and the paths keep: distinct pending paths, strictly increasing batches, the
batches drained for the callback, and each path's adds covered by its drains and stops. -/
structure Paths (s : State) : Prop where
  nodup : s.core.pending.Nodup
  strict : ∀ b ∈ s.core.batches, b.Pairwise (· < ·)
  drainsEq : s.core.receiving = true → s.drains = s.core.batches
  covers : ∀ p, coverage (s.log.filterMap (Event.touches p)) = some (decide (p ∈ s.core.pending))

namespace Paths

variable {s s' : State}

lemma init (window : Nat) (receiving : Bool) : (State.init window receiving).Paths where
  nodup := List.nodup_nil
  strict := by simp [State.init]
  drainsEq := fun _ => rfl
  covers := fun _ => rfl

/-- An event that bears on no path and drains nothing keeps the paths. -/
lemma log_append (hs : s.Paths) {e : Event} (hcore : s'.core = s.core)
    (hlog : s'.log = s.log ++ [e]) (htouch : ∀ p, e.touches p = none)
    (hdrain : e.drainedBatch = none) : s'.Paths where
  nodup := hcore ▸ hs.nodup
  strict := hcore ▸ hs.strict
  drainsEq := by
    intro hr
    rw [hcore] at hr ⊢
    simp [drains, hlog, List.filterMap_append, hdrain, ← hs.drainsEq hr]
  covers := fun p => by rw [hlog, coverage_append_none (htouch p), hcore, hs.covers p]

/-- A step that changes neither the paths nor the log keeps the paths. -/
lemma frame (hs : s.Paths) (hcore : s'.core = s.core) (hlog : s'.log = s.log) : s'.Paths where
  nodup := hcore ▸ hs.nodup
  strict := hcore ▸ hs.strict
  drainsEq := by
    rw [hcore]
    intro hr
    simp only [drains, hlog]
    exact hs.drainsEq hr
  covers := fun p => by rw [hlog, hcore]; exact hs.covers p

/-- An add of a path, while not stopped, keeps the paths: the add waits. -/
lemma add (hs : s.Paths) {p : String} (hst : s.core.stopped = false)
    (hcore : s'.core = s.core.add p) (hlog : s'.log = s.log ++ [.added p]) : s'.Paths where
  nodup := hcore ▸ Debouncer.nodup_add_pending hst hs.nodup
  strict := by
    rw [hcore, Debouncer.add_batches]
    exact hs.strict
  drainsEq := by
    rw [hcore, Debouncer.add_receiving, Debouncer.add_batches]
    intro hr
    simp [drains, hlog, List.filterMap_append, Event.drainedBatch, ← hs.drainsEq hr]
  covers := fun q => by
    rw [hlog, hcore]
    by_cases hpq : p = q
    · subst hpq
      rw [coverage_append_some (show (Event.added p).touches p = some true by simp [Event.touches]),
        hs.covers p]
      simp [cover, Debouncer.mem_add_pending hst]
    · rw [coverage_append_none (show (Event.added p).touches q = none by simp [Event.touches, hpq]),
        hs.covers q]
      simp [Debouncer.mem_add_pending hst, Ne.symm hpq]

/-- An event that takes every pending path leaves no add waiting. -/
lemma covers_takeAll (hs : s.Paths) {e : Event}
    (he : ∀ q, e.touches q = if q ∈ s.core.pending then some false else none) (q : String) :
    coverage ((s.log ++ [e]).filterMap (Event.touches q)) = some false := by
  by_cases hq : q ∈ s.core.pending
  · rw [coverage_append_some (show e.touches q = some false by rw [he, if_pos hq]), hs.covers q]
    simp [hq, cover]
  · rw [coverage_append_none (show e.touches q = none by rw [he, if_neg hq]), hs.covers q]
    simp [hq]

/-- A drain of pending paths keeps the paths: their batch is strictly increasing and takes them. -/
lemma drain (hs : s.Paths) (hne : s.core.pending ≠ []) : s.drain.Paths where
  nodup := by simp
  strict := by
    rw [drain_core, Debouncer.drain_batches hne]
    split_ifs
    · intro b hb
      rcases List.mem_append.1 hb with hb | hb
      · exact hs.strict b hb
      · rw [List.mem_singleton.1 hb]
        exact s.core.nextBatch_strict hs.nodup
    · exact hs.strict
  drainsEq := by
    rw [drain_core, Debouncer.drain_receiving, Debouncer.drain_batches hne]
    intro hr
    simp [drains, hr, List.filterMap_append, Event.drainedBatch, ← hs.drainsEq hr]
  covers := fun q => by
    have he : ∀ q, (Event.drained s.core.nextBatch).touches q =
        if q ∈ s.core.pending then some false else none := fun q => by
      simp [Event.touches, Debouncer.mem_nextBatch]
    rw [drain_log, covers_takeAll hs he q]
    simp

/-- A stop keeps the paths: it takes every pending path. -/
lemma stop (hs : s.Paths) (hcore : s'.core = s.core.stop)
    (hlog : s'.log = s.log ++ [.discarded s.core.pending]) : s'.Paths where
  nodup := by simp [hcore]
  strict := by
    rw [hcore, Debouncer.stop_batches]
    exact hs.strict
  drainsEq := by
    rw [hcore, Debouncer.stop_receiving, Debouncer.stop_batches]
    intro hr
    simp [drains, hlog, List.filterMap_append, Event.drainedBatch, ← hs.drainsEq hr]
  covers := fun q => by
    have he : ∀ q, (Event.discarded s.core.pending).touches q =
        if q ∈ s.core.pending then some false else none := fun q => by
      simp [Event.touches]
    rw [hlog, covers_takeAll hs he q, hcore]
    simp

end Paths

/-! ### The timers -/

/-- What the timers keep: the timer held is live or has run out, and one is held while a path is
pending. -/
structure Timers (s : State) : Prop where
  held : ∀ t, s.current = some t → s.timers[t]? = some .live ∨ s.timers[t]? = some .expired
  pending : s.core.pending ≠ [] → s.current ≠ none

namespace Timers

variable {s s' : State}

lemma init (window : Nat) (receiving : Bool) : (State.init window receiving).Timers where
  held := by simp [State.init]
  pending := by simp [State.init]

/-- No timer held and nothing pending. -/
lemma idle (hc : s'.current = none) (hp : s'.core.pending = []) : s'.Timers where
  held := by simp [hc]
  pending := fun h => absurd hp h

lemma frame (hs : s.Timers) (hc : s'.current = s.current) (ht : s'.timers = s.timers)
    (hp : s'.core.pending = s.core.pending) : s'.Timers where
  held := by
    rw [hc, ht]
    exact hs.held
  pending := by
    rw [hc, hp]
    exact hs.pending

/-- A new live timer, held. -/
lemma start {ts : List Timer} (hc : s'.current = some ts.length) (ht : s'.timers = ts ++ [.live]) :
    s'.Timers where
  held := fun t h => by
    rw [hc, Option.some.injEq] at h
    subst h
    simp [ht]
  pending := fun _ => by simp [hc]

/-- A live timer runs out. -/
lemma expire (hs : s.Timers) {t : Nat} (hlive : s.timers[t]? = some .live) :
    ({ s with timers := s.timers.set t .expired } : State).Timers where
  held := fun t' h => by
    have hlt : t < s.timers.length := (List.getElem?_eq_some_iff.1 hlive).1
    by_cases htt : t = t'
    · subst htt
      simp [hlt]
    · simp only [List.getElem?_set, htt, if_false]
      exact hs.held t' h
  pending := hs.pending

end Timers

/-! ### The delivery of the batches -/

/-- The callback's events of a log grow only by the callback's events. -/
lemma trace_eq_of_log {s' : State} {e : Event} (hlog : s'.log = s.log ++ [e])
    (he : e.isCallback = false) : s'.trace = s.trace := by
  simp [State.trace, hlog, List.filter_append, he]

lemma trace_snoc {s' : State} {e : Event} (hlog : s'.log = s.log ++ [e])
    (he : e.isCallback = true) : s'.trace = s.trace ++ [e] := by
  simp [State.trace, hlog, List.filter_append, he]

lemma served_append (bs bs' : List (List String)) : served (bs ++ bs') = served bs ++ served bs' :=
  List.flatMap_append

/-- A batch not beyond the batches recorded is the same after more are recorded. -/
lemma batch_of_append {s' : State} {bs : List (List String)} {k : Nat}
    (hb : s'.core.batches = s.core.batches ++ bs) (hk : k < s.core.batches.length) :
    s'.batch k = s.batch k := by
  simp [State.batch, hb, List.getD_eq_getElem?_getD, List.getElem?_append_left hk]

/-- A batch recorded is the batch of its index. -/
lemma getElem?_batches {k : Nat} (hk : k < s.core.batches.length) :
    s.core.batches[k]? = some (s.batch k) := by
  rw [State.batch, List.getD_eq_getElem?_getD, List.getElem?_eq_getElem hk, Option.getD_some]

/-- No delivering goroutine: every batch is back from the callback, in order. -/
def Idle (s : State) : Prop :=
  s.deliverers = [] ∧ s.delivering = false ∧ s.queue = [] ∧
    s.closed.length = s.core.batches.length ∧ s.trace = served (s.core.batches.take s.closed.length)

/-- The delivering goroutine at the top of its loop, the batches not back from the callback
queued. -/
def AtTop (s : State) : Prop :=
  s.deliverers = [.top] ∧ s.delivering = true ∧
    s.queue = List.range' s.closed.length (s.core.batches.length - s.closed.length) ∧
    s.trace = served (s.core.batches.take s.closed.length)

/-- The delivering goroutine in the callback with the first batch not back, the later ones
queued. -/
def Calling (s : State) : Prop :=
  s.deliverers = [.calling s.closed.length] ∧ s.delivering = true ∧
    s.closed.length < s.core.batches.length ∧
    s.queue = List.range' (s.closed.length + 1) (s.core.batches.length - (s.closed.length + 1)) ∧
    s.trace = served (s.core.batches.take s.closed.length) ++ [.called (s.batch s.closed.length)]

/-- What the delivery keeps: the done signals closed are those of the first batches, and the
delivering goroutine is absent, at the top of its loop, or in the callback. -/
structure Delivery (s : State) : Prop where
  closed : s.closed = List.range s.closed.length
  le : s.closed.length ≤ s.core.batches.length
  stage : s.Idle ∨ s.AtTop ∨ s.Calling

namespace Delivery

variable {s s' : State}

lemma init (window : Nat) (receiving : Bool) : (State.init window receiving).Delivery where
  closed := rfl
  le := le_refl _
  stage := .inl ⟨rfl, rfl, rfl, rfl, rfl⟩

lemma frame (hs : s.Delivery) (hclosed : s'.closed = s.closed) (hdel : s'.deliverers = s.deliverers)
    (hdelivering : s'.delivering = s.delivering) (hqueue : s'.queue = s.queue)
    (hbatches : s'.core.batches = s.core.batches) (htrace : s'.trace = s.trace) : s'.Delivery := by
  obtain ⟨hc, hle, hstage⟩ := hs
  refine ⟨by rw [hclosed]; exact hc, by rw [hclosed, hbatches]; exact hle, ?_⟩
  simp only [Idle, AtTop, Calling, State.batch, hclosed, hdel, hdelivering, hqueue, hbatches, htrace]
  exact hstage

/-- The batches queued or in the callback are followed, in every stage, by the callback's events
of the batches back from it. -/
lemma trace_eq (hs : s.Delivery) :
    ∃ rest, s.trace = served (s.core.batches.take s.closed.length) ++ rest := by
  rcases hs.stage with ⟨-, -, -, -, ht⟩ | ⟨-, -, -, ht⟩ | ⟨-, -, -, -, ht⟩
  · exact ⟨[], by simpa using ht⟩
  · exact ⟨[], by simpa using ht⟩
  · exact ⟨_, ht⟩

/-- A batch whose done signal is closed came back from the callback. -/
lemma returned_mem (hs : s.Delivery) {k : Nat} (hk : k < s.closed.length) :
    .returned (s.batch k) ∈ s.log := by
  obtain ⟨rest, ht⟩ := hs.trace_eq
  have hkn : k < s.core.batches.length := lt_of_lt_of_le hk hs.le
  have hmem : s.batch k ∈ s.core.batches.take s.closed.length :=
    List.mem_of_getElem? (by rw [List.getElem?_take_of_lt hk, getElem?_batches hkn])
  have htr : Event.returned (s.batch k) ∈ s.trace := by
    rw [ht]
    exact List.mem_append_left _ (List.mem_flatMap.2 ⟨_, hmem, by simp⟩)
  exact List.mem_of_mem_filter htr

lemma drain_of_not_receiving (hr : s.core.receiving = false) :
    s.drain = { s with core := s.core.drain, log := s.log ++ [.drained s.core.nextBatch] } := by
  dsimp only [State.drain]
  rw [if_neg (by simp [hr])]

lemma drain_of_receiving (hr : s.core.receiving = true) :
    s.drain.queue = s.queue ++ [s.core.batches.length] ∧ s.drain.delivering = true ∧
      s.drain.deliverers = if s.delivering then s.deliverers else s.deliverers ++ [.top] := by
  dsimp only [State.drain, State.enqueue]
  rw [if_pos hr]
  split_ifs with hd <;> simp [hd]

/-- A drain queues its batch for the callback, starting a delivering goroutine unless one runs. -/
lemma drain (hs : s.Delivery) (hne : s.core.pending ≠ []) : s.drain.Delivery := by
  have htrace : s.drain.trace = s.trace := trace_eq_of_log drain_log rfl
  cases hr : s.core.receiving with
  | false =>
    have hb : s.drain.core.batches = s.core.batches := by
      simp [Debouncer.drain_batches hne, hr]
    exact hs.frame (by simp) (by rw [drain_of_not_receiving hr]) (by rw [drain_of_not_receiving hr])
      (by rw [drain_of_not_receiving hr]) hb htrace
  | true =>
    obtain ⟨hq, hdv, hds⟩ := drain_of_receiving hr
    have hb : s.drain.core.batches = s.core.batches ++ [s.core.nextBatch] := by
      simp [Debouncer.drain_batches hne, hr]
    have hbatch : ∀ k < s.core.batches.length, s.drain.batch k = s.batch k :=
      fun k hk => batch_of_append hb hk
    obtain ⟨hc, hle, hstage⟩ := hs
    refine ⟨by rw [drain_closed]; exact hc,
      by rw [drain_closed, hb, List.length_append, List.length_singleton]; omega, ?_⟩
    -- In every stage the new batch is queued last, after the batches not back yet.
    rcases hstage with ⟨hd, hdl, hq0, hcn, ht⟩ | ⟨hd, hdl, hq0, ht⟩ | ⟨hd, hdl, hcn, hq0, ht⟩
    · refine .inr (.inl ⟨by simp [hds, hdl, hd], hdv, ?_, ?_⟩)
      · rw [hq, hq0, drain_closed, hb, hcn]
        simp
      · rw [htrace, ht, drain_closed, hb, List.take_append_of_le_length hle]
    · refine .inr (.inl ⟨by simp [hds, hdl, hd], hdv, ?_, ?_⟩)
      · rw [hq, hq0, drain_closed, hb, List.length_append, List.length_singleton,
          show s.core.batches.length + 1 - s.closed.length = s.core.batches.length - s.closed.length + 1
            by omega, List.range'_concat]
        congr 2
        omega
      · rw [htrace, ht, drain_closed, hb, List.take_append_of_le_length hle]
    · refine .inr (.inr ⟨by simp [hds, hdl, hd], hdv,
        by rw [drain_closed, hb, List.length_append, List.length_singleton]; omega, ?_, ?_⟩)
      · rw [hq, hq0, drain_closed, hb, List.length_append, List.length_singleton,
          show s.core.batches.length + 1 - (s.closed.length + 1) =
            s.core.batches.length - (s.closed.length + 1) + 1 by omega, List.range'_concat]
        congr 2
        omega
      · rw [htrace, ht, drain_closed, hb, List.take_append_of_le_length hle, hbatch _ hcn]

lemma take_nil (h : s.queue = []) (g : Nat) :
    s.take g = { s with delivering := false, deliverers := s.deliverers.eraseIdx g } := by
  simp [State.take, h]

lemma take_cons {k : Nat} {rest : List Nat} (h : s.queue = k :: rest) (g : Nat) :
    s.take g = { s with queue := rest, deliverers := s.deliverers.set g (.calling k),
                        log := s.log ++ [.called (s.batch k)] } := by
  simp [State.take, h]

/-- A goroutine at the top of its loop is the only one, the first. -/
lemma atTop_of (hs : s.Delivery) {g : Nat} (hg : s.deliverers[g]? = some .top) : g = 0 ∧ s.AtTop := by
  rcases hs.stage with ⟨hd, -⟩ | hat | ⟨hd, -⟩
  · simp [hd] at hg
  · rw [hat.1, List.getElem?_singleton] at hg
    split_ifs at hg with hg0
    exact ⟨hg0, hat⟩
  · rw [hd, List.getElem?_singleton] at hg
    split_ifs at hg
    simp at hg

/-- A goroutine in the callback is the only one, the first, with the first batch not back. -/
lemma calling_of (hs : s.Delivery) {g k : Nat} (hg : s.deliverers[g]? = some (.calling k)) :
    g = 0 ∧ k = s.closed.length ∧ s.Calling := by
  rcases hs.stage with ⟨hd, -⟩ | ⟨hd, -⟩ | hcall
  · simp [hd] at hg
  · rw [hd, List.getElem?_singleton] at hg
    split_ifs at hg
    simp at hg
  · rw [hcall.1, List.getElem?_singleton] at hg
    split_ifs at hg with hg0
    simp only [Option.some.injEq, Deliverer.calling.injEq] at hg
    exact ⟨hg0, hg.symm, hcall⟩

/-- The delivering goroutine at the top of its loop ends when no batch waits, and otherwise
takes the first batch not back into the callback. -/
lemma take (hs : s.Delivery) {g : Nat} (hg : s.deliverers[g]? = some .top) : (s.take g).Delivery := by
  obtain ⟨rfl, hd, hdl, hq, ht⟩ := hs.atTop_of hg
  obtain ⟨hc, hle, -⟩ := hs
  rcases Nat.eq_zero_or_pos (s.core.batches.length - s.closed.length) with hn | hn
  · rw [hn, List.range'_zero] at hq
    rw [take_nil hq]
    exact ⟨hc, hle, .inl ⟨by simp [hd], rfl, hq, by dsimp only; omega, ht⟩⟩
  · obtain ⟨m, hm⟩ := Nat.exists_eq_add_of_lt hn
    rw [show s.core.batches.length - s.closed.length = m + 1 by omega, List.range'_succ] at hq
    rw [take_cons hq]
    refine ⟨hc, hle, .inr (.inr ⟨by simp [hd], hdl, by dsimp only; omega, ?_, ?_⟩)⟩
    · dsimp only
      congr 1
      omega
    · calc _ = s.trace ++ [.called (s.batch s.closed.length)] := trace_snoc rfl rfl
        _ = _ := by rw [ht]; rfl

/-- The callback returns from its batch: its done signal is closed, and the goroutine goes back to
the top of its loop. -/
lemma finish (hs : s.Delivery) {g k : Nat} (hg : s.deliverers[g]? = some (.calling k)) :
    (s.finish g k).Delivery := by
  obtain ⟨rfl, rfl, hd, hdl, hcn, hq, ht⟩ := hs.calling_of hg
  obtain ⟨hc, hle, -⟩ := hs
  have hclosed : (s.finish 0 s.closed.length).closed.length = s.closed.length + 1 := by
    simp [State.finish]
  refine ⟨?_, ?_, .inr (.inl ⟨by simp [State.finish, hd], hdl, ?_, ?_⟩)⟩
  · rw [hclosed]
    show s.closed ++ [s.closed.length] = List.range (s.closed.length + 1)
    rw [List.range_succ, ← hc]
  · rw [hclosed]
    exact hcn
  · rw [hclosed]
    exact hq
  · rw [hclosed]
    calc _ = s.trace ++ [.returned (s.batch s.closed.length)] := trace_snoc rfl rfl
      _ = _ := by
        dsimp only [State.finish]
        rw [ht, List.take_add_one, getElem?_batches hcn, Option.toList_some, served_append]
        simp [served]

end Delivery

/-! ### The callers of `Flush` -/

/-- Each caller of `Flush` waits for a batch drained for the callback, holding every path it found
pending. -/
def Waiters (s : State) : Prop :=
  ∀ w ∈ s.waiting, w.1 < s.core.batches.length ∧ ∀ p ∈ w.2, p ∈ s.batch w.1

namespace Waiters

variable {s s' : State}

lemma frame (hs : s.Waiters) (hw : s'.waiting = s.waiting)
    (hb : s'.core.batches = s.core.batches) : s'.Waiters := by
  intro w hmem
  rw [hw] at hmem
  simp only [State.batch, hb]
  exact hs w hmem

lemma drain (hs : s.Waiters) (hne : s.core.pending ≠ []) : s.drain.Waiters := by
  intro w hmem
  rw [drain_waiting] at hmem
  obtain ⟨hlt, hps⟩ := hs w hmem
  have hb : ∃ bs, s.drain.core.batches = s.core.batches ++ bs := by
    rw [drain_core, Debouncer.drain_batches hne]
    split_ifs
    · exact ⟨_, rfl⟩
    · exact ⟨[], by simp⟩
  obtain ⟨bs, hb⟩ := hb
  refine ⟨by rw [hb, List.length_append]; omega, fun p hp => ?_⟩
  rw [batch_of_append hb hlt]
  exact hps p hp

end Waiters

/-- Every return of `Flush` that waited came after each path it found pending was in a batch back
from the callback. -/
def Flushes (log : List Event) : Prop :=
  Preceded (fun L e => ∀ ps, e = .flushed ps → ∀ p ∈ ps, ∃ b, p ∈ b ∧ .returned b ∈ L) log

lemma Flushes.snoc {log : List Event} {e : Event} (h : Flushes log) (he : ∀ ps, e ≠ .flushed ps) :
    Flushes (log ++ [e]) :=
  Preceded.snoc h fun ps h => absurd h (he ps)

/-! ### Every step keeps the invariant -/

/-- What every state the goroutines reach keeps. -/
structure Inv (s : State) : Prop where
  paths : s.Paths
  timers : s.Timers
  delivery : s.Delivery
  waiters : s.Waiters
  /-- With a callback, each return of `Flush` that waited came after its paths came back. -/
  flushes : s.core.receiving = true → Flushes s.log

lemma flushes_drain (hf : s.core.receiving = true → Flushes s.log) :
    s.drain.core.receiving = true → Flushes s.drain.log := fun hr => by
  rw [drain_log]
  exact (hf (by simpa using hr)).snoc (by simp)

/-- `Flush` once no timer is held: with nothing pending it returns at once; otherwise it drains,
and with a callback waits for the batch. -/
lemma flushPending_inv (hp : s.Paths) (hd : s.Delivery) (hw : s.Waiters)
    (hf : s.core.receiving = true → Flushes s.log) (hc : s.current = none) : s.flushPending.Inv := by
  dsimp only [State.flushPending]
  split_ifs with hempty hr
  · have he : s.core.pending = [] := List.isEmpty_iff.1 hempty
    refine ⟨hp.log_append rfl rfl (by simp [Event.touches]) rfl, Timers.idle hc he,
      hd.frame rfl rfl rfl rfl rfl (trace_eq_of_log rfl rfl), hw.frame rfl rfl,
      fun hr => Preceded.snoc (hf hr) fun ps h p hps => ?_⟩
    rw [Event.flushed.injEq] at h
    rw [← h, he] at hps
    exact absurd hps List.not_mem_nil
  · have hne : s.core.pending ≠ [] := by simpa [List.isEmpty_iff] using hempty
    refine ⟨(hp.drain hne).frame rfl rfl, Timers.idle (by simp [hc]) (by simp),
      (hd.drain hne).frame rfl rfl rfl rfl rfl rfl, ?_, flushes_drain hf⟩
    -- The caller waits for the batch just drained, which holds every path it found pending.
    intro w hmem
    rcases List.mem_append.1 hmem with hmem | hmem
    · exact hw.drain hne w (by rw [drain_waiting]; exact hmem)
    · rw [List.mem_singleton.1 hmem]
      have hb : s.core.drain.batches = s.core.batches ++ [s.core.nextBatch] := by
        rw [Debouncer.drain_batches hne, if_pos hr]
      refine ⟨by simp [hb], fun p hps => ?_⟩
      simp only [State.batch, drain_core, hb, List.getD_eq_getElem?_getD,
        List.getElem?_concat_length, Option.getD_some]
      exact (Debouncer.mem_nextBatch _).2 hps
  · have hne : s.core.pending ≠ [] := by simpa [List.isEmpty_iff] using hempty
    exact ⟨(hp.drain hne).log_append rfl rfl (by simp [Event.touches]) rfl,
      Timers.idle (by simp [hc]) (by simp), (hd.drain hne).frame rfl rfl rfl rfl rfl
        (trace_eq_of_log rfl rfl), (hw.drain hne).frame rfl rfl,
      fun hr' => absurd (by simpa using hr') hr⟩

/-- What a step can be: the state of its action, under the action's guard. -/
lemma step_cases {s' : State} {a : Action} (h : s.step a = some s') :
    (∃ p, a = .add p ∧ s' = s.add p) ∨
    (∃ t, a = .expire t ∧ s.timers[t]? = some .live ∧
      s' = { s with timers := s.timers.set t .expired }) ∨
    (∃ t, a = .fire t ∧ s.timers[t]? = some .expired ∧ s' = s.fire t) ∨
    (∃ g, a = .take g ∧ s.deliverers[g]? = some .top ∧ s' = s.take g) ∨
    (∃ g k, a = .finish g ∧ s.deliverers[g]? = some (.calling k) ∧ s' = s.finish g k) ∨
    (a = .flush ∧ s' = s.flush) ∨
    (∃ w k ps, a = .resume w ∧ s.waiting[w]? = some (k, ps) ∧ k ∈ s.closed ∧
      s' = s.resume w ps) ∨
    (a = .stop ∧ s' = s.stop) := by
  cases a with
  | add p => exact .inl ⟨p, rfl, (Option.some.inj h).symm⟩
  | expire t =>
    rw [State.step] at h
    split_ifs at h with hlive
    exact .inr (.inl ⟨t, rfl, hlive, (Option.some.inj h).symm⟩)
  | fire t =>
    rw [State.step] at h
    split_ifs at h with hexp
    exact .inr (.inr (.inl ⟨t, rfl, hexp, (Option.some.inj h).symm⟩))
  | take g =>
    rw [State.step] at h
    split_ifs at h with hg
    exact .inr (.inr (.inr (.inl ⟨g, rfl, hg, (Option.some.inj h).symm⟩)))
  | finish g =>
    rw [State.step] at h
    cases hg : s.deliverers[g]? with
    | none => simp [hg] at h
    | some d =>
      cases d with
      | top => simp [hg] at h
      | calling k =>
        simp only [hg, Option.some.injEq] at h
        exact .inr (.inr (.inr (.inr (.inl ⟨g, k, rfl, hg, h.symm⟩))))
  | flush => exact .inr (.inr (.inr (.inr (.inr (.inl ⟨rfl, (Option.some.inj h).symm⟩)))))
  | resume w =>
    rw [State.step] at h
    cases hw : s.waiting[w]? with
    | none => simp [hw] at h
    | some x =>
      obtain ⟨k, ps⟩ := x
      simp only [hw] at h
      split_ifs at h with hk
      exact .inr (.inr (.inr (.inr (.inr (.inr (.inl
        ⟨w, k, ps, rfl, hw, hk, (Option.some.inj h).symm⟩))))))
  | stop => exact .inr (.inr (.inr (.inr (.inr (.inr (.inr ⟨rfl, (Option.some.inj h).symm⟩))))))

namespace Inv

variable {s s' : State}

lemma init (window : Nat) (receiving : Bool) : (State.init window receiving).Inv where
  paths := Paths.init window receiving
  timers := Timers.init window receiving
  delivery := Delivery.init window receiving
  waiters := fun w h => by simp [State.init] at h
  flushes := fun _ => Preceded.nil

/-- Logging an event that bears on no path, drains nothing, is not the callback's and is no
return of a waiting `Flush` keeps the invariant. -/
lemma record (hs : s.Inv) {e : Event} (htouch : ∀ p, e.touches p = none)
    (hdrain : e.drainedBatch = none) (hcb : e.isCallback = false) (hfl : ∀ ps, e ≠ .flushed ps) :
    ({ s with log := s.log ++ [e] } : State).Inv where
  paths := hs.paths.log_append rfl rfl htouch hdrain
  timers := hs.timers.frame rfl rfl rfl
  delivery := hs.delivery.frame rfl rfl rfl rfl rfl (trace_eq_of_log rfl hcb)
  waiters := hs.waiters.frame rfl rfl
  flushes := fun hr => (hs.flushes hr).snoc hfl

lemma add (hs : s.Inv) (p : String) : (s.add p).Inv := by
  by_cases hst : s.core.stopped = true
  · rw [State.add, if_pos hst]
    exact hs
  · obtain ⟨ts, hts⟩ : ∃ ts, s.stopCurrent = { s with timers := ts } := ⟨_, stopCurrent_eq⟩
    have hadd : s.add p =
        { s with core := s.core.add p, timers := ts ++ [.live], current := some ts.length,
                 log := s.log ++ [.added p] } := by
      rw [State.add, if_neg hst, hts]
    rw [hadd]
    exact {
      paths := hs.paths.add (by simpa using hst) rfl rfl
      timers := Timers.start rfl rfl
      delivery := hs.delivery.frame rfl rfl rfl rfl (by simp) (trace_eq_of_log rfl rfl)
      waiters := hs.waiters.frame rfl (by simp)
      flushes := fun hr => (hs.flushes (by simpa using hr)).snoc (by simp) }

lemma expire (hs : s.Inv) {t : Nat} (hlive : s.timers[t]? = some .live) :
    ({ s with timers := s.timers.set t .expired } : State).Inv where
  paths := hs.paths.frame rfl rfl
  timers := hs.timers.expire hlive
  delivery := hs.delivery.frame rfl rfl rfl rfl rfl rfl
  waiters := hs.waiters.frame rfl rfl
  flushes := hs.flushes

lemma fire (hs : s.Inv) (t : Nat) : (s.fire t).Inv := by
  set s₁ : State := { s with timers := s.timers.set t .over, current := none } with hs₁
  have hfire : s.fire t = if s.core.pending.isEmpty then s₁ else s₁.drain := rfl
  have hp₁ : s₁.Paths := hs.paths.frame rfl rfl
  have hd₁ : s₁.Delivery := hs.delivery.frame rfl rfl rfl rfl rfl rfl
  have hw₁ : s₁.Waiters := hs.waiters.frame rfl rfl
  rw [hfire]
  split_ifs with hp
  · -- Nothing pending: the timer is over, and none is held.
    exact ⟨hp₁, Timers.idle rfl (List.isEmpty_iff.1 hp), hd₁, hw₁, hs.flushes⟩
  · have hne : s₁.core.pending ≠ [] := by simpa [List.isEmpty_iff] using hp
    exact ⟨hp₁.drain hne, Timers.idle (by simp [hs₁]) (by simp), hd₁.drain hne, hw₁.drain hne,
      flushes_drain hs.flushes⟩

lemma take (hs : s.Inv) {g : Nat} (hg : s.deliverers[g]? = some .top) : (s.take g).Inv := by
  have hd := hs.delivery.take hg
  cases hq : s.queue with
  | nil =>
    rw [Delivery.take_nil hq] at hd ⊢
    exact ⟨hs.paths.frame rfl rfl, hs.timers.frame rfl rfl rfl, hd, hs.waiters.frame rfl rfl,
      hs.flushes⟩
  | cons k rest =>
    rw [Delivery.take_cons hq] at hd ⊢
    exact ⟨hs.paths.log_append rfl rfl (by simp [Event.touches]) rfl, hs.timers.frame rfl rfl rfl,
      hd, hs.waiters.frame rfl rfl, fun hr => (hs.flushes hr).snoc (by simp)⟩

lemma finish (hs : s.Inv) {g k : Nat} (hg : s.deliverers[g]? = some (.calling k)) :
    (s.finish g k).Inv where
  paths := hs.paths.log_append rfl rfl (by simp [Event.touches]) rfl
  timers := hs.timers.frame rfl rfl rfl
  delivery := hs.delivery.finish hg
  waiters := hs.waiters.frame rfl rfl
  flushes := fun hr => (hs.flushes hr).snoc (by simp)

lemma flush (hs : s.Inv) : s.flush.Inv := by
  rcases flush_cases with ⟨ts, hflush⟩ | hflush <;> rw [hflush]
  · -- No timer is held any more, and what is pending is flushed.
    exact flushPending_inv (hs.paths.frame rfl rfl) (hs.delivery.frame rfl rfl rfl rfl rfl rfl)
      (hs.waiters.frame rfl rfl) hs.flushes rfl
  · -- The timer ran out: `Flush` returns at once.
    exact hs.record (show ∀ p, (Event.deferred s.core.pending).touches p = none by
      simp [Event.touches]) rfl rfl (by simp)

/-- A waiting caller of `Flush` returns once its batch is back from the callback. -/
lemma resume (hs : s.Inv) {w k : Nat} {ps : List String} (hw : s.waiting[w]? = some (k, ps))
    (hk : k ∈ s.closed) : (s.resume w ps).Inv where
  paths := hs.paths.log_append rfl rfl (by simp [Event.touches]) rfl
  timers := hs.timers.frame rfl rfl rfl
  delivery := hs.delivery.frame rfl rfl rfl rfl rfl (trace_eq_of_log rfl rfl)
  waiters := fun x hx => hs.waiters x (List.mem_of_mem_eraseIdx hx)
  flushes := fun hr => Preceded.snoc (hs.flushes hr) fun ps' h p hp => by
    rw [Event.flushed.injEq] at h
    subst h
    obtain ⟨-, hbatch⟩ := hs.waiters _ (List.mem_of_getElem? hw)
    have hkc : k < s.closed.length := by
      have := hs.delivery.closed ▸ hk
      exact List.mem_range.1 this
    exact ⟨s.batch k, hbatch p hp, hs.delivery.returned_mem hkc⟩

lemma stop (hs : s.Inv) : s.stop.Inv := by
  obtain ⟨ts, hts⟩ : ∃ ts, s.stopCurrent = { s with timers := ts } := ⟨_, stopCurrent_eq⟩
  have hstop : s.stop =
      { s with core := s.core.stop, timers := ts, current := none,
               log := s.log ++ [.discarded s.core.pending] } := by
    rw [State.stop, hts]
  rw [hstop]
  exact {
    paths := hs.paths.stop rfl rfl
    timers := Timers.idle rfl (by simp)
    delivery := hs.delivery.frame rfl rfl rfl rfl (by simp) (trace_eq_of_log rfl rfl)
    waiters := hs.waiters.frame rfl (by simp)
    flushes := fun hr => (hs.flushes (by simpa using hr)).snoc (by simp) }

/-- Every step keeps the invariant. -/
lemma step (hs : s.Inv) {a : Action} (h : s.step a = some s') : s'.Inv := by
  rcases step_cases h with ⟨p, -, rfl⟩ | ⟨t, -, hlive, rfl⟩ | ⟨t, -, -, rfl⟩ | ⟨g, -, hg, rfl⟩ |
    ⟨g, k, -, hg, rfl⟩ | ⟨-, rfl⟩ | ⟨w, k, ps, -, hw, hk, rfl⟩ | ⟨-, rfl⟩
  · exact hs.add p
  · exact hs.expire hlive
  · exact hs.fire t
  · exact hs.take hg
  · exact hs.finish hg
  · exact hs.flush
  · exact hs.resume hw hk
  · exact hs.stop

end Inv

lemma Reachable.inv (h : s.Reachable) : s.Inv := by
  induction h with
  | init window receiving => exact Inv.init window receiving
  | step _ hstep ih => exact ih.step hstep

end State

/-! ### The goroutines' own steps end -/

/-- The steps a timer can still take: run out, then run its function. -/
def Timer.work : Timer → Nat
  | .live => 2
  | .expired => 1
  | .over => 0

/-- The steps a delivering goroutine can still take before it looks at the queue again. -/
def Deliverer.work : Deliverer → Nat
  | .top => 1
  | .calling _ => 2

/-- Setting one timer changes the work of the timers by the difference of the two. -/
lemma sum_work_set {l : List Timer} {t : Nat} {x : Timer} (y : Timer) (h : l[t]? = some x) :
    ((l.set t y).map Timer.work).sum + x.work = (l.map Timer.work).sum + y.work := by
  induction l generalizing t with
  | nil => simp at h
  | cons a l ih =>
    cases t with
    | zero =>
      simp only [List.getElem?_cons_zero, Option.some.injEq] at h
      subst h
      simp only [List.set_cons_zero, List.map_cons, List.sum_cons]
      omega
    | succ t =>
      simp only [List.getElem?_cons_succ] at h
      simp only [List.set_cons_succ, List.map_cons, List.sum_cons]
      have := ih h
      omega

namespace State

variable {s s' : State}

/-- What the timers can still do. -/
def timerWork (s : State) : Nat := (s.timers.map Timer.work).sum

/-- What the delivery can still do: each queued batch is taken and returned, each goroutine moves
on, and each waiting caller of `Flush` returns. -/
def deliveryWork (s : State) : Nat :=
  2 * s.queue.length + (s.deliverers.map Deliverer.work).sum + s.waiting.length

lemma fire_timers (t : Nat) : (s.fire t).timers = s.timers.set t .over := by
  dsimp only [State.fire]
  split_ifs <;> simp

/-- A step no caller starts lowers the work of the timers, or keeps it and lowers the work of
the delivery. -/
lemma Inv.work_lt (hs : s.Inv) (h : Moves s' s) :
    s'.timerWork < s.timerWork ∨ (s'.timerWork = s.timerWork ∧ s'.deliveryWork < s.deliveryWork) := by
  obtain ⟨a, ha, hstep⟩ := h
  rcases step_cases hstep with ⟨p, rfl, -⟩ | ⟨t, -, hlive, rfl⟩ | ⟨t, -, hexp, rfl⟩ |
    ⟨g, -, hg, rfl⟩ | ⟨g, k, -, hg, rfl⟩ | ⟨rfl, -⟩ | ⟨w, k, ps, -, hw, -, rfl⟩ | ⟨rfl, -⟩
  · simp [Action.internal] at ha
  · -- A timer runs out.
    left
    have := sum_work_set .expired hlive
    simp only [timerWork, Timer.work] at this ⊢
    omega
  · -- The function of a timer runs; a drain it makes only adds to the delivery.
    left
    have := sum_work_set .over hexp
    simp only [timerWork, fire_timers, Timer.work] at this ⊢
    omega
  · -- The goroutine ends, or takes a queued batch into the callback.
    right
    obtain ⟨rfl, hd, -⟩ := hs.delivery.atTop_of hg
    cases hq : s.queue with
    | nil =>
      rw [Delivery.take_nil hq]
      exact ⟨rfl, by simp [deliveryWork, hd, hq, Deliverer.work]⟩
    | cons k rest =>
      rw [Delivery.take_cons hq]
      refine ⟨rfl, ?_⟩
      simp [deliveryWork, hd, hq, Deliverer.work]
      omega
  · right
    obtain ⟨rfl, -, hd, -⟩ := hs.delivery.calling_of hg
    exact ⟨rfl, by simp [State.finish, deliveryWork, hd, Deliverer.work]⟩
  · simp [Action.internal] at ha
  · right
    have hlt : w < s.waiting.length := (List.getElem?_eq_some_iff.1 hw).1
    refine ⟨rfl, ?_⟩
    simp only [deliveryWork, State.resume, List.length_eraseIdx_of_lt hlt]
    omega
  · simp [Action.internal] at ha

/-- The goroutines can take only finitely many steps that no caller starts. -/
lemma Inv.acc (hs : s.Inv) : Acc Moves s := by
  -- Well-founded induction on the work left, the timers' first.
  have hwf : WellFounded (InvImage (Prod.Lex (· < ·) (· < ·))
      fun s : State => (s.timerWork, s.deliveryWork)) :=
    InvImage.wf _ (Prod.lex Nat.lt_wfRel Nat.lt_wfRel).wf
  induction s using hwf.induction with
  | _ s ih =>
    refine Acc.intro s fun s' hmove => ih s' ?_ ?_
    · exact Prod.lex_def.2 (hs.work_lt hmove)
    · obtain ⟨a, -, hstep⟩ := hmove
      exact hs.step hstep

/-- When no goroutine can move, nothing is pending, no caller of `Flush` waits, and no batch is
left for the callback. -/
lemma Inv.quiet (hs : s.Inv) (hq : Quiet s) : s.core.pending = [] ∧ s.waiting = [] ∧ s.Idle := by
  have hpending : s.core.pending = [] := by
    -- A pending path has a timer held, which can still run out or run its function.
    by_contra hp
    obtain ⟨t, ht⟩ := Option.ne_none_iff_exists'.1 (hs.timers.pending hp)
    rcases hs.timers.held t ht with hlive | hexp
    · have := hq (.expire t) rfl
      simp [State.step, hlive] at this
    · have := hq (.fire t) rfl
      simp [State.step, hexp] at this
  have hidle : s.Idle := by
    rcases hs.delivery.stage with hidle | ⟨hd, -⟩ | ⟨hd, -⟩
    · exact hidle
    · have := hq (.take 0) rfl
      simp [State.step, hd] at this
    · have := hq (.finish 0) rfl
      simp [State.step, hd] at this
  refine ⟨hpending, ?_, hidle⟩
  -- Every batch is back from the callback, so the first waiting caller could return.
  cases hw : s.waiting with
  | nil => rfl
  | cons x rest =>
    obtain ⟨k, ps⟩ := x
    have hk : k ∈ s.closed := by
      obtain ⟨hlt, -⟩ := hs.waiters (k, ps) (by simp [hw])
      rw [hs.delivery.closed, List.mem_range, hidle.2.2.2.1]
      exact hlt
    have := hq (.resume 0) rfl
    simp [State.step, hw, hk] at this

/-! ### Whether there is a callback never changes -/

lemma flushPending_receiving : s.flushPending.core.receiving = s.core.receiving := by
  dsimp only [State.flushPending]
  split_ifs <;> simp

lemma step_receiving {a : Action} (h : s.step a = some s') :
    s'.core.receiving = s.core.receiving := by
  rcases step_cases h with ⟨p, -, rfl⟩ | ⟨t, -, -, rfl⟩ | ⟨t, -, -, rfl⟩ | ⟨g, -, -, rfl⟩ |
    ⟨g, k, -, -, rfl⟩ | ⟨-, rfl⟩ | ⟨w, k, ps, -, -, -, rfl⟩ | ⟨-, rfl⟩
  · unfold State.add
    split_ifs <;> simp
  · rfl
  · dsimp only [State.fire]
    split_ifs <;> simp
  · unfold State.take
    split <;> rfl
  · rfl
  · rcases flush_cases with ⟨ts, hflush⟩ | hflush <;> rw [hflush]
    exact flushPending_receiving
  · rfl
  · rfl

lemma run_receiving : ∀ {s s' : State} {acts : List Action}, s.run acts = some s' →
    s'.core.receiving = s.core.receiving
  | s, s', [], h => by
    cases h
    rfl
  | s, s', a :: acts, h => by
    simp only [State.run] at h
    cases ha : s.step a with
    | none => simp [ha] at h
    | some s₁ =>
      rw [ha, Option.bind_some] at h
      rw [run_receiving h, step_receiving ha]

/-! ### The callback's events -/

/-- Reading a batch off the log that only the callback's events carry reads the same off them. -/
lemma filterMap_trace {f : Event → Option (List String)}
    (hf : ∀ e, e.isCallback = false → f e = none) : s.trace.filterMap f = s.log.filterMap f := by
  rw [State.trace, List.filterMap_filter]
  congr 1
  funext e
  cases he : e.isCallback
  · simp [hf e he]
  · simp

/-- The batches returned from the callback, read off its events. -/
lemma returns_eq_trace : s.returns = s.trace.filterMap Event.returnedBatch :=
  (filterMap_trace fun e he => by cases e <;> simp_all [Event.isCallback, Event.returnedBatch]).symm

/-- The batches handed to the callback, read off its events. -/
lemma calls_eq_trace : s.calls = s.trace.filterMap Event.calledBatch :=
  (filterMap_trace fun e he => by cases e <;> simp_all [Event.isCallback, Event.calledBatch]).symm

lemma served_cons (b : List String) (bs : List (List String)) :
    served (b :: bs) = .called b :: .returned b :: served bs := rfl

@[simp] lemma returnedBatch_served (bs : List (List String)) :
    (served bs).filterMap Event.returnedBatch = bs := by
  induction bs with
  | nil => rfl
  | cons b bs ih => simp only [served_cons, List.filterMap_cons, Event.returnedBatch, ih]

@[simp] lemma calledBatch_served (bs : List (List String)) :
    (served bs).filterMap Event.calledBatch = bs := by
  induction bs with
  | nil => rfl
  | cons b bs ih => simp only [served_cons, List.filterMap_cons, Event.calledBatch, ih]

/-- The callback's events are the batches drained, each handed to it and returned in turn, up to
some batch, and then maybe that batch handed to it. -/
lemma Inv.trace_served (hs : s.Inv) :
    ∃ n, s.trace = served (s.core.batches.take n) ∨
      ∃ b, s.core.batches[n]? = some b ∧ s.trace = served (s.core.batches.take n) ++ [.called b] := by
  rcases hs.delivery.stage with ⟨-, -, -, -, ht⟩ | ⟨-, -, -, ht⟩ | ⟨-, -, hcn, -, ht⟩
  · exact ⟨_, .inl ht⟩
  · exact ⟨_, .inl ht⟩
  · exact ⟨_, .inr ⟨_, getElem?_batches hcn, ht⟩⟩

/-- The batches handed to the callback are the first ones drained. -/
lemma Inv.calls_prefix (hs : s.Inv) : s.calls <+: s.core.batches := by
  obtain ⟨n, ht | ⟨b, hb, ht⟩⟩ := hs.trace_served
  · rw [calls_eq_trace, ht, calledBatch_served]
    exact List.take_prefix n _
  · rw [calls_eq_trace, ht, List.filterMap_append, calledBatch_served]
    show s.core.batches.take n ++ [b] <+: s.core.batches
    rw [← Option.toList_some, ← hb, ← List.take_add_one]
    exact List.take_prefix _ _

end State

/-! ### The contract -/

open State in
/-- What every interleaving of the goroutines guarantees a debouncer with a callback: every batch
handed to the callback is strictly increasing; along the log, each path's take-aways (a drain or a
stop holding it) each follow an add with no take-away between, and an add waits exactly while the
path is pending; the callback gets the batches drained one at a time and in order; the goroutines
can take only finitely many steps that no caller starts, and once none is left nothing is pending,
every batch drained has come back and no caller of `Flush` waits; and a `Flush` that waited
returns after every path it found pending came back from the callback. -/
theorem debounce_contract (window : Nat) (acts : List Action) (s : State)
    (h : (State.init window true).run acts = some s) :
    (∀ b ∈ s.calls, b.Pairwise (· < ·)) ∧
    (∀ p, (false :: s.log.filterMap (Event.touches p)).IsChain (fun a b => (a || b) = true) ∧
      (false :: s.log.filterMap (Event.touches p)).getLast (List.cons_ne_nil _ _) =
        decide (p ∈ s.core.pending)) ∧
    (∃ n, s.trace = served (s.drains.take n) ∨
      ∃ b, s.drains[n]? = some b ∧ s.trace = served (s.drains.take n) ++ [.called b]) ∧
    Acc Moves s ∧ (Quiet s → s.core.pending = [] ∧ s.returns = s.drains ∧ s.waiting = []) ∧
    (∀ L ps M, s.log = L ++ .flushed ps :: M → ∀ p ∈ ps, ∃ b, p ∈ b ∧ .returned b ∈ L) := by
  have hs : s.Inv := ((Reachable.init window true).run h).inv
  have hr : s.core.receiving = true := run_receiving h
  have hd : s.drains = s.core.batches := hs.paths.drainsEq hr
  refine ⟨fun b hb => hs.paths.strict b (hs.calls_prefix.subset hb),
    fun p => foldlM_cover_eq_some.1 (hs.paths.covers p), hd ▸ hs.trace_served, hs.acc,
    fun hq => ?_, fun L ps M hlog => hs.flushes hr L _ M hlog ps rfl⟩
  obtain ⟨hp, hw, -, -, -, hc, ht⟩ := hs.quiet hq
  -- At rest, every batch drained is back from the callback.
  refine ⟨hp, ?_, hw⟩
  rw [returns_eq_trace, ht, hc, List.take_length, returnedBatch_served, hd]

/-- A `Flush` that finds the held timer run out returns at once: here the path it found pending
is drained, handed to the callback and returned from it only after that return. -/
theorem flush_returns_before_batch :
    ∃ s, (State.init 100 true).run [.add "a", .expire 0, .flush, .fire 0, .take 0, .finish 0] =
        some s ∧
      s.log = [.added "a", .deferred ["a"], .drained ["a"], .called ["a"], .returned ["a"]] ∧
      ∃ L M, s.log = L ++ .deferred ["a"] :: M ∧ ¬ ∃ b, "a" ∈ b ∧ .returned b ∈ L := by
  refine ⟨_, rfl, ?_, [.added "a"], [.drained ["a"], .called ["a"], .returned ["a"]], ?_, by simp⟩ <;>
    simp [State.add, State.flush, State.init, State.stopCurrent, Debouncer.add, State.fire,
      State.drain, Debouncer.nextBatch, State.enqueue, State.take, State.finish, State.batch,
      Debouncer.drain_eq]

/-- Two paths added out of order and flushed: the callback gets them sorted, and the caller of
`Flush` returns after it. -/
theorem flush_after_sorted_batch :
    ∃ s, (State.init 100 true).run [.add "b", .add "a", .flush, .take 0, .finish 0, .resume 0] =
        some s ∧
      s.log = [.added "b", .added "a", .drained ["a", "b"], .called ["a", "b"],
        .returned ["a", "b"], .flushed ["b", "a"]] ∧
      ∀ b ∈ s.calls, b.Pairwise (· < ·) := by
  refine ⟨_, rfl, ?_, (debounce_contract 100 [.add "b", .add "a", .flush, .take 0, .finish 0, .resume 0] _ rfl).1⟩
  simp [State.add, State.flush, State.init, State.stopCurrent,
    State.stopTimer, Debouncer.add, State.flushPending, State.drain, Debouncer.nextBatch,
    State.enqueue, State.take, State.finish, State.resume, State.batch, Debouncer.drain_eq,
    List.mergeSort]

end Debouncing

end Stencil

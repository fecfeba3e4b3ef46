import Stencil.Watch.Debounce
import Mathlib.Data.String.Basic
import Mathlib.Data.List.Infix
/-!
# The debouncer among goroutines

The debouncer is shared by several goroutines: the callers of `Add`, `Flush` and `Stop`, the
function of every timer it starts, and the goroutine that hands queued batches to the callback.
A step here is what one goroutine does while it holds the debouncer's lock, or a timer running
out. The paths, the stop flag and the batches drained for the callback are those of the
sequential debouncer, changed by its own `Debouncer.add`, `Debouncer.drain` and
`Debouncer.stop`. Around them sit the timers started so far, the current one, the queue of
batch indices waiting for the callback, the delivering goroutines, the done signals of the
batches whose callback has returned, and the callers of `Flush` waiting for their batch.

A timer counts down (`live`); then it runs out and its function is started but does not hold
the lock yet (`expired`); then it is over, stopped or run. Stopping a timer succeeds only while
it is live: a caller that stops an expired timer cannot keep its function from running.

What can be seen of a run is kept in a log of events: the paths added, the batches drained, the
paths a stop discards, the batches handed to the callback and returned from it, and every return
of `Flush` with the paths pending when it was called, told apart when it returned at once on
finding the held timer run out.
-/

namespace Stencil

/-- The paths pending in sorted order: the batch a drain hands on. -/
def Debouncer.nextBatch (d : Debouncer) : List String :=
  d.pending.mergeSort fun a b => decide (a ≤ b)

lemma Debouncer.drain_eq (d : Debouncer) : d.drain =
    { d with pending := [],
             batches := if d.nextBatch.isEmpty || !d.receiving then d.batches
               else d.batches ++ [d.nextBatch] } := rfl

namespace Debouncing

/-- The life of a timer. -/
inductive Timer where
  | live
  | expired
  | over
deriving DecidableEq, Repr

/-- Where a delivering goroutine is: at the top of its loop, or inside the callback with the
batch of an index. -/
inductive Deliverer where
  | top
  | calling (k : Nat)
deriving DecidableEq, Repr

/-- What can be seen of the debouncer. -/
inductive Event where
  | added (path : String)
  | drained (batch : List String)
  | discarded (paths : List String)
  | called (batch : List String)
  | returned (batch : List String)
  | flushed (paths : List String)
  | deferred (paths : List String)
deriving DecidableEq, Repr

/-- The steps of the goroutines: a caller runs `Add`; timer `t` runs out; the function of timer
`t` takes the lock; delivering goroutine `g` takes the lock at the top of its loop; the callback
of goroutine `g` returns; a caller runs `Flush` up to its wait; the `w`-th waiting caller of
`Flush` sees its batch done; a caller runs `Stop`. -/
inductive Action where
  | add (path : String)
  | expire (t : Nat)
  | fire (t : Nat)
  | take (g : Nat)
  | finish (g : Nat)
  | flush
  | resume (w : Nat)
  | stop
deriving DecidableEq, Repr

/-- The debouncer as its goroutines share it. -/
structure State where
  /-- The pending paths, the stop flag, whether there is a callback, and the batches drained
  for it. -/
  core : Debouncer
  /-- Every timer started, by the order of its start. -/
  timers : List Timer := []
  /-- The timer the debouncer holds. -/
  current : Option Nat := none
  /-- The batches waiting for the callback, by index. -/
  queue : List Nat := []
  /-- Whether a delivering goroutine runs. -/
  delivering : Bool := false
  /-- The delivering goroutines. -/
  deliverers : List Deliverer := []
  /-- The batches whose done signal is closed. -/
  closed : List Nat := []
  /-- The callers of `Flush` waiting: the batch each waits for, and the paths pending when it
  called. -/
  waiting : List (Nat × List String) := []
  /-- What was seen so far. -/
  log : List Event := []

namespace State

/-- The start of a debouncer with a window, with or without a callback. -/
def init (window : Nat) (receiving : Bool) : State := { core := { window, receiving } }

/-- The batch of an index. -/
def batch (s : State) (k : Nat) : List String := s.core.batches.getD k []

/-- Stops a timer: a live one is over, any other stays as it is. -/
def stopTimer (s : State) (t : Nat) : State :=
  if s.timers[t]? = some .live then { s with timers := s.timers.set t .over } else s

/-- Stops the timer the debouncer holds, if any. -/
def stopCurrent (s : State) : State :=
  match s.current with
  | some t => s.stopTimer t
  | none => s

/-- Queues a batch for the callback, starting a delivering goroutine unless one runs. -/
def enqueue (s : State) (k : Nat) : State :=
  if s.delivering then { s with queue := s.queue ++ [k] }
  else { s with queue := s.queue ++ [k], delivering := true, deliverers := s.deliverers ++ [.top] }

/-- Drains the pending paths into a batch, queued when there is a callback. -/
def drain (s : State) : State :=
  let s' := { s with core := s.core.drain, log := s.log ++ [.drained s.core.nextBatch] }
  if s.core.receiving then s'.enqueue s.core.batches.length else s'

/-- `Add`: unless stopped, the path is pending and a new timer replaces the one held. -/
def add (s : State) (p : String) : State :=
  if s.core.stopped then s
  else
    let s' := s.stopCurrent
    { s' with core := s.core.add p, timers := s'.timers ++ [.live],
              current := some s'.timers.length, log := s.log ++ [.added p] }

/-- The function of a timer: the debouncer holds no timer any more, and what is pending is
drained. -/
def fire (s : State) (t : Nat) : State :=
  let s' := { s with timers := s.timers.set t .over, current := none }
  if s.core.pending.isEmpty then s' else s'.drain

/-- A delivering goroutine at the top of its loop: it ends when the queue is empty, else it takes
the first batch into the callback. -/
def take (s : State) (g : Nat) : State :=
  match s.queue with
  | [] => { s with delivering := false, deliverers := s.deliverers.eraseIdx g }
  | k :: rest => { s with queue := rest, deliverers := s.deliverers.set g (.calling k),
                          log := s.log ++ [.called (s.batch k)] }

/-- The callback returns from a batch: its done signal is closed. -/
def finish (s : State) (g k : Nat) : State :=
  { s with deliverers := s.deliverers.set g .top, closed := s.closed ++ [k],
           log := s.log ++ [.returned (s.batch k)] }

/-- `Flush` once the timer is dealt with: what is pending is drained, and the caller waits for
its batch when there is one for the callback. -/
def flushPending (s : State) : State :=
  let ps := s.core.pending
  if ps.isEmpty then { s with log := s.log ++ [.flushed ps] }
  else if s.core.receiving then
    { s.drain with waiting := s.waiting ++ [(s.core.batches.length, ps)] }
  else { s.drain with log := s.drain.log ++ [.flushed ps] }

/-- `Flush`: a live timer is stopped first; a timer that ran out makes it return at once, its
function still to come. -/
def flush (s : State) : State :=
  match s.current with
  | some t =>
    if s.timers[t]? = some .live then { s.stopTimer t with current := none }.flushPending
    else { s with log := s.log ++ [.deferred s.core.pending] }
  | none => s.flushPending

/-- A waiting caller of `Flush` returns. -/
def resume (s : State) (w : Nat) (ps : List String) : State :=
  { s with waiting := s.waiting.eraseIdx w, log := s.log ++ [.flushed ps] }

/-- `Stop`: the timer held is stopped and what is pending discarded. -/
def stop (s : State) : State :=
  { s.stopCurrent with core := s.core.stop, current := none,
                       log := s.log ++ [.discarded s.core.pending] }

/-- One step of a goroutine, when it can be taken. -/
def step (s : State) : Action → Option State
  | .add p => some (s.add p)
  | .expire t =>
    if s.timers[t]? = some .live then some { s with timers := s.timers.set t .expired } else none
  | .fire t => if s.timers[t]? = some .expired then some (s.fire t) else none
  | .take g => if s.deliverers[g]? = some .top then some (s.take g) else none
  | .finish g =>
    match s.deliverers[g]? with
    | some (.calling k) => some (s.finish g k)
    | _ => none
  | .flush => some s.flush
  | .resume w =>
    match s.waiting[w]? with
    | some (k, ps) => if k ∈ s.closed then some (s.resume w ps) else none
    | none => none
  | .stop => some s.stop

/-- Steps taken one after the other, when each can be. -/
def run (s : State) : List Action → Option State
  | [] => some s
  | a :: as => (s.step a).bind fun s' => s'.run as

/-- The states a debouncer can reach from its start. -/
inductive Reachable : State → Prop where
  | init (window : Nat) (receiving : Bool) : Reachable (init window receiving)
  | step {s s' : State} {a : Action} : Reachable s → s.step a = some s' → Reachable s'

lemma Reachable.run {s s' : State} (hs : s.Reachable) :
    ∀ {as : List Action}, s.run as = some s' → s'.Reachable := by
  intro as
  induction as generalizing s with
  | nil =>
    intro h
    cases h
    exact hs
  | cons a as ih =>
    intro h
    simp only [State.run] at h
    cases ha : s.step a with
    | none => simp [ha] at h
    | some s₁ =>
      rw [ha, Option.bind_some] at h
      exact ih (hs.step ha) h

/-! ### What the log shows -/

end State

/-- The batch of a drain. -/
def Event.drainedBatch : Event → Option (List String)
  | .drained b => some b
  | _ => none

/-- The batch handed to the callback. -/
def Event.calledBatch : Event → Option (List String)
  | .called b => some b
  | _ => none

/-- The batch the callback returned from. -/
def Event.returnedBatch : Event → Option (List String)
  | .returned b => some b
  | _ => none

namespace State

/-- The batches drained, in order. -/
def drains (s : State) : List (List String) := s.log.filterMap Event.drainedBatch

/-- The batches handed to the callback, in order. -/
def calls (s : State) : List (List String) := s.log.filterMap Event.calledBatch

/-- The batches the callback returned from, in order. -/
def returns (s : State) : List (List String) := s.log.filterMap Event.returnedBatch

end State

/-- Whether an event is the callback's: a batch handed to it, or returned from it. -/
def Event.isCallback : Event → Bool
  | .called _ | .returned _ => true
  | .added _ | .drained _ | .discarded _ | .flushed _ | .deferred _ => false

/-- The callback's events, in order. -/
def State.trace (s : State) : List Event := s.log.filter Event.isCallback

/-- Each batch handed to the callback and then returned from it, one after the other. -/
def served (bs : List (List String)) : List Event := bs.flatMap fun b => [.called b, .returned b]

/-- How an event bears on a path: an add of it (`true`), or a drain or a stop that takes it away
(`false`). -/
def Event.touches (p : String) : Event → Option Bool
  | .added q => if q = p then some true else none
  | .drained b => if p ∈ b then some false else none
  | .discarded ps => if p ∈ ps then some false else none
  | _ => none

/-- Whether an add of a path waits for a drain or a stop, after one more event bearing on it;
`none` when the path is taken away with no add waiting. -/
def cover (waits : Bool) (add : Bool) : Option Bool :=
  if add then some true else if waits then some false else none

/-- Follows the adds of a path and the drains and stops that take it away, from a start with no
add waiting. -/
def coverage (marks : List Bool) : Option Bool :=
  marks.foldlM cover false

/-- The steps that no caller starts: timers running out, their functions, the delivering
goroutines and the callers of `Flush` waking up. -/
def Action.internal : Action → Bool
  | .add _ | .flush | .stop => false
  | _ => true

/-- A step that no caller starts leads from a state to another. -/
def Moves (s' s : State) : Prop := ∃ a, a.internal = true ∧ s.step a = some s'

/-- No goroutine can move unless a caller starts something. -/
def Quiet (s : State) : Prop := ∀ a, a.internal = true → s.step a = none

end Debouncing

end Stencil

/-!
# Debouncing changes

Changed paths arrive in bursts. A debouncer collects them and hands them on as one batch once no
new path arrived for a window of time: each arrival restarts the wait. A batch holds each path
once, in sorted order. Flushing hands on what is collected at once; stopping drops it, and a
stopped debouncer ignores every later arrival. Without a receiver, batches are dropped.

Time is counted in milliseconds and passes only when it is waited for.
-/

namespace Stencil

/-- A debouncer: its window, the paths collected, when the wait ends, the time now, whether it is
stopped, whether it has a receiver, and the batches handed on so far. -/
structure Debouncer where
  window : Nat
  pending : List String := []
  deadline : Option Nat := none
  now : Nat := 0
  stopped : Bool := false
  receiving : Bool := true
  batches : List (List String) := []

namespace Debouncer

/-- Hands on the collected paths as a batch, sorted, when there are any and a receiver. -/
def drain (d : Debouncer) : Debouncer :=
  let batch := d.pending.mergeSort fun a b => decide (a ≤ b)
  { d with pending := [],
           batches := if batch.isEmpty || !d.receiving then d.batches else d.batches ++ [batch] }

/-- Collects a path and restarts the wait, unless stopped. -/
def add (d : Debouncer) (path : String) : Debouncer :=
  if d.stopped then d
  else { d with pending := if d.pending.contains path then d.pending else d.pending ++ [path],
                deadline := some (d.now + d.window) }

/-- Lets time pass; the wait ends if its time comes. -/
def wait (d : Debouncer) (ms : Nat) : Debouncer :=
  let d := { d with now := d.now + ms }
  match d.deadline with
  | some t => if t ≤ d.now then { d.drain with deadline := none } else d
  | none => d

/-- Hands on what is collected at once. -/
def flush (d : Debouncer) : Debouncer :=
  { d.drain with deadline := none }

/-- Stops: the wait is cancelled and what is collected is dropped. -/
def stop (d : Debouncer) : Debouncer :=
  { d with stopped := true, deadline := none, pending := [] }

end Debouncer

end Stencil

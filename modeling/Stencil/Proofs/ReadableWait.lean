import Stencil.Engine.Reload
import Mathlib.Data.Nat.Find
/-!
# The wait for a readable template

Before a changed template is read again, the reload probes its path until it opens, at most as many
times as the settings allow and never fewer than once. The wait is bounded exactly: it ends at the
first probe that succeeds, pauses one interval between two probes and never after the last, and
times out only when every probe allowed has failed. A wait that ends at its `k + 1`-th probe thus
takes the steps `probesUpTo k`: `k` probes each followed by a pause, then the last probe.

`go_of_first_ready` and `go_of_none_ready` give these steps for the loop from any probe on, by
induction on the probes before the last. From the first probe, some probe allowed is the first to
succeed or none is (`first_ready_or_none`), which gives the outcome (`waitSteps_timeout_iff`) and
the bound on the probes (`count_probe_waitSteps_le`); `wait_bounded_exactly` puts them together
for the number of probes the settings allow.
-/

namespace Stencil.Engine

/-- The steps of a wait that ends at its `k + 1`-th probe: `k` probes, each followed by a pause,
then the last probe. -/
def probesUpTo (k : Nat) : List WaitStep :=
  (List.replicate k [WaitStep.probe, .pause]).flatten ++ [.probe]

@[simp] lemma probesUpTo_zero : probesUpTo 0 = [.probe] := rfl

/-- One more failed probe puts a probe and a pause in front. -/
lemma probesUpTo_succ (k : Nat) : probesUpTo (k + 1) = .probe :: .pause :: probesUpTo k := by
  simp [probesUpTo, List.replicate_succ]

/-- A wait that ends at its `k + 1`-th probe probes `k + 1` times. -/
@[simp] lemma count_probe_probesUpTo (k : Nat) : (probesUpTo k).count .probe = k + 1 := by
  induction k with
  | zero => rfl
  | succ k ih => simp [probesUpTo_succ, ih]

/-- A wait that ends at its `k + 1`-th probe pauses `k` times. -/
@[simp] lemma count_pause_probesUpTo (k : Nat) : (probesUpTo k).count .pause = k := by
  induction k with
  | zero => rfl
  | succ k ih => simp [probesUpTo_succ, ih]

/-- The last step of a wait is a probe: it never pauses after the last. -/
lemma getLast?_probesUpTo (k : Nat) : (probesUpTo k).getLast? = some .probe := by
  simp [probesUpTo]

/-! ### The loop, from any probe on -/

section Loop

variable (ready : Nat → Bool)

/-- From probe `i` on, with `k` probes left: when probe `i + j` is the first that succeeds and
comes before the last allowed, the wait ends there, having paused after each failed probe. -/
lemma go_of_first_ready (j : Nat) :
    ∀ i k, j < k → ready (i + j) = true → (∀ j' < j, ready (i + j') = false) →
      waitSteps.go ready i k = (probesUpTo j, true) := by
  -- The induction is on the failed probes before the one that succeeds.
  induction j with
  | zero =>
    intro i k hk hready _
    obtain ⟨k, rfl⟩ : ∃ k', k = k' + 1 := ⟨k - 1, by omega⟩
    rw [waitSteps.go, if_pos (by simpa using hready)]
    rfl
  | succ j ih =>
    intro i k hk hready hbefore
    obtain ⟨k, rfl⟩ : ∃ k', k = k' + 1 := ⟨k - 1, by omega⟩
    have hfail : ready i = false := hbefore 0 (by omega)
    have hrest : waitSteps.go ready (i + 1) k = (probesUpTo j, true) :=
      ih (i + 1) k (by omega) (by rw [← hready]; congr 1; omega)
        fun j' hj' => by rw [← hbefore (j' + 1) (by omega)]; congr 1; omega
    rw [waitSteps.go, if_neg (by simp [hfail]), if_neg (by omega), hrest, probesUpTo_succ]

/-- From probe `i` on, with `k + 1` probes left: when all of them fail, the wait makes them all,
pausing between two and not after the last, and reports the failure. -/
lemma go_of_none_ready (k : Nat) :
    ∀ i, (∀ j < k + 1, ready (i + j) = false) → waitSteps.go ready i (k + 1) = (probesUpTo k, false) := by
  -- The induction is on the probes left after the first.
  induction k with
  | zero =>
    intro i hfail
    have hi : ready i = false := hfail 0 (by omega)
    rw [waitSteps.go, if_neg (by simp [hi])]
    rfl
  | succ k ih =>
    intro i hfail
    have hi : ready i = false := hfail 0 (by omega)
    have hrest : waitSteps.go ready (i + 1) (k + 1) = (probesUpTo k, false) :=
      ih (i + 1) fun j hj => by rw [← hfail (j + 1) (by omega)]; congr 1; omega
    rw [waitSteps.go, if_neg (by simp [hi]), if_neg (by omega), hrest, probesUpTo_succ]

end Loop

/-! ### The wait from the first probe -/

section Wait

variable {n : Nat} {ready : Nat → Bool}

/-- A wait ends at the first probe that succeeds among those allowed. -/
lemma waitSteps_of_first_ready {k : Nat} (hk : k < n) (hready : ready k = true)
    (hbefore : ∀ j < k, ready j = false) : waitSteps n ready = (probesUpTo k, true) :=
  go_of_first_ready ready k 0 n hk (by simpa using hready) (by simpa using hbefore)

/-- A wait whose probes all fail makes every one of them and reports the failure. -/
lemma waitSteps_of_none_ready (hn : 0 < n) (hfail : ∀ k < n, ready k = false) :
    waitSteps n ready = (probesUpTo (n - 1), false) := by
  obtain ⟨m, rfl⟩ : ∃ m, n = m + 1 := ⟨n - 1, by omega⟩
  rw [Nat.add_sub_cancel]
  exact go_of_none_ready ready m 0 (by simpa using hfail)

variable (n ready) in
/-- Either some probe allowed succeeds, and one of them is the first, or none does. -/
lemma first_ready_or_none :
    (∃ k < n, ready k = true ∧ ∀ j < k, ready j = false) ∨ ∀ k < n, ready k = false := by
  by_cases h : ∃ k < n, ready k = true
  · left
    classical
    have hlt := (Nat.find_spec h).1
    refine ⟨Nat.find h, hlt, (Nat.find_spec h).2, fun j hj => ?_⟩
    have hnot := Nat.find_min h hj
    simp only [not_and, Bool.not_eq_true] at hnot
    exact hnot (by omega)
  · right
    intro k hk
    simpa using fun hr => h ⟨k, hk, hr⟩

/-- A wait times out exactly when every probe allowed fails. -/
lemma waitSteps_timeout_iff (hn : 0 < n) :
    (waitSteps n ready).2 = false ↔ ∀ k < n, ready k = false := by
  refine ⟨fun hout => ?_, fun hfail => by rw [waitSteps_of_none_ready hn hfail]⟩
  rcases first_ready_or_none n ready with ⟨k, hk, hready, hbefore⟩ | hfail
  · rw [waitSteps_of_first_ready hk hready hbefore] at hout
    cases hout
  · exact hfail

/-- A wait never ends with a pause: its last step is a probe. -/
lemma getLast?_waitSteps (hn : 0 < n) : (waitSteps n ready).1.getLast? = some .probe := by
  rcases first_ready_or_none n ready with ⟨k, hk, hready, hbefore⟩ | hfail
  · rw [waitSteps_of_first_ready hk hready hbefore, getLast?_probesUpTo]
  · rw [waitSteps_of_none_ready hn hfail, getLast?_probesUpTo]

/-- A wait probes at most as often as allowed. -/
lemma count_probe_waitSteps_le (hn : 0 < n) : (waitSteps n ready).1.count .probe ≤ n := by
  rcases first_ready_or_none n ready with ⟨k, hk, hready, hbefore⟩ | hfail
  · rw [waitSteps_of_first_ready hk hready hbefore, count_probe_probesUpTo]
    omega
  · rw [waitSteps_of_none_ready hn hfail, count_probe_probesUpTo]
    omega

end Wait

/-! ### The wait the settings allow -/

/-- The settings allow their number of attempts, and one when they set fewer. -/
lemma waitAttempts_eq (w : WatchSettings) :
    waitAttempts w = if w.attempts < 1 then 1 else w.attempts.toNat := by
  unfold waitAttempts
  split <;> omega

/-- The settings allow at least one probe. -/
lemma waitAttempts_pos (w : WatchSettings) : 0 < waitAttempts w := by
  unfold waitAttempts
  omega

/-- The wait for a readable template is bounded exactly. With `n` the attempts the settings allow
(at least one), for every answer of the probes: the wait ends at the first probe that succeeds,
having paused once after each probe before it; when all `n` probes fail it makes every one of them,
pausing `n - 1` times in between and never after the last, and only then times out. It never
probes more than `n` times, and its last step is always a probe. -/
theorem wait_bounded_exactly (w : WatchSettings) (ready : Nat → Bool) :
    waitAttempts w = (if w.attempts < 1 then 1 else w.attempts.toNat) ∧
    (∀ k < waitAttempts w, ready k = true → (∀ j < k, ready j = false) →
      waitSteps (waitAttempts w) ready = (probesUpTo k, true)) ∧
    ((∀ k < waitAttempts w, ready k = false) →
      waitSteps (waitAttempts w) ready = (probesUpTo (waitAttempts w - 1), false)) ∧
    ((waitSteps (waitAttempts w) ready).2 = false ↔ ∀ k < waitAttempts w, ready k = false) ∧
    (waitSteps (waitAttempts w) ready).1.count .probe ≤ waitAttempts w ∧
    (waitSteps (waitAttempts w) ready).1.getLast? = some .probe :=
  ⟨waitAttempts_eq w, fun _ hk hready hbefore => waitSteps_of_first_ready hk hready hbefore,
    waitSteps_of_none_ready (waitAttempts_pos w), waitSteps_timeout_iff (waitAttempts_pos w),
    count_probe_waitSteps_le (waitAttempts_pos w), getLast?_waitSteps (waitAttempts_pos w)⟩

end Stencil.Engine

import Stencil.Antiforgery
import Mathlib.Algebra.Order.Group.Multiset
import Mathlib.Tactic.Abel
/-!
# Single use of anti-forgery tokens

An issuer keeps the tokens it handed out and not yet taken back. Over every run of creates and
consumes, whatever its supply of words draws (identifiers, failures, repeats), the tokens out are
exactly those handed out less those taken back, counted as multisets, and none is out twice
(`run_tracks_tokens`). A token handed out again after it was taken back counts again.

The run is carried by one balance lemma per call (`call_balance`), which rests on what a single
create does (`create.go` by induction on the attempts left):

* a create that succeeds hands out a token that is not out and adds it (`go_ok`);
* a create that fails leaves the tokens out as they were (`go_issued_of_error`): a read of
  randomness failed, or each of `maxAttempts` attempts drew a token still out
  (`go_exhausted_iff`), which uses up exactly two words an attempt (`go_exhausted_drawn`).
-/

namespace Stencil

namespace TokenIssuer

variable {s : TokenIssuer} {t : String} {f : Fault}

/-! ### One attempt -/

/-- What a draw of a token does: a failed first or second word, or a token, each using up the
words drawn. -/
lemma mint_cases (s : TokenIssuer) :
    (∃ e, s.mint = (.error (randomnessFailed e), { s with drawn := s.drawn + 1 })) ∨
    (∃ e, s.mint = (.error (randomnessFailed e), { s with drawn := s.drawn + 2 })) ∨
    (∃ t, s.mint = (.ok t, { s with drawn := s.drawn + 2 })) := by
  unfold mint
  split
  · exact .inl ⟨_, rfl⟩
  · split
    · exact .inr (.inl ⟨_, rfl⟩)
    · exact .inr (.inr ⟨_, rfl⟩)

lemma mint_eq_ok (h : s.mint.1 = .ok t) : s.mint = (.ok t, { s with drawn := s.drawn + 2 }) := by
  rcases mint_cases s with ⟨_, h'⟩ | ⟨_, h'⟩ | ⟨_, h'⟩ <;> rw [h'] at h ⊢ <;> cases h
  rfl

/-- A randomness failure is no exhaustion. -/
lemma randomnessFailed_ne_exhausted (e : Fault) : randomnessFailed e ≠ exhausted := by
  simp [randomnessFailed, exhausted, Fault.wrap, Fault.withDetail]

/-- The token the attempt after `k` others draws. -/
def attempt (s : TokenIssuer) (k : Nat) : Except Fault String :=
  ({ s with drawn := s.drawn + 2 * k }.mint).1

lemma attempt_zero : s.attempt 0 = s.mint.1 := rfl

lemma attempt_succ {k : Nat} (h : s.mint.1 = .ok t) : s.attempt (k + 1) = s.mint.2.attempt k := by
  rw [mint_eq_ok h]
  simp only [attempt]
  congr 3
  omega

/-! ### One create -/

/-- What a create needs of a draw: it failed, using up words and nothing else, or it gave a
token after two words. -/
lemma mint_error_or_ok (s : TokenIssuer) :
    (∃ e s', s.mint = (.error (randomnessFailed e), s') ∧ s'.issued = s.issued) ∨
    ∃ u, s.mint = (.ok u, { s with drawn := s.drawn + 2 }) := by
  rcases mint_cases s with ⟨e, h⟩ | ⟨e, h⟩ | ⟨u, h⟩
  · exact .inl ⟨e, _, h, rfl⟩
  · exact .inl ⟨e, _, h, rfl⟩
  · exact .inr ⟨u, h⟩

lemma go_succ_error {n : Nat} {e : Fault} {s' : TokenIssuer} (hm : s.mint = (.error e, s')) :
    create.go (n + 1) s = (.error e, s') := by
  rw [create.go, hm]

lemma go_succ_ok {n : Nat} {u : String} {s' : TokenIssuer} (hm : s.mint = (.ok u, s')) :
    create.go (n + 1) s =
      if u ∈ s'.issued then create.go n s' else (.ok u, { s' with issued := s'.issued ++ [u] }) := by
  rw [create.go, hm]
  simp only [List.contains_iff_mem]

/-- A create that succeeds hands out a token that was not out, and adds it. -/
lemma go_ok : ∀ {n : Nat} {s : TokenIssuer}, (create.go n s).1 = .ok t →
    t ∉ s.issued ∧ (create.go n s).2.issued = s.issued ++ [t]
  | 0, _, h => by cases h
  | n + 1, s, h => by
    rcases mint_error_or_ok s with ⟨e, s', hm, -⟩ | ⟨u, hm⟩
    · rw [go_succ_error hm] at h
      cases h
    · rw [go_succ_ok hm] at h ⊢
      by_cases hu : u ∈ s.issued
      · -- The token drawn is out: the next attempt decides, on the same tokens out.
        rw [if_pos hu] at h ⊢
        exact go_ok h
      · rw [if_neg hu] at h ⊢
        cases h
        exact ⟨hu, rfl⟩

/-- A create that fails leaves the tokens out as they were. -/
lemma go_issued_of_error : ∀ {n : Nat} {s : TokenIssuer}, (create.go n s).1 = .error f →
    (create.go n s).2.issued = s.issued
  | 0, _, _ => rfl
  | n + 1, s, h => by
    rcases mint_error_or_ok s with ⟨e, s', hm, hs'⟩ | ⟨u, hm⟩
    · rw [go_succ_error hm]
      exact hs'
    · rw [go_succ_ok hm] at h ⊢
      by_cases hu : u ∈ s.issued
      · rw [if_pos hu] at h ⊢
        exact go_issued_of_error h
      · rw [if_neg hu] at h
        cases h

/-- A create gives up exhausted exactly when each of its attempts draws a token still out. -/
lemma go_exhausted_iff : ∀ {n : Nat} {s : TokenIssuer},
    (create.go n s).1 = .error exhausted ↔ ∀ k < n, ∃ u, s.attempt k = .ok u ∧ u ∈ s.issued
  | 0, _ => by simp [create.go]
  | n + 1, s => by
    rw [Nat.forall_lt_succ_left, attempt_zero]
    rcases mint_error_or_ok s with ⟨e, s', hm, -⟩ | ⟨u, hm⟩
    · rw [go_succ_error hm, hm]
      simp [randomnessFailed_ne_exhausted]
    · have hnext : ∀ k, s.attempt (k + 1) = s.mint.2.attempt k := fun k =>
        attempt_succ (by rw [hm])
      rw [go_succ_ok hm, hm]
      rw [hm] at hnext
      by_cases hu : u ∈ s.issued
      · -- The first attempt collides; the others are the attempts of the next create.
        simp only [if_pos hu, hnext, go_exhausted_iff]
        simp [hu]
      · simp [hu]

/-- An exhausted create used up two words for each of its attempts. -/
lemma go_exhausted_drawn : ∀ {n : Nat} {s : TokenIssuer},
    (create.go n s).1 = .error exhausted → (create.go n s).2.drawn = s.drawn + 2 * n
  | 0, _, _ => rfl
  | n + 1, s, h => by
    rcases mint_error_or_ok s with ⟨e, s', hm, -⟩ | ⟨u, hm⟩
    · rw [go_succ_error hm] at h
      exact absurd (Except.error.inj h) (randomnessFailed_ne_exhausted e)
    · rw [go_succ_ok hm] at h ⊢
      by_cases hu : u ∈ s.issued
      · rw [if_pos hu] at h ⊢
        rw [go_exhausted_drawn h]
        simp only
        omega
      · rw [if_neg hu] at h
        cases h

/-! ### Creates and consumes -/

/-- A create that succeeds hands out a token that was not out, and adds it. -/
lemma create_ok (h : s.create.1 = .ok t) : t ∉ s.issued ∧ s.create.2.issued = s.issued ++ [t] :=
  go_ok h

/-- A create that fails leaves the tokens out as they were. -/
lemma create_issued_of_error (h : s.create.1 = .error f) : s.create.2.issued = s.issued :=
  go_issued_of_error h

lemma consume_of_mem (h : t ∈ s.issued) :
    s.consume t = (true, { s with issued := s.issued.erase t }) := by
  simp [consume, h]

lemma consume_of_not_mem (h : t ∉ s.issued) : s.consume t = (false, s) := by
  simp [consume, h]

/-- A consume succeeds exactly on a token out. -/
lemma consume_iff : (s.consume t).1 = true ↔ t ∈ s.issued := by
  by_cases h : t ∈ s.issued
  · simp [consume_of_mem h, h]
  · simp [consume_of_not_mem h, h]

/-! ### Runs -/

/-- A call a program makes of an issuer. -/
inductive Call where
  | create
  | consume (tok : String)

/-- What an issuer answers a call. -/
inductive Answer where
  | created (r : Except Fault String)
  | consumed (tok : String) (taken : Bool)

/-- Answers a call. -/
def call (s : TokenIssuer) : Call → Answer × TokenIssuer
  | .create => (.created s.create.1, s.create.2)
  | .consume tok => (.consumed tok (s.consume tok).1, (s.consume tok).2)

/-- Answers calls in order: the answers, and the issuer after them. -/
def run (s : TokenIssuer) : List Call → List Answer × TokenIssuer
  | [] => ([], s)
  | c :: cs => ((s.call c).1 :: ((s.call c).2.run cs).1, ((s.call c).2.run cs).2)

/-- The token a successful create handed out. -/
def Answer.handedOut : Answer → Option String
  | .created (.ok tok) => some tok
  | .created (.error _) => none
  | .consumed _ _ => none

/-- The token a successful consume took back. -/
def Answer.takenBack : Answer → Option String
  | .created _ => none
  | .consumed tok taken => if taken then some tok else none

/-- The tokens handed out by the creates among some answers. -/
def handedOut (as : List Answer) : Multiset String := ↑(as.filterMap Answer.handedOut)

/-- The tokens taken back by the consumes among some answers. -/
def takenBack (as : List Answer) : Multiset String := ↑(as.filterMap Answer.takenBack)

@[simp] lemma handedOut_created_ok : handedOut [.created (.ok t)] = {t} := rfl
@[simp] lemma handedOut_created_error : handedOut [.created (.error f)] = 0 := rfl
@[simp] lemma handedOut_consumed {taken : Bool} : handedOut [.consumed t taken] = 0 := rfl
@[simp] lemma takenBack_created {r : Except Fault String} : takenBack [.created r] = 0 := rfl
@[simp] lemma takenBack_consumed_true : takenBack [.consumed t true] = {t} := rfl
@[simp] lemma takenBack_consumed_false : takenBack [.consumed t false] = 0 := rfl

lemma handedOut_cons (a : Answer) (as : List Answer) :
    handedOut (a :: as) = handedOut [a] + handedOut as := by
  simp only [handedOut, List.filterMap_cons, List.filterMap_nil]
  cases a.handedOut <;> simp

lemma takenBack_cons (a : Answer) (as : List Answer) :
    takenBack (a :: as) = takenBack [a] + takenBack as := by
  simp only [takenBack, List.filterMap_cons, List.filterMap_nil]
  cases a.takenBack <;> simp

/-- A call takes back what it hands out of the tokens out, no more: the tokens out after it and
those it took back are those out before and those it handed out. -/
lemma call_balance (s : TokenIssuer) (c : Call) :
    ((s.call c).2.issued : Multiset String) + takenBack [(s.call c).1] =
      s.issued + handedOut [(s.call c).1] := by
  cases c with
  | create =>
    simp only [call]
    cases hc : s.create.1 with
    | error f =>
      rw [create_issued_of_error hc]
      simp
    | ok tok =>
      rw [(create_ok hc).2, ← Multiset.coe_add]
      simp
  | consume tok =>
    by_cases ht : tok ∈ s.issued
    · -- The token leaves the tokens out and joins those taken back.
      simp only [call, consume_of_mem ht, takenBack_consumed_true, handedOut_consumed, add_zero,
        ← Multiset.coe_erase]
      rw [add_comm, Multiset.singleton_add, Multiset.cons_erase (Multiset.mem_coe.2 ht)]
    · simp [call, consume_of_not_mem ht]

/-- A call keeps every token out once. -/
lemma call_nodup (s : TokenIssuer) (c : Call) (h : s.issued.Nodup) : (s.call c).2.issued.Nodup := by
  cases c with
  | create =>
    simp only [call]
    cases hc : s.create.1 with
    | error f => rwa [create_issued_of_error hc]
    | ok tok =>
      obtain ⟨hout, hi⟩ := create_ok hc
      rw [hi]
      refine List.nodup_append.2 ⟨h, List.nodup_singleton tok, fun a ha b hb hab => hout ?_⟩
      rw [List.mem_singleton] at hb
      exact hb ▸ hab ▸ ha
  | consume tok =>
    simp only [call, consume]
    split
    · exact h.erase tok
    · exact h

/-- A run balances the tokens out, and keeps each once. -/
lemma run_balance : ∀ (s : TokenIssuer) (cs : List Call), s.issued.Nodup →
    ((s.run cs).2.issued : Multiset String) + takenBack (s.run cs).1 =
      s.issued + handedOut (s.run cs).1 ∧ (s.run cs).2.issued.Nodup
  | s, [], h => ⟨by simp [run, handedOut, takenBack], h⟩
  | s, c :: cs, h => by
    obtain ⟨ih, hnd⟩ := run_balance (s.call c).2 cs (call_nodup s c h)
    refine ⟨?_, hnd⟩
    have hc := call_balance s c
    simp only [run]
    rw [takenBack_cons, handedOut_cons]
    -- The first call balances against the issuer before it, the rest against the one after.
    calc (((s.call c).2.run cs).2.issued : Multiset String) +
          (takenBack [(s.call c).1] + takenBack ((s.call c).2.run cs).1)
        = (((s.call c).2.run cs).2.issued + takenBack ((s.call c).2.run cs).1) +
            takenBack [(s.call c).1] := by abel
      _ = ((s.call c).2.issued + takenBack [(s.call c).1]) +
            handedOut ((s.call c).2.run cs).1 := by rw [ih]; abel
      _ = s.issued + (handedOut [(s.call c).1] + handedOut ((s.call c).2.run cs).1) := by
            rw [hc]; abel

/-- Over every run of creates and consumes from an issuer with no token out, whatever its supply
draws: the tokens out are those handed out less those taken back, which were all handed out, and
none is out twice. And at every point of the run, a create that succeeds hands out a token not
out and adds it; a consume succeeds exactly on a token out; a create that fails leaves the tokens
out as they were; and it gives up exhausted exactly when each of its `maxAttempts` attempts draws
a token still out, after two words an attempt. -/
theorem run_tracks_tokens (supply : IdSupply) (drawn : Nat) (calls : List Call) :
    let r := ({ supply, drawn } : TokenIssuer).run calls
    (r.2.issued : Multiset String) = handedOut r.1 - takenBack r.1 ∧
    takenBack r.1 ≤ handedOut r.1 ∧ r.2.issued.Nodup ∧
    (∀ tok, r.2.create.1 = .ok tok → tok ∉ r.2.issued ∧ r.2.create.2.issued = r.2.issued ++ [tok]) ∧
    (∀ tok, (r.2.consume tok).1 = true ↔ tok ∈ r.2.issued) ∧
    (∀ f, r.2.create.1 = .error f → r.2.create.2.issued = r.2.issued) ∧
    (r.2.create.1 = .error exhausted ↔
      ∀ k < maxAttempts, ∃ tok, r.2.attempt k = .ok tok ∧ tok ∈ r.2.issued) ∧
    (r.2.create.1 = .error exhausted → r.2.create.2.drawn = r.2.drawn + 2 * maxAttempts) := by
  intro r
  obtain ⟨hbal, hnd⟩ := run_balance { supply, drawn } calls List.nodup_nil
  simp only [Multiset.coe_nil, zero_add] at hbal
  exact ⟨Multiset.eq_sub_of_add_eq hbal, hbal ▸ Multiset.le_add_left _ _, hnd, fun tok h => create_ok h,
    fun tok => consume_iff, fun f h => create_issued_of_error h, go_exhausted_iff,
    go_exhausted_drawn⟩

end TokenIssuer

end Stencil

import Mathlib.Data.List.Basic
/-!
# Logs of events

A run of goroutines is followed through a log of what can be seen in it, one event after another.
What a run guarantees often says of each event what came before it: `Preceded P log` holds when
every event of the log satisfies `P` together with the events before it. A log grows at its end,
and `Preceded` grows with it one event at a time (`Preceded.snoc`).
-/

namespace Stencil

variable {α : Type}

/-- An event added at the end of a log is the last one of a split, or the split is of the log. -/
lemma eq_or_of_append_singleton {l L M : List α} {a b : α} (h : l ++ [a] = L ++ b :: M) :
    (L = l ∧ b = a ∧ M = []) ∨ ∃ M', M = M' ++ [a] ∧ l = L ++ b :: M' := by
  rcases List.eq_nil_or_concat M with rfl | ⟨M', c, rfl⟩
  · obtain ⟨h₁, h₂⟩ := List.append_inj' h rfl
    simp only [List.cons.injEq, and_true] at h₂
    exact .inl ⟨h₁.symm, h₂.symm, rfl⟩
  · rw [List.concat_eq_append, ← List.cons_append, ← List.append_assoc] at h
    obtain ⟨h₁, h₂⟩ := List.append_inj' h rfl
    simp only [List.cons.injEq, and_true] at h₂
    exact .inr ⟨M', by rw [h₂, List.concat_eq_append], h₁⟩

/-- Every event of the log satisfies `P` together with the events before it. -/
def Preceded (P : List α → α → Prop) (log : List α) : Prop :=
  ∀ L x M, log = L ++ x :: M → P L x

namespace Preceded

variable {P : List α → α → Prop} {log : List α} {e : α}

lemma nil : Preceded P [] := fun L x M h => by simp at h

lemma snoc (h : Preceded P log) (he : P log e) : Preceded P (log ++ [e]) := by
  intro L x M hsplit
  rcases eq_or_of_append_singleton hsplit with ⟨rfl, rfl, -⟩ | ⟨M', -, hlog⟩
  · exact he
  · exact h L x M' hlog

end Preceded

end Stencil

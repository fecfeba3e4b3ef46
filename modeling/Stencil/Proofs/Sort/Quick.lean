import Stencil.Proofs.Sort.Insertion
import Stencil.Proofs.Sort.Heap
import Stencil.Proofs.Sort.Partition
/-!
# The pattern-defeating quicksort sorts

`sortRange_spec`: for a strict weak order, every call of `sortRange` with enough fuel sorts its
range and moves nothing outside it, whatever its budget of unbalanced partitions and whatever it
was told about the last partition. The induction is on the fuel and follows the branches of the
definition: short ranges go to insertion sort, an exhausted budget to heap sort, and the rest
through pattern breaking, the pivot and the partial insertion pass to one of the two partitions,
whose sides the recursive calls sort.

`sort_spec` reads the result back as a permutation of the input in which no element precedes
one before it, and `sort_eq_of_perm` shows that an order in which only equal elements tie leaves
one possible answer.
-/

namespace Stencil.PatternSort

variable {α : Type} [Inhabited α] {lt : α → α → Bool}

section Sides

variable {xs ys zs : Array α} {a m b : Nat}

/-- A range split around `m` is sorted once both sides are. -/
lemma sortedOn_around (h₁ : Across lt xs a m b) (h₂ : Across lt xs a (m + 1) b) (hmb : m < b)
    (hl : SortedOn lt xs a m) (hr : SortedOn lt xs (m + 1) b) : SortedOn lt xs a b :=
  (hl.join (sortedOn_of_le le_rfl) (h₁.mono le_rfl hmb)).join hr h₂

/-- Sorting the left side of a split range and then its right side sorts it. -/
lemma sorted_left_then_right (h₁ : Across lt xs a m b) (h₂ : Across lt xs a (m + 1) b)
    (ham : a ≤ m) (hmb : m < b) (hl : Shuffled a m xs ys ∧ SortedOn lt ys a m)
    (hr : Shuffled (m + 1) b ys zs ∧ SortedOn lt zs (m + 1) b) :
    Shuffled a b xs zs ∧ SortedOn lt zs a b := by
  have hlw : Shuffled a (m + 1) xs ys := hl.1.widen le_rfl (by omega)
  have hrw : Shuffled m b ys zs := hr.1.widen (by omega) le_rfl
  refine ⟨(hl.1.widen le_rfl (by omega)).trans (hr.1.widen (by omega) le_rfl), ?_⟩
  exact sortedOn_around ((h₁.shuffled_left hl.1).shuffled_right hrw)
    ((h₂.shuffled_left hlw).shuffled_right hr.1) hmb (hl.2.shuffled_apart hr.1 (.inl (by omega)))
    hr.2

/-- Sorting the right side of a split range and then its left side sorts it. -/
lemma sorted_right_then_left (h₁ : Across lt xs a m b) (h₂ : Across lt xs a (m + 1) b)
    (ham : a ≤ m) (hmb : m < b) (hr : Shuffled (m + 1) b xs ys ∧ SortedOn lt ys (m + 1) b)
    (hl : Shuffled a m ys zs ∧ SortedOn lt zs a m) :
    Shuffled a b xs zs ∧ SortedOn lt zs a b := by
  have hlw : Shuffled a (m + 1) ys zs := hl.1.widen le_rfl (by omega)
  have hrw : Shuffled m b xs ys := hr.1.widen (by omega) le_rfl
  refine ⟨(hr.1.widen (by omega) le_rfl).trans (hl.1.widen le_rfl (by omega)), ?_⟩
  exact sortedOn_around ((h₁.shuffled_right hrw).shuffled_left hl.1)
    ((h₂.shuffled_right hr.1).shuffled_left hlw) hmb hl.2
    (hr.2.shuffled_apart hl.1 (.inr (by omega)))

end Sides

section Sorting

variable (hlt : StrictWeak lt)
include hlt

/-- With fuel past the length of the range, `sortRange` sorts `[a, b)` by moving its elements
among themselves. The floor of the range is what the branch for ranges equal to their floor
and the partial insertion pass rely on; the first call has none, and every later one has the
pivot of the partition that made it. -/
theorem sortRange_spec : ∀ (fuel : Nat) (xs : Array α) (a b limit : Nat)
    (balanced partitioned : Bool), a ≤ b → b ≤ xs.size → b - a < fuel → Floor lt xs a b →
      Shuffled a b xs (sortRange lt fuel xs a b limit balanced partitioned) ∧
      SortedOn lt (sortRange lt fuel xs a b limit balanced partitioned) a b := by
  intro fuel
  induction fuel with
  | zero => intro xs a b _ _ _ _ _ hfuel; omega
  | succ f ih =>
    intro xs a b limit balanced partitioned hab hb hfuel hf
    simp only [sortRange]
    -- Short ranges go to insertion sort, an exhausted budget to heap sort. Each test is decided
    -- by name: `split` would simplify both copies of the unfolded body in the goal.
    by_cases hshort : b - a ≤ 12
    · rw [if_pos hshort]
      exact insertionSort_spec hlt hab hb
    rw [if_neg hshort]
    by_cases hlimit : limit = 0
    · rw [if_pos hlimit]
      exact heapSort_spec hlt hab hb
    rw [if_neg hlimit]
    -- The steps before partitioning each move elements within the range, and the pivot stays
    -- in it.
    generalize hs1 : (if balanced then (xs, limit) else (breakPatterns xs a b, limit - 1)) = s1
    generalize hc : choosePivot lt s1.1 a b = c
    generalize hs2 : (if c.2 = Hint.decreasing then
      (reverseRange s1.1 a b, b - 1 - (c.1 - a), Hint.increasing) else (s1.1, c.1, c.2)) = s2
    generalize hs3 : (if (balanced && partitioned && decide (s2.2.2 = Hint.increasing)) = true then
      partialInsertionSort lt s2.1 a b else (false, s2.1)) = s3
    have h1 : Shuffled a b xs s1.1 := by
      rw [← hs1]
      split
      · exact .refl _ _ _
      · exact breakPatterns_shuffled xs a b
    have hpiv : a ≤ c.1 ∧ c.1 < b := hc ▸ choosePivot_range (by omega)
    have h2 : Shuffled a b s1.1 s2.1 ∧ a ≤ s2.2.1 ∧ s2.2.1 < b := by
      rw [← hs2]
      split
      · dsimp only
        exact ⟨reverseRange_shuffled _ a b, by omega, by omega⟩
      · exact ⟨.refl _ _ _, hpiv⟩
    have hx2 : Shuffled a b xs s2.1 := h1.trans h2.1
    have h3 : Shuffled a b s2.1 s3.2 ∧ (s3.1 → SortedOn lt s3.2 a b) := by
      rw [← hs3]
      split
      · exact partialInsertionSort_spec hlt (by omega) (hx2.size_eq ▸ hb) (hx2.floor hf)
      · exact ⟨.refl _ _ _, fun h => absurd h Bool.false_ne_true⟩
    have hx3 : Shuffled a b xs s3.2 := hx2.trans h3.1
    have hf3 : Floor lt s3.2 a b := hx3.floor hf
    have hb3 : b ≤ s3.2.size := hx3.size_eq ▸ hb
    split
    · exact ⟨hx3, h3.2 ‹_›⟩
    split
    · -- Nothing in the range precedes its floor, which does not precede the pivot: split off the
      -- elements equal to the pivot and sort the greater ones.
      rename_i hcond
      simp only [Bool.and_eq_true, decide_eq_true_eq, Bool.not_eq_true'] at hcond
      have hge : ∀ k, a ≤ k → k < b → ¬ lt (elem s3.2 k) (elem s3.2 s2.2.1) :=
        fun k hak hkb => hlt.not_trans (hf3 hcond.1 k hak hkb) (by simp [hcond.2])
      obtain ⟨e1, e2, e3, -⟩ := partitionEqual_spec lt (by omega) hb3 h2.2.1 h2.2.2
      obtain ⟨e4, e5⟩ := partitionEqual_sorted hlt (by omega) hb3 h2.2.1 h2.2.2 hge
      generalize partitionEqual lt s3.2 a b s2.2.1 = e at e1 e2 e3 e4 e5 ⊢
      obtain ⟨r1, r2⟩ := ih e.2 e.1 b s1.2 balanced partitioned (by omega)
        (e1.size_eq ▸ hb3) (by omega) (e5.floor e2)
      exact ⟨hx3.trans (e1.trans (r1.widen (by omega) le_rfl)),
        (e4.shuffled_apart r1 (.inl le_rfl)).join r2 (e5.shuffled_right r1)⟩
    · -- Partition around the pivot and sort the shorter side first.
      obtain ⟨p1, p2, p3, p4⟩ := partition_spec lt (by omega) hb3 h2.2.1 h2.2.2
      obtain ⟨q1, q2⟩ := p4.across hlt
      generalize partition lt s3.2 a b s2.2.1 = r at p1 p2 p3 p4 q1 q2 ⊢
      have hrb : b ≤ r.2.2.size := p1.size_eq ▸ hb3
      have hfl : Floor lt r.2.2 a r.1 := (p1.floor hf3).mono p3.le
      have hx4 : Shuffled a b xs r.2.2 := hx3.trans p1
      split
      · obtain ⟨l1, l2⟩ := ih r.2.2 a r.1 s1.2 true true p2 (by omega) (by omega) hfl
        generalize sortRange lt f r.2.2 a r.1 s1.2 true true = ys at l1 l2 ⊢
        have hfr : Floor lt ys (r.1 + 1) b :=
          (q2.shuffled_left (l1.widen le_rfl (by omega))).floor (by omega)
        exact And.imp_left hx4.trans (sorted_left_then_right q1 q2 p2 p3 ⟨l1, l2⟩
          (ih ys (r.1 + 1) b _ _ _ (by omega) (l1.size_eq ▸ hrb) (by omega) hfr))
      · obtain ⟨l1, l2⟩ := ih r.2.2 (r.1 + 1) b s1.2 true true (by omega) hrb (by omega)
          (q2.floor (by omega))
        generalize sortRange lt f r.2.2 (r.1 + 1) b s1.2 true true = ys at l1 l2 ⊢
        exact And.imp_left hx4.trans (sorted_right_then_left q1 q2 p2 p3 ⟨l1, l2⟩
          (ih ys a r.1 _ _ _ p2 (by rw [l1.size_eq]; omega) (by omega)
            (hfl.shuffled_after l1 (by omega))))

/-- Sorting by a strict weak order permutes the array into one where no element precedes one
before it. -/
theorem sort_spec (xs : Array α) :
    (sort lt xs).Perm xs ∧ (sort lt xs).toList.Pairwise (fun x y => ¬ lt y x) := by
  obtain ⟨hperm, hsorted⟩ : Shuffled 0 xs.size xs (sort lt xs) ∧ SortedOn lt (sort lt xs) 0 xs.size :=
    sortRange_spec hlt (xs.size + 1) xs 0 xs.size (bitLength xs.size) true true (Nat.zero_le _)
      le_rfl (by omega) (fun h => absurd h (Nat.lt_irrefl 0))
  refine ⟨hperm.perm, List.pairwise_iff_getElem.mpr fun i j hi hj hij => ?_⟩
  simp only [Array.length_toList] at hi hj
  have := hsorted i j (Nat.zero_le _) hij (hperm.size_eq ▸ hj)
  rw [elem_of_lt hi, elem_of_lt hj] at this
  simpa using this

/-- When only equal elements of the array tie, its sorted permutation is unique: sorting gives
every sorted permutation of the input. -/
theorem sort_eq_of_perm {xs ys : Array α}
    (htie : ∀ x ∈ xs.toList, ∀ y ∈ xs.toList, ¬ lt x y → ¬ lt y x → x = y)
    (hperm : ys.Perm xs) (hys : ys.toList.Pairwise (fun x y => ¬ lt y x)) : sort lt xs = ys := by
  obtain ⟨hp, hs⟩ := sort_spec hlt xs
  refine Array.toList_inj.mp (List.Perm.eq_of_pairwise (fun x y hx hy hxy hyx => ?_) hs hys
    (hp.trans hperm.symm).toList)
  exact htie x (hp.toList.mem_iff.mp hx) y (hperm.toList.mem_iff.mp hy) hyx hxy

end Sorting

end Stencil.PatternSort

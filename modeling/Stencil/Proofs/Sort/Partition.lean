import Stencil.Proofs.Sort.Range
/-!
# Partitions, pivots and pattern breaking

A partition scans `(a, b)` from both ends with the pivot at `a`: up from the left while the
elements precede the pivot, down from the right while they do not, and exchanges the two elements
where both scans stopped; when the scans cross, the pivot moves between the two parts
(`partition_spec`). A range that holds nothing smaller than its pivot is split instead into the
elements equal to the pivot and the greater ones (`partitionEqual_spec`).

Both loops keep one invariant, `Split`: the left end scanned so far satisfies the test of the
upward scan and the right end fails it. One round of scanning and exchanging keeps it
(`split_round`), whatever the test.

The pivot is chosen among elements of the range (`choosePivot_range`), and reversing a range or
breaking its patterns moves elements within it (`reverseRange_shuffled`,
`breakPatterns_shuffled`).
-/

namespace Stencil.PatternSort

variable {α : Type} [Inhabited α] {lt : α → α → Bool}

/-! ### Scans -/

lemma climb_go (keep : α → Bool) (xs : Array α) (j : Nat) :
    ∀ (fuel i : Nat), i ≤ j + 1 → j + 1 ≤ fuel + i →
      i ≤ climb.go keep xs j fuel i ∧ climb.go keep xs j fuel i ≤ j + 1 ∧
      (∀ k, i ≤ k → k < climb.go keep xs j fuel i → keep (elem xs k)) ∧
      (climb.go keep xs j fuel i ≤ j → ¬ keep (elem xs (climb.go keep xs j fuel i))) := by
  intro fuel
  induction fuel with
  | zero =>
    intro i hij hfuel
    simp only [climb.go]
    exact ⟨le_rfl, hij, fun k hk hk' => by omega, fun h => by omega⟩
  | succ fuel ih =>
    intro i hij hfuel
    simp only [climb.go]
    by_cases hc : i ≤ j ∧ keep (elem xs i)
    · rw [if_pos (by simpa using hc)]
      obtain ⟨h1, h2, h3, h4⟩ := ih (i + 1) (by omega) (by omega)
      refine ⟨by omega, h2, fun k hik hkr => ?_, h4⟩
      rcases Nat.eq_or_lt_of_le hik with rfl | hik
      · exact hc.2
      · exact h3 k hik hkr
    · rw [if_neg (by simpa using hc)]
      exact ⟨le_rfl, hij, fun k hk hk' => by omega, fun h => by simpa [h] using hc⟩

/-- The scan up from `i` passes the elements `keep` accepts and stops at the first it rejects,
or just past `j`. -/
lemma climb_spec (keep : α → Bool) (xs : Array α) {i j : Nat} (hij : i ≤ j + 1) :
    i ≤ climb keep xs i j ∧ climb keep xs i j ≤ j + 1 ∧
      (∀ k, i ≤ k → k < climb keep xs i j → keep (elem xs k)) ∧
      (climb keep xs i j ≤ j → ¬ keep (elem xs (climb keep xs i j))) :=
  climb_go keep xs j _ i hij (by omega)

lemma descend_go (keep : α → Bool) (xs : Array α) (i : Nat) (hi : 0 < i) :
    ∀ (fuel j : Nat), i ≤ j + 1 → j + 1 ≤ fuel + i →
      i ≤ descend.go keep xs i fuel j + 1 ∧ descend.go keep xs i fuel j ≤ j ∧
      (∀ k, descend.go keep xs i fuel j < k → k ≤ j → keep (elem xs k)) ∧
      (i ≤ descend.go keep xs i fuel j → ¬ keep (elem xs (descend.go keep xs i fuel j))) := by
  intro fuel
  induction fuel with
  | zero =>
    intro j hij hfuel
    simp only [descend.go]
    exact ⟨hij, le_rfl, fun k hk hk' => by omega, fun h => by omega⟩
  | succ fuel ih =>
    intro j hij hfuel
    simp only [descend.go]
    by_cases hc : i ≤ j ∧ keep (elem xs j)
    · rw [if_pos (by simpa using hc)]
      obtain ⟨h1, h2, h3, h4⟩ := ih (j - 1) (by omega) (by omega)
      refine ⟨h1, by omega, fun k hrk hkj => ?_, h4⟩
      rcases Nat.eq_or_lt_of_le hkj with rfl | hkj
      · exact hc.2
      · exact h3 k hrk (by omega)
    · rw [if_neg (by simpa using hc)]
      exact ⟨by omega, le_rfl, fun k hk hk' => by omega, fun h => by simpa [h] using hc⟩

/-- The scan down from `j` passes the elements `keep` accepts and stops at the last it rejects,
or just before `i`. -/
lemma descend_spec (keep : α → Bool) (xs : Array α) {i j : Nat} (hi : 0 < i) (hij : i ≤ j + 1) :
    i ≤ descend keep xs i j + 1 ∧ descend keep xs i j ≤ j ∧
      (∀ k, descend keep xs i j < k → k ≤ j → keep (elem xs k)) ∧
      (i ≤ descend keep xs i j → ¬ keep (elem xs (descend keep xs i j))) :=
  descend_go keep xs i hi _ j hij (by omega)

/-! ### Rounds of scanning -/

/-- Between `a` and `b`, the test `keep` holds of everything up to `i` and fails on everything
past `j`. -/
def Split (keep : α → Bool) (xs : Array α) (a b i j : Nat) : Prop :=
  (∀ k, a < k → k < i → keep (elem xs k)) ∧ (∀ k, j < k → k < b → ¬ keep (elem xs k))

lemma split_start (keep : α → Bool) (xs : Array α) (a b : Nat) : Split keep xs a b (a + 1) (b - 1) :=
  ⟨fun k hak hki => by omega, fun k hjk hkb => by omega⟩

/-- One round of a partition: scan up with `keep`, scan down with its negation, and exchange the
two elements where the scans stopped unless they crossed. -/
lemma split_round (keep back : α → Bool) (hback : ∀ x, back x = !keep x) {xs : Array α}
    {a b i j i' j' : Nat} (hai : a < i) (hij : i ≤ j + 1) (hjb : j < b) (hb : b ≤ xs.size)
    (hs : Split keep xs a b i j)
    (hi' : climb keep xs i j = i') (hj' : descend back xs i' j = j') :
    i ≤ i' ∧ j' ≤ j ∧
      (j' < i' → j' + 1 = i' ∧ Split keep xs a b i' j') ∧
      (i' ≤ j' → i' < j' ∧ Split keep (swap xs i' j') a b (i' + 1) (j' - 1)) := by
  obtain ⟨hi1, hi2, hup, hstop⟩ := climb_spec keep xs hij
  rw [hi'] at hi1 hi2 hup hstop
  obtain ⟨hj1, hj2, hdown, hdstop⟩ := descend_spec back xs (i := i') (j := j) (by omega) hi2
  rw [hj'] at hj1 hj2 hdown hdstop
  have hdown' : ∀ k, j' < k → k ≤ j → ¬ keep (elem xs k) := fun k h1 h2 => by
    simpa [hback] using hdown k h1 h2
  refine ⟨hi1, hj2, fun hlt => ⟨by omega, fun k hak hki => ?_, fun k hjk hkb => ?_⟩, fun hle => ?_⟩
  · by_cases hk : k < i
    · exact hs.1 k hak hk
    · exact hup k (by omega) hki
  · by_cases hk : j < k
    · exact hs.2 k hk hkb
    · exact hdown' k hjk (by omega)
  · -- Both scans stopped on an element each, one rejected and one accepted, so they differ.
    have hri : ¬ keep (elem xs i') := hstop (by omega)
    have hrj : keep (elem xs j') := by simpa [hback] using hdstop hle
    have hne : i' < j' := by
      rcases Nat.eq_or_lt_of_le hle with h | h
      · subst h; exact absurd hrj hri
      · exact h
    have hsz : ∀ k, k ≠ i' → k ≠ j' → elem (swap xs i' j') k = elem xs k :=
      fun k h1 h2 => elem_swap_of_ne h1 h2
    refine ⟨hne, fun k hak hki => ?_, fun k hjk hkb => ?_⟩
    · by_cases hk : k = i'
      · subst hk
        rwa [elem_swap_left (by omega) (by omega)]
      · rw [hsz k hk (by omega)]
        by_cases hk' : k < i
        · exact hs.1 k hak hk'
        · exact hup k (by omega) (by omega)
    · by_cases hk : k = j'
      · subst hk
        rwa [elem_swap_right (by omega) (by omega)]
      · rw [hsz k (by omega) hk]
        by_cases hk' : j < k
        · exact hs.2 k hk' hkb
        · exact hdown' k (by omega) (by omega)

/-! ### Partitioning around a pivot -/

/-- The element at `m` splits `[a, b)`: everything before it precedes it, and nothing after it
does. -/
def PartitionedAt (lt : α → α → Bool) (xs : Array α) (a m b : Nat) : Prop :=
  (∀ k, a ≤ k → k < m → lt (elem xs k) (elem xs m)) ∧
    (∀ k, m < k → k < b → ¬ lt (elem xs k) (elem xs m))

section Loops

variable {a b : Nat} {p : α}

/-- The rounds of a partition keep the pivot at `a` and end with the scans crossed. The rounds
shrink the unscanned part `[i, j]`, which bounds their number. -/
lemma partition_go : ∀ (fuel : Nat) (xs : Array α) (i j : Nat), a < i → i ≤ j + 1 → j < b →
    b ≤ xs.size → j + 1 - i < fuel → elem xs a = p → Split (lt · p) xs a b i j →
      Shuffled (a + 1) b xs (partition.go lt a fuel xs i j).2 ∧
      i ≤ (partition.go lt a fuel xs i j).1 + 1 ∧ (partition.go lt a fuel xs i j).1 < b ∧
      Split (lt · p) (partition.go lt a fuel xs i j).2 a b
        ((partition.go lt a fuel xs i j).1 + 1) (partition.go lt a fuel xs i j).1 := by
  intro fuel
  induction fuel with
  | zero => intro xs i j _ _ _ _ hfuel; omega
  | succ fuel ih =>
    intro xs i j hai hij hjb hb hfuel hp hs
    simp only [partition.go, hp]
    generalize hi' : climb (lt · p) xs i j = i'
    generalize hj' : descend (fun x => !lt x p) xs i' j = j'
    obtain ⟨h1, h2, hcross, hround⟩ :=
      split_round (lt · p) (fun x => !lt x p) (fun _ => rfl) hai hij hjb hb hs hi' hj'
    split
    · obtain ⟨he, hs'⟩ := hcross (by omega)
      exact ⟨.refl _ _ _, by omega, by omega, by rwa [he]⟩
    · obtain ⟨hne, hs'⟩ := hround (by omega)
      have hsw : Shuffled (a + 1) b xs (swap xs i' j') :=
        shuffled_swap xs (by omega) (by omega) (by omega) (by omega)
      obtain ⟨r1, r2, r3, r4⟩ := ih (swap xs i' j') (i' + 1) (j' - 1) (by omega) (by omega)
        (by omega) (by simpa using hb) (by omega) ((hsw.outside a (.inl (by omega))).trans hp) hs'
      exact ⟨hsw.trans r1, by omega, r3, r4⟩

/-- The rounds of a partition into equal and greater elements keep the pivot at `a` and end with
the scans crossed. -/
lemma partitionEqual_go : ∀ (fuel : Nat) (xs : Array α) (i j : Nat), a < i → i ≤ j + 1 → j < b →
    b ≤ xs.size → j + 1 - i < fuel → elem xs a = p → Split (fun x => !lt p x) xs a b i j →
      Shuffled (a + 1) b xs (partitionEqual.go lt a fuel xs i j).2 ∧
      i ≤ (partitionEqual.go lt a fuel xs i j).1 ∧ (partitionEqual.go lt a fuel xs i j).1 ≤ j + 1 ∧
      Split (fun x => !lt p x) (partitionEqual.go lt a fuel xs i j).2 a b
        (partitionEqual.go lt a fuel xs i j).1 ((partitionEqual.go lt a fuel xs i j).1 - 1) := by
  intro fuel
  induction fuel with
  | zero => intro xs i j _ _ _ _ hfuel; omega
  | succ fuel ih =>
    intro xs i j hai hij hjb hb hfuel hp hs
    simp only [partitionEqual.go, hp]
    generalize hi' : climb (fun x => !lt p x) xs i j = i'
    generalize hj' : descend (lt p ·) xs i' j = j'
    obtain ⟨h1, h2, hcross, hround⟩ :=
      split_round (fun x => !lt p x) (lt p ·) (fun _ => (Bool.not_not _).symm) hai hij hjb hb hs
        hi' hj'
    split
    · obtain ⟨he, hs'⟩ := hcross (by omega)
      exact ⟨.refl _ _ _, h1, by omega, by rwa [show i' - 1 = j' by omega]⟩
    · obtain ⟨hne, hs'⟩ := hround (by omega)
      have hsw : Shuffled (a + 1) b xs (swap xs i' j') :=
        shuffled_swap xs (by omega) (by omega) (by omega) (by omega)
      obtain ⟨r1, r2, r3, r4⟩ := ih (swap xs i' j') (i' + 1) (j' - 1) (by omega) (by omega)
        (by omega) (by simpa using hb) (by omega) ((hsw.outside a (.inl (by omega))).trans hp) hs'
      exact ⟨hsw.trans r1, by omega, by omega, r4⟩

/-- The last swap of a partition moves the pivot from `a` to where the scans crossed. -/
lemma partition_finish {ys : Array α} {m : Nat} (ham : a ≤ m) (hmb : m < b) (hb : b ≤ ys.size)
    (hp : elem ys a = p) (hs : Split (lt · p) ys a b (m + 1) m) :
    Shuffled a b ys (swap ys m a) ∧ PartitionedAt lt (swap ys m a) a m b := by
  have hpm : elem (swap ys m a) m = p := by rw [elem_swap_left (by omega) (by omega), hp]
  refine ⟨shuffled_swap ys ham hmb le_rfl (by omega), fun k hak hkm => ?_, fun k hmk hkb => ?_⟩
  · rw [hpm]
    by_cases hk : k = a
    · subst hk
      rw [elem_swap_right (by omega) (by omega)]
      exact hs.1 m (by omega) (by omega)
    · rw [elem_swap_of_ne (by omega) hk]
      exact hs.1 k (by omega) (by omega)
  · rw [hpm, elem_swap_of_ne (by omega) (by omega)]
    exact hs.2 k hmk hkb

end Loops

variable {xs : Array α} {a b pivot : Nat}

/-- Partitioning `[a, b)` around one of its elements moves its elements among themselves and
leaves the pivot at the returned index, the smaller elements before it and the others after. -/
theorem partition_spec (lt : α → α → Bool) (hab : a < b) (hb : b ≤ xs.size) (hpa : a ≤ pivot) (hpb : pivot < b) :
    Shuffled a b xs (partition lt xs a b pivot).2.2 ∧ a ≤ (partition lt xs a b pivot).1 ∧
      (partition lt xs a b pivot).1 < b ∧
      PartitionedAt lt (partition lt xs a b pivot).2.2 a (partition lt xs a b pivot).1 b := by
  unfold partition
  dsimp only
  generalize hys : swap xs a pivot = ys
  have hsh : Shuffled a b xs ys := hys ▸ shuffled_swap xs le_rfl hab hpa hpb
  have hyb : b ≤ ys.size := by rw [← hys, size_swap]; exact hb
  generalize hp : elem ys a = p
  generalize hi : climb (lt · p) ys (a + 1) (b - 1) = i
  generalize hj : descend (fun x => !lt x p) ys i (b - 1) = j
  obtain ⟨h1, h2, hcross, hround⟩ := split_round (lt · p) (fun x => !lt x p) (fun _ => rfl)
    (Nat.lt_succ_self a) (by omega) (by omega) hyb (split_start _ ys a b) hi hj
  split
  · -- The first round found the range partitioned already.
    obtain ⟨he, hs⟩ := hcross (by omega)
    obtain ⟨f1, f2⟩ := partition_finish (m := j) (by omega) (by omega) hyb hp (by rwa [he])
    exact ⟨hsh.trans f1, by omega, by omega, f2⟩
  · obtain ⟨hne, hs⟩ := hround (by omega)
    have hsw : Shuffled (a + 1) b ys (swap ys i j) :=
      shuffled_swap ys (by omega) (by omega) (by omega) (by omega)
    obtain ⟨g1, g2, g3, g4⟩ := partition_go (b + 1) (swap ys i j) (i + 1) (j - 1) (by omega)
      (by omega) (by omega) (by simpa using hyb) (by omega)
      ((hsw.outside a (.inl (by omega))).trans hp) hs
    generalize partition.go lt a (b + 1) (swap ys i j) (i + 1) (j - 1) = g at g1 g2 g3 g4 ⊢
    have hga : elem g.2 a = p := by
      rw [g1.outside a (.inl (by omega)), hsw.outside a (.inl (by omega)), hp]
    obtain ⟨f1, f2⟩ := partition_finish (m := g.1) (by omega) g3
      (by rw [g1.size_eq, size_swap]; exact hyb) hga g4
    exact ⟨hsh.trans ((hsw.trans g1).widen (by omega) le_rfl |>.trans f1), by omega, g3, f2⟩

/-- Partitioning `[a, b)` into the elements equal to one of them and the greater ones moves its
elements among themselves, keeps the pivot at `a`, and returns where the greater ones start. -/
theorem partitionEqual_spec (lt : α → α → Bool) (hab : a < b) (hb : b ≤ xs.size) (hpa : a ≤ pivot) (hpb : pivot < b) :
    Shuffled a b xs (partitionEqual lt xs a b pivot).2 ∧ a < (partitionEqual lt xs a b pivot).1 ∧
      (partitionEqual lt xs a b pivot).1 ≤ b ∧
      elem (partitionEqual lt xs a b pivot).2 a = elem xs pivot ∧
      (∀ k, a < k → k < (partitionEqual lt xs a b pivot).1 →
        ¬ lt (elem xs pivot) (elem (partitionEqual lt xs a b pivot).2 k)) ∧
      (∀ k, (partitionEqual lt xs a b pivot).1 ≤ k → k < b →
        lt (elem xs pivot) (elem (partitionEqual lt xs a b pivot).2 k)) := by
  unfold partitionEqual
  have hsh : Shuffled a b xs (swap xs a pivot) := shuffled_swap xs le_rfl hab hpa hpb
  have hp : elem (swap xs a pivot) a = elem xs pivot := elem_swap_left (by omega) (by omega)
  obtain ⟨g1, g2, g3, g4⟩ := partitionEqual_go (b := b) (b + 1) (swap xs a pivot) (a + 1) (b - 1)
    (by omega) (by omega) (by omega) (by simpa using hb) (by omega) hp (split_start _ _ a b)
  generalize partitionEqual.go lt a (b + 1) (swap xs a pivot) (a + 1) (b - 1) = g at g1 g2 g3 g4 ⊢
  refine ⟨hsh.trans (g1.widen (by omega) le_rfl), by omega, by omega, ?_, fun k hak hkm => ?_,
    fun k hmk hkb => ?_⟩
  · rw [g1.outside a (.inl (by omega)), hp]
  · simpa using g4.1 k hak hkm
  · simpa using g4.2 k (by omega) hkb

/-! ### Partitions of a strict weak order -/

section Order

variable (hlt : StrictWeak lt)
include hlt

/-- Around the pivot, the smaller elements are in order with the pivot and the others, and the
pivot with the others. -/
lemma PartitionedAt.across {m : Nat} (h : PartitionedAt lt xs a m b) :
    Across lt xs a m b ∧ Across lt xs a (m + 1) b := by
  have hlow : ∀ i j, a ≤ i → i < m → m < j → j < b → ¬ lt (elem xs j) (elem xs i) :=
    fun i j hai him hmj hjb hji => h.2 j hmj hjb (hlt.trans hji (h.1 i hai him))
  refine ⟨fun i j hai him hmj hjb => ?_, fun i j hai him hmj hjb => ?_⟩
  · rcases Nat.eq_or_lt_of_le hmj with rfl | hmj
    · exact hlt.asymm (h.1 i hai him)
    · exact hlow i j hai him hmj hjb
  · rcases Nat.eq_or_lt_of_le (Nat.le_of_lt_succ him) with rfl | him
    · exact h.2 j hmj hjb
    · exact hlow i j hai him (by omega) hjb

/-- When nothing in `[a, b)` precedes the pivot, the elements equal to it come out sorted and in
order with the greater ones. -/
lemma partitionEqual_sorted (hab : a < b) (hb : b ≤ xs.size) (hpa : a ≤ pivot) (hpb : pivot < b)
    (hge : ∀ k, a ≤ k → k < b → ¬ lt (elem xs k) (elem xs pivot)) :
    SortedOn lt (partitionEqual lt xs a b pivot).2 a (partitionEqual lt xs a b pivot).1 ∧
      Across lt (partitionEqual lt xs a b pivot).2 a (partitionEqual lt xs a b pivot).1 b := by
  obtain ⟨h1, -, h3, h4, h5, h6⟩ := partitionEqual_spec lt hab hb hpa hpb
  generalize partitionEqual lt xs a b pivot = r at h1 h3 h4 h5 h6 ⊢
  have hnot : ∀ k, a ≤ k → k < r.1 → ¬ lt (elem xs pivot) (elem r.2 k) := by
    intro k hak hkm
    rcases Nat.eq_or_lt_of_le hak with rfl | hak
    · rw [h4]; exact hlt.irrefl _
    · exact h5 k hak hkm
  have hge' : ∀ k, a ≤ k → k < b → ¬ lt (elem r.2 k) (elem xs pivot) :=
    h1.forall (P := fun x => ¬ lt x (elem xs pivot)) hge
  refine ⟨fun i j hai hij hjm => ?_, fun i j hai him hmj hjb hji => ?_⟩
  · exact hlt.not_trans (hge' j (by omega) (by omega)) (hnot i hai (by omega))
  · exact hnot i hai him (hlt.trans (h6 j hmj hjb) hji)

end Order

/-! ### Pivots -/

lemma order2_mem (lt : α → α → Bool) (xs : Array α) (P : Nat → Prop) {i j : Nat} (hi : P i) (hj : P j) (swaps : Nat) :
    P (order2 lt xs i j swaps).1 ∧ P (order2 lt xs i j swaps).2.1 := by
  unfold order2
  split
  · exact ⟨hj, hi⟩
  · exact ⟨hi, hj⟩

/-- The median of three indices is one of them. -/
lemma median_mem (P : Nat → Prop) {i j k : Nat} (hi : P i) (hj : P j) (hk : P k) (swaps : Nat) :
    P (median lt xs i j k swaps).1 := by
  unfold median
  dsimp only
  obtain ⟨h1, h2⟩ := order2_mem lt xs P hi hj swaps
  exact (order2_mem lt xs P h1 (order2_mem lt xs P h2 hk _).1 _).2

/-- The pivot of a nonempty range is one of its elements. -/
theorem choosePivot_range (hab : a < b) :
    a ≤ (choosePivot lt xs a b).1 ∧ (choosePivot lt xs a b).1 < b := by
  unfold choosePivot
  dsimp only
  split
  · -- Every candidate is a quarter point of the range or, on long ranges, a neighbour of one.
    have hc : ∀ n, a < n → n + 1 < b → ∀ s,
        a ≤ (median lt xs (n - 1) n (n + 1) s).1 ∧ (median lt xs (n - 1) n (n + 1) s).1 < b :=
      fun n h1 h2 s => median_mem (fun n => a ≤ n ∧ n < b) ⟨by omega, by omega⟩
        ⟨by omega, by omega⟩ ⟨by omega, by omega⟩ s
    refine median_mem (fun n => a ≤ n ∧ n < b) ?_ ?_ ?_ _ <;> split
    · exact hc _ (by omega) (by omega) _
    · omega
    · exact hc _ (by omega) (by omega) _
    · omega
    · exact hc _ (by omega) (by omega) _
    · omega
  · omega

/-! ### Reversing and breaking patterns -/

/-- Reversing a range moves its elements among themselves. -/
theorem reverseRange_shuffled (xs : Array α) (a b : Nat) : Shuffled a b xs (reverseRange xs a b) := by
  unfold reverseRange
  refine foldl_shuffled id _ _ (fun ys t ht => ?_) xs
  have ht := List.mem_range.mp ht
  exact shuffled_swap ys (by omega) (by omega) (by omega) (by omega)

/-- A pseudo-random number reduced below the power of two just above a length, and folded once,
is an offset into the range. -/
lemma randomOffset_lt {l : Nat} (n : Nat) (hl : 0 < l) :
    (if n % Nat.pow 2 (bitLength l) ≥ l then n % Nat.pow 2 (bitLength l) - l
      else n % Nat.pow 2 (bitLength l)) < l := by
  have hpow : Nat.pow 2 (bitLength l) ≤ 2 * l := by
    rw [bitLength, if_neg (by omega), Nat.pow_eq, Nat.pow_succ]
    have := Nat.log2_self_le (show l ≠ 0 by omega)
    omega
  have hmod : n % Nat.pow 2 (bitLength l) < Nat.pow 2 (bitLength l) :=
    Nat.mod_lt _ (by rw [Nat.pow_eq]; exact Nat.two_pow_pos _)
  split <;> omega

/-- Breaking patterns moves the elements of the range among themselves. -/
theorem breakPatterns_shuffled (xs : Array α) (a b : Nat) :
    Shuffled a b xs (breakPatterns xs a b) := by
  unfold breakPatterns
  dsimp only
  split
  · exact .refl _ _ _
  · refine foldl_shuffled Prod.fst _ _ (fun s t ht => ?_) (xs, _)
    have ht := List.mem_range.mp ht
    have hoff := randomOffset_lt (nextRandom s.2).toNat (show 0 < b - a by omega)
    exact shuffled_swap s.1 (by omega) (by omega) (by omega) (by omega)

end Stencil.PatternSort

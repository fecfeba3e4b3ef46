import Stencil.Proofs.Sort.Range
/-!
# Heap sort

After too many unbalanced partitions a range is heap sorted. The `n` elements stored from `first`
form a heap when no element precedes one of its children, the children of node `r` being nodes
`2r + 1` and `2r + 2` (`HeapFrom`, counted from a node `i` on). Sifting the element at node `i`
down makes a heap from `i` on out of one from `i + 1` on (`siftDown_spec`): the loop keeps the
heap order everywhere but at the sinking element, whose parent is at least its children
(`Sifting`). Building the heap sifts every inner node, last first; then the greatest element,
at the root, changes places with the last one of the heap, which shrinks by one and is sifted
again (`heapSort_spec`).
-/

namespace Stencil.PatternSort

variable {α : Type} [Inhabited α] {lt : α → α → Bool}

/-- Node `c` is a child of node `r`. -/
def IsChild (c r : Nat) : Prop := c = 2 * r + 1 ∨ c = 2 * r + 2

lemma IsChild.parent_lt {c r : Nat} (h : IsChild c r) : r < c := by unfold IsChild at h; omega

lemma isChild_parent {c : Nat} (hc : 0 < c) : IsChild c ((c - 1) / 2) := by unfold IsChild; omega

/-- From node `i` on, no element of the heap of `n` elements stored from `first` precedes one of
its children. -/
def HeapFrom (lt : α → α → Bool) (xs : Array α) (first n i : Nat) : Prop :=
  ∀ r c, i ≤ r → c < n → IsChild c r → ¬ lt (elem xs (first + r)) (elem xs (first + c))

/-- The state of an element sifting down from node `i`, standing at node `p`: the heap order
holds from `i` on except between `p` and its children, and the parent of `p` is at least the
children of `p`. -/
structure Sifting (lt : α → α → Bool) (xs : Array α) (first n i p : Nat) : Prop where
  above : ∀ r c, i ≤ r → r ≠ p → c < n → IsChild c r →
    ¬ lt (elem xs (first + r)) (elem xs (first + c))
  hole : i < p → ∀ c, c < n → IsChild c p →
    ¬ lt (elem xs (first + (p - 1) / 2)) (elem xs (first + c))

lemma sifting_start {xs : Array α} {first n i : Nat} (h : HeapFrom lt xs first n (i + 1)) :
    Sifting lt xs first n i i where
  above r c hir hri hcn hc := h r c (by omega) hcn hc
  hole h := absurd h (lt_irrefl i)

/-- With no child left out of order, the element has settled and the heap order holds from `i`
on. -/
lemma Sifting.heapFrom {xs : Array α} {first n i p : Nat} (hs : Sifting lt xs first n i p)
    (hp : ∀ c, c < n → IsChild c p → ¬ lt (elem xs (first + p)) (elem xs (first + c))) :
    HeapFrom lt xs first n i := by
  intro r c hir hcn hc
  by_cases hrp : r = p
  · subst hrp; exact hp c hcn hc
  · exact hs.above r c hir hrp hcn hc

section Sift

variable (hlt : StrictWeak lt)
include hlt

/-- The child that sifting picks is a child in the heap that no other child of the node follows. -/
lemma pick_child (xs : Array α) {first n p ch : Nat} (hc : 2 * p + 1 < n)
    (hpick : (if 2 * p + 1 + 1 < n &&
        lt (elem xs (first + (2 * p + 1))) (elem xs (first + (2 * p + 1) + 1))
      then 2 * p + 1 + 1 else 2 * p + 1) = ch) :
    IsChild ch p ∧ ch < n ∧ ∀ c, c < n → IsChild c p → ¬ lt (elem xs (first + ch)) (elem xs (first + c)) := by
  by_cases hsel : 2 * p + 1 + 1 < n ∧
      lt (elem xs (first + (2 * p + 1))) (elem xs (first + (2 * p + 1) + 1))
  · have hch : ch = 2 * p + 2 := by rw [← hpick]; simp [hsel]
    refine ⟨.inr hch, by omega, fun c hcn hc' => ?_⟩
    rw [hch]
    rcases hc' with rfl | rfl
    · exact hlt.asymm (by simpa [Nat.add_assoc] using hsel.2)
    · exact hlt.irrefl _
  · have hch : ch = 2 * p + 1 := by rw [← hpick, if_neg (by simpa using hsel)]
    refine ⟨.inl hch, by omega, fun c hcn hc' => ?_⟩
    rw [hch]
    rcases hc' with rfl | rfl
    · exact hlt.irrefl _
    · exact fun h => hsel ⟨by omega, by simpa [Nat.add_assoc] using h⟩

/-- One step of sifting: the element changes places with its greatest child, which it precedes. -/
lemma Sifting.step {xs : Array α} {first n i p ch : Nat} (hs : Sifting lt xs first n i p)
    (hn : first + n ≤ xs.size) (hip : i ≤ p) (hch : IsChild ch p) (hchn : ch < n)
    (hmax : ∀ c, c < n → IsChild c p → ¬ lt (elem xs (first + ch)) (elem xs (first + c)))
    (hswap : lt (elem xs (first + p)) (elem xs (first + ch))) :
    Sifting lt (swap xs (first + p) (first + ch)) first n i ch := by
  have hpch := hch.parent_lt
  have hp' : first + p < xs.size := by omega
  have hch' : first + ch < xs.size := by omega
  set ys := swap xs (first + p) (first + ch)
  have hfar : ∀ r, r ≠ p → r ≠ ch → elem ys (first + r) = elem xs (first + r) :=
    fun r h1 h2 => elem_swap_of_ne (by omega) (by omega)
  have hyp : elem ys (first + p) = elem xs (first + ch) := elem_swap_left hp' hch'
  have hych : elem ys (first + ch) = elem xs (first + p) := elem_swap_right hp' hch'
  refine ⟨fun r c hir hrch hcn hc => ?_, fun _ c hcn hc => ?_⟩
  · by_cases hrp : r = p
    · -- The child that moved up is at least the element and the other child.
      subst hrp
      rw [hyp]
      by_cases hcc : c = ch
      · subst hcc; rw [hych]; exact hlt.asymm hswap
      · rw [hfar c (by have := hc.parent_lt; omega) hcc]; exact hmax c hcn hc
    · rw [hfar r hrp hrch]
      by_cases hcp : c = p
      · -- The parent of `p` is at least every child of `p`, the one that moved up among them.
        subst hcp
        rw [hyp]
        have hr : r = (c - 1) / 2 := by unfold IsChild at hc; omega
        have hic : i < c := by omega
        rw [hr]
        exact hs.hole hic ch hchn hch
      · have hcch : c ≠ ch := by
          intro hcch; subst hcch
          unfold IsChild at hc hch; omega
        rw [hfar c hcp hcch]
        exact hs.above r c hir hrp hcn hc
  · -- Below its new place the element finds the children of the one it changed places with.
    have hpar : (ch - 1) / 2 = p := by unfold IsChild at hch; omega
    rw [hpar, hyp, hfar c (by have := hc.parent_lt; omega) (by have := hc.parent_lt; omega)]
    exact hs.above ch c (by omega) (by omega) hcn hc

/-- Sifting down from node `p` moves elements of the heap from node `i` on only, and leaves the
heap order from `i` on. -/
lemma siftDown_go {first n i : Nat} :
    ∀ (fuel : Nat) (xs : Array α) (p : Nat), i ≤ p → n ≤ fuel + p → first + n ≤ xs.size →
      Sifting lt xs first n i p →
      Shuffled (first + i) (first + n) xs (siftDown.go lt n first fuel xs p) ∧
        HeapFrom lt (siftDown.go lt n first fuel xs p) first n i := by
  intro fuel
  induction fuel with
  | zero =>
    intro xs p _ hnp _ hs
    simp only [siftDown.go]
    exact ⟨.refl _ _ _, hs.heapFrom fun c hcn hc => absurd hc.parent_lt (by omega)⟩
  | succ fuel ih =>
    intro xs p hip hnp hn hs
    simp only [siftDown.go]
    split
    · -- A node without children in the heap is settled.
      exact ⟨.refl _ _ _, hs.heapFrom fun c hcn hc => by unfold IsChild at hc; omega⟩
    rename_i hleaf
    generalize hpick : (if 2 * p + 1 + 1 < n &&
        lt (elem xs (first + (2 * p + 1))) (elem xs (first + (2 * p + 1) + 1))
      then 2 * p + 1 + 1 else 2 * p + 1) = ch
    obtain ⟨hch, hchn, hmax⟩ := pick_child hlt xs (by omega) hpick
    split
    · rename_i hstop
      refine ⟨.refl _ _ _, hs.heapFrom fun c hcn hc => ?_⟩
      exact hlt.not_trans (by simpa using hstop) (hmax c hcn hc)
    · rename_i hgo
      obtain ⟨hsh, hheap⟩ := ih _ _ (le_trans hip hch.parent_lt.le) (by have := hch.parent_lt; omega)
        (by simpa using hn) (hs.step hlt hn hip hch hchn hmax (by simpa using hgo))
      have hsw : Shuffled (first + i) (first + n) xs (swap xs (first + p) (first + ch)) :=
        shuffled_swap xs (by omega) (by omega) (by have := hch.parent_lt; omega) (by omega)
      exact ⟨hsw.trans hsh, hheap⟩

/-- **Sifting down** node `i` of a heap that is in order from node `i + 1` on puts it in order
from node `i` on, moving its elements from node `i` on only. -/
theorem siftDown_spec {xs : Array α} {first n i : Nat} (hn : first + n ≤ xs.size)
    (h : HeapFrom lt xs first n (i + 1)) :
    Shuffled (first + i) (first + n) xs (siftDown lt xs i n first) ∧
      HeapFrom lt (siftDown lt xs i n first) first n i :=
  siftDown_go hlt n xs i le_rfl (by omega) hn (sifting_start h)

/-- The root of a heap is at least every element of it. -/
lemma HeapFrom.root {xs : Array α} {first n : Nat} (h : HeapFrom lt xs first n 0) :
    ∀ k, k < n → ¬ lt (elem xs first) (elem xs (first + k)) := by
  intro k
  induction k using Nat.strong_induction_on with
  | _ k ih =>
    intro hk
    rcases Nat.eq_zero_or_pos k with rfl | hk0
    · simpa using hlt.irrefl (elem xs first)
    · -- Up the chain of parents: the root is at least the parent, which is at least `k`.
      have hpar := isChild_parent hk0
      exact hlt.not_trans (ih _ hpar.parent_lt (by omega)) (h _ k (Nat.zero_le _) hk hpar)

/-! ### Building the heap and taking it apart -/

/-- Sifting the inner nodes from `m - 1` down to the root makes the whole range a heap. -/
lemma foldl_build {first n : Nat} :
    ∀ (m : Nat) (xs : Array α), first + n ≤ xs.size → HeapFrom lt xs first n m →
      Shuffled first (first + n) xs
          ((List.range m).reverse.foldl (fun xs i => siftDown lt xs i n first) xs) ∧
        HeapFrom lt ((List.range m).reverse.foldl (fun xs i => siftDown lt xs i n first) xs)
          first n 0 := by
  intro m
  induction m with
  | zero => exact fun xs _ h => ⟨.refl _ _ _, h⟩
  | succ m ih =>
    intro xs hn h
    rw [List.range_succ, List.reverse_append, List.reverse_singleton, List.singleton_append,
      List.foldl_cons]
    obtain ⟨hsh, hheap⟩ := siftDown_spec hlt hn h
    obtain ⟨hsh', hheap'⟩ := ih _ (by rw [hsh.size_eq]; exact hn) hheap
    exact ⟨(hsh.widen (by omega) le_rfl).trans hsh', hheap'⟩

/-- What the second phase of heap sort knows before it takes the heap's `m`-th element: the
first `m` elements form a heap, the rest of the range is sorted, and no element of the rest
precedes one of the heap. -/
structure Unheaping (lt : α → α → Bool) (xs : Array α) (a n m : Nat) : Prop where
  heap : HeapFrom lt xs a m 0
  sorted : SortedOn lt xs (a + m) (a + n)
  across : ∀ k j, k < m → a + m ≤ j → j < a + n → ¬ lt (elem xs j) (elem xs (a + k))

/-- Taking the greatest element of the heap to its end, and sifting the new root down. -/
lemma Unheaping.step {xs : Array α} {a n m : Nat} (hu : Unheaping lt xs a n (m + 1))
    (hmn : m + 1 ≤ n) (hn : a + n ≤ xs.size) :
    Shuffled a (a + m + 1) xs (siftDown lt (swap xs a (a + m)) 0 m a) ∧
      Unheaping lt (siftDown lt (swap xs a (a + m)) 0 m a) a n m := by
  have ha : a < xs.size := by omega
  have ham : a + m < xs.size := by omega
  set ys := swap xs a (a + m)
  have hsw : Shuffled a (a + m + 1) xs ys := shuffled_swap xs le_rfl (by omega) (by omega) (by omega)
  -- Below the root the heap is as it was, now one element shorter.
  have hys : HeapFrom lt ys a m 1 := by
    intro r c hr hcm hc
    have := hc.parent_lt
    rw [elem_swap_of_ne (by omega) (by omega), elem_swap_of_ne (by omega) (by omega)]
    exact hu.heap r c (Nat.zero_le _) (by omega) hc
  obtain ⟨hsh, hheap⟩ := siftDown_spec hlt (by rw [size_swap]; omega) hys
  set zs := siftDown lt ys 0 m a
  have hzs_top : ∀ j, a + m ≤ j → elem zs j = elem ys j := fun j hj => hsh.outside j (.inr hj)
  have hroot : elem ys (a + m) = elem xs a := elem_swap_right ha ham
  refine ⟨hsw.trans (hsh.widen (by omega) (by omega)), hheap, ?_, ?_⟩
  · -- The old root joins the sorted rest as its first element.
    refine SortedOn.join (m := a + m + 1) (sortedOn_of_le (by omega)) ?_ fun i j hi hi' hj hjn => ?_
    · refine (hu.sorted.mono le_rfl le_rfl).congr fun k hk _ => ?_
      rw [hzs_top k (by omega), elem_swap_of_ne (by omega) (by omega)]
    · obtain rfl : i = a + m := by omega
      rw [hzs_top _ le_rfl, hzs_top j (by omega), hroot, elem_swap_of_ne (by omega) (by omega)]
      have := hu.across 0 j (by omega) (by omega) hjn
      simpa using this
  · -- Every element left in the heap was in the heap before, so the root was at least it.
    intro k j hkm hj hjn
    obtain ⟨l, hal, hlm, hl⟩ := hsh.inside (a + k) (by omega) (by omega)
    rw [hl, hzs_top j hj]
    have hl' : elem ys l = elem xs (if l = a then a + m else l) := by
      split
      · subst l; exact elem_swap_left ha ham
      · exact elem_swap_of_ne (by assumption) (by omega)
    rw [hl']
    have hidx : ∃ k', k' < m + 1 ∧ (if l = a then a + m else l) = a + k' :=
      ⟨if l = a then m else l - a, by split <;> omega, by split <;> omega⟩
    obtain ⟨k', hk', hk'eq⟩ := hidx
    rw [hk'eq]
    rcases Nat.eq_or_lt_of_le hj with rfl | hj
    · rw [hroot]
      simpa using hu.heap.root hlt k' hk'
    · rw [elem_swap_of_ne (by omega) (by omega)]
      exact hu.across k' j hk' (by omega) hjn

/-- Taking the heap apart from its `m`-th element down sorts the range. -/
lemma foldl_unheap {a n : Nat} :
    ∀ (m : Nat) (xs : Array α), m ≤ n → a + n ≤ xs.size → Unheaping lt xs a n m →
      Shuffled a (a + n) xs
          ((List.range m).reverse.foldl (fun xs i => siftDown lt (swap xs a (a + i)) 0 i a) xs) ∧
        SortedOn lt
          ((List.range m).reverse.foldl (fun xs i => siftDown lt (swap xs a (a + i)) 0 i a) xs)
          a (a + n) := by
  intro m
  induction m with
  | zero => exact fun xs _ _ hu => ⟨.refl _ _ _, by simpa using hu.sorted⟩
  | succ m ih =>
    intro xs hmn hn hu
    rw [List.range_succ, List.reverse_append, List.reverse_singleton, List.singleton_append,
      List.foldl_cons]
    obtain ⟨hsh, hu'⟩ := hu.step hlt hmn hn
    obtain ⟨hsh', hsorted⟩ := ih _ (by omega) (by rw [hsh.size_eq]; exact hn) hu'
    exact ⟨(hsh.widen le_rfl (by omega)).trans hsh', hsorted⟩

/-- **Heap sort** sorts `[a, b)`, moving elements within it only. -/
theorem heapSort_spec {a b : Nat} {xs : Array α} (hab : a ≤ b) (hb : b ≤ xs.size) :
    Shuffled a b xs (heapSort lt xs a b) ∧ SortedOn lt (heapSort lt xs a b) a b := by
  unfold heapSort
  have hn : a + (b - a) ≤ xs.size := by omega
  -- The nodes past the last inner one have no children in the heap.
  have hleaves : HeapFrom lt xs a (b - a) ((b - a - 1) / 2 + 1) :=
    fun r c hr hcn hc => by unfold IsChild at hc; omega
  obtain ⟨hsh, hheap⟩ := foldl_build hlt _ xs hn hleaves
  obtain ⟨hsh', hsorted⟩ := foldl_unheap hlt (b - a) _ le_rfl (by rw [hsh.size_eq]; exact hn)
    ⟨hheap, sortedOn_of_le (by omega), fun k j _ hj hj' => by omega⟩
  rw [show a + (b - a) = b by omega] at hsh hsh' hsorted
  exact ⟨hsh.trans hsh', hsorted⟩

end Sift

end Stencil.PatternSort

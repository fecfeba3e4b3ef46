import Mathlib.Data.List.Sort
import Stencil.Data.PatternSort
/-!
# Sorting ranges in place: the words of the proof

The pattern-defeating quicksort works on ranges `[a, b)` of one array, and every step it takes
exchanges two elements of the range it is sorting. Its proof is stated in four words:

* `StrictWeak lt`: the comparison is a strict weak order, the contract of every sort by `lt`;
* `Shuffled a b xs ys`: `ys` is a permutation of `xs` that moved elements of `[a, b)` only;
* `SortedOn lt xs a b`: no element of `[a, b)` precedes one that stands before it;
* `Floor lt xs a b`: the element just before the range precedes none in it. Every range the sort
  works on after the first has such an element, the pivot of an earlier partition, and some of
  its loops rely on it to stop at the start of the range.

A `Shuffled` step keeps a range's elements and everything outside it, so it keeps `Floor` and
every fact about the elements of the range (`Shuffled.forall`); sorted pieces join into a sorted
range when their elements are in order across the cut (`SortedOn.join`).
-/

namespace Stencil.PatternSort

variable {α : Type}

/-! ### Strict weak orders -/

/-- A comparison that is irreflexive and transitive, and whose negation is transitive too:
elements that neither precedes form classes of equals. -/
structure StrictWeak (lt : α → α → Bool) : Prop where
  irrefl : ∀ x, ¬ lt x x
  trans : ∀ {x y z}, lt x y → lt y z → lt x z
  not_trans : ∀ {x y z}, ¬ lt x y → ¬ lt y z → ¬ lt x z

namespace StrictWeak

variable {lt : α → α → Bool} (h : StrictWeak lt) {x y : α}
include h

lemma asymm (hxy : lt x y) : ¬ lt y x := fun hyx => h.irrefl x (h.trans hxy hyx)

end StrictWeak

/-! ### Elements and swaps -/

section Elements

variable {xs : Array α} {i j k : Nat}

@[simp] lemma size_swap : (swap xs i j).size = xs.size := Array.size_swapIfInBounds

lemma swap_perm (xs : Array α) (i j : Nat) : (swap xs i j).Perm xs := by
  rw [swap, Array.swapIfInBounds_def]
  split
  · split
    · exact Array.swap_perm _ _
    · exact .refl _
  · exact .refl _

variable [Inhabited α]

lemma elem_of_lt (hk : k < xs.size) : elem xs k = xs[k] := by
  simp [elem, Array.getD_eq_getD_getElem?, hk]

/-- A swap moves the elements at its two places, when both are in the array. -/
lemma elem_swap (xs : Array α) (i j k : Nat) :
    elem (swap xs i j) k =
      if i < xs.size ∧ j < xs.size then elem xs (if k = i then j else if k = j then i else k)
      else elem xs k := by
  simp only [elem, swap, Array.getD_eq_getD_getElem?]
  grind

lemma elem_swap_left (hi : i < xs.size) (hj : j < xs.size) : elem (swap xs i j) i = elem xs j := by
  simp [elem_swap, hi, hj]

lemma elem_swap_right (hi : i < xs.size) (hj : j < xs.size) :
    elem (swap xs i j) j = elem xs i := by
  rw [elem_swap, if_pos ⟨hi, hj⟩]
  by_cases hji : j = i
  · subst hji; simp
  · simp [hji]

lemma elem_swap_of_ne (hki : k ≠ i) (hkj : k ≠ j) : elem (swap xs i j) k = elem xs k := by
  simp [elem_swap, hki, hkj]

end Elements

variable [Inhabited α]

/-! ### Moving elements within a range -/

/-- `ys` is a permutation of `xs` that leaves every place outside `[a, b)` as it was, so the
elements of `[a, b)` moved among themselves. -/
structure Shuffled (a b : Nat) (xs ys : Array α) : Prop where
  perm : ys.Perm xs
  outside : ∀ k, k < a ∨ b ≤ k → elem ys k = elem xs k
  inside : ∀ k, a ≤ k → k < b → ∃ j, a ≤ j ∧ j < b ∧ elem ys k = elem xs j

namespace Shuffled

variable {a b c d : Nat} {xs ys zs : Array α}

lemma size_eq (h : Shuffled a b xs ys) : ys.size = xs.size := h.perm.size_eq

lemma refl (a b : Nat) (xs : Array α) : Shuffled a b xs xs :=
  ⟨.refl _, fun _ _ => rfl, fun k hak hkb => ⟨k, hak, hkb, rfl⟩⟩

lemma trans (h₁ : Shuffled a b xs ys) (h₂ : Shuffled a b ys zs) : Shuffled a b xs zs where
  perm := h₂.perm.trans h₁.perm
  outside k hk := (h₂.outside k hk).trans (h₁.outside k hk)
  inside k hak hkb := by
    obtain ⟨j, haj, hjb, hj⟩ := h₂.inside k hak hkb
    obtain ⟨l, hal, hlb, hl⟩ := h₁.inside j haj hjb
    exact ⟨l, hal, hlb, hj.trans hl⟩

/-- Moving elements within a range moves them within every range around it. -/
lemma widen (h : Shuffled a b xs ys) (hca : c ≤ a) (hbd : b ≤ d) : Shuffled c d xs ys where
  perm := h.perm
  outside k hk := h.outside k (by omega)
  inside k hck hkd := by
    by_cases hk : a ≤ k ∧ k < b
    · obtain ⟨j, haj, hjb, hj⟩ := h.inside k hk.1 hk.2
      exact ⟨j, by omega, by omega, hj⟩
    · exact ⟨k, hck, hkd, h.outside k (by omega)⟩

/-- Every fact about all elements of the range holds of them after they moved. -/
lemma «forall» (h : Shuffled a b xs ys) {P : α → Prop}
    (hP : ∀ k, a ≤ k → k < b → P (elem xs k)) : ∀ k, a ≤ k → k < b → P (elem ys k) := by
  intro k hak hkb
  obtain ⟨j, haj, hjb, hj⟩ := h.inside k hak hkb
  rw [hj]
  exact hP j haj hjb

end Shuffled

/-- A fold whose every step moves elements within a range moves elements within it. -/
lemma foldl_shuffled {β : Type} {a b : Nat} (arr : β → Array α) (f : β → Nat → β) (L : List Nat)
    (hf : ∀ s t, t ∈ L → Shuffled a b (arr s) (arr (f s t))) :
    ∀ s, Shuffled a b (arr s) (arr (L.foldl f s)) := by
  induction L with
  | nil => exact fun s => .refl _ _ _
  | cons t L ih =>
    intro s
    rw [List.foldl_cons]
    exact (hf s t List.mem_cons_self).trans
      (ih (fun s t ht => hf s t (List.mem_cons_of_mem _ ht)) _)

/-- A swap of two places of a range moves elements within it. -/
lemma shuffled_swap {a b i j : Nat} (xs : Array α) (hai : a ≤ i) (hib : i < b) (haj : a ≤ j)
    (hjb : j < b) : Shuffled a b xs (swap xs i j) where
  perm := swap_perm xs i j
  outside k hk := by
    rw [elem_swap]
    split <;> simp only [if_neg (show k ≠ i by omega), if_neg (show k ≠ j by omega)]
  inside k hak hkb := by
    rw [elem_swap]
    split
    · refine ⟨if k = i then j else if k = j then i else k, ?_, ?_, rfl⟩ <;> split_ifs <;> omega
    · exact ⟨k, hak, hkb, rfl⟩

/-! ### Sorted ranges -/

/-- No element of `[a, b)` precedes one that stands before it. -/
def SortedOn (lt : α → α → Bool) (xs : Array α) (a b : Nat) : Prop :=
  ∀ i j, a ≤ i → i < j → j < b → ¬ lt (elem xs j) (elem xs i)

/-- The element just before `[a, b)`, when there is one, precedes none of the range. -/
def Floor (lt : α → α → Bool) (xs : Array α) (a b : Nat) : Prop :=
  0 < a → ∀ k, a ≤ k → k < b → ¬ lt (elem xs k) (elem xs (a - 1))

section Sorted

variable {lt : α → α → Bool} {xs ys : Array α} {a b c d m : Nat}

lemma sortedOn_of_le (hab : b ≤ a + 1) : SortedOn lt xs a b := by
  intro i j hai hij hjb
  omega

lemma SortedOn.mono (h : SortedOn lt xs a b) (hac : a ≤ c) (hdb : d ≤ b) : SortedOn lt xs c d :=
  fun i j hci hij hjd => h i j (by omega) hij (by omega)

/-- Sortedness reads the elements of the range only. -/
lemma SortedOn.congr (h : SortedOn lt xs a b) (hxy : ∀ k, a ≤ k → k < b → elem ys k = elem xs k) :
    SortedOn lt ys a b := by
  intro i j hai hij hjb
  rw [hxy i hai (by omega), hxy j (by omega) hjb]
  exact h i j hai hij hjb

/-- Two sorted pieces make a sorted range when every element of the second follows or equals
every element of the first. -/
lemma SortedOn.join (h₁ : SortedOn lt xs a m) (h₂ : SortedOn lt xs m b)
    (hcross : ∀ i j, a ≤ i → i < m → m ≤ j → j < b → ¬ lt (elem xs j) (elem xs i)) :
    SortedOn lt xs a b := by
  intro i j hai hij hjb
  by_cases hjm : j < m
  · exact h₁ i j hai hij hjm
  · by_cases him : i < m
    · exact hcross i j hai him (by omega) hjb
    · exact h₂ i j (by omega) hij hjb

/-- A range in which no element precedes its neighbour on the left is sorted. -/
lemma sortedOn_of_adjacent (hlt : StrictWeak lt)
    (hadj : ∀ k, a < k → k < b → ¬ lt (elem xs k) (elem xs (k - 1))) : SortedOn lt xs a b := by
  intro i j hai hij hjb
  induction j with
  | zero => omega
  | succ j ih =>
    have hstep := hadj (j + 1) (by omega) hjb
    simp only [Nat.add_sub_cancel] at hstep
    by_cases hji : i = j
    · subst hji; exact hstep
    · exact hlt.not_trans hstep (ih (by omega) (by omega))

/-- No element of `[m, b)` precedes one of `[a, m)`: the two pieces are in order across `m`. -/
def Across (lt : α → α → Bool) (xs : Array α) (a m b : Nat) : Prop :=
  ∀ i j, a ≤ i → i < m → m ≤ j → j < b → ¬ lt (elem xs j) (elem xs i)

lemma Across.mono (h : Across lt xs a m b) (hac : a ≤ c) (hdb : d ≤ b) : Across lt xs c m d :=
  fun i j hci him hmj hjd => h i j (by omega) him hmj (by omega)

/-- Moving the elements of the left piece among themselves keeps the pieces in order. -/
lemma Across.shuffled_left (h : Across lt xs a m b) (hs : Shuffled a m xs ys) : Across lt ys a m b := by
  intro i j hai him hmj hjb
  obtain ⟨i', hai', him', hi'⟩ := hs.inside i hai him
  rw [hi', hs.outside j (.inr hmj)]
  exact h i' j hai' him' hmj hjb

/-- Moving the elements of the right piece among themselves keeps the pieces in order. -/
lemma Across.shuffled_right (h : Across lt xs a m b) (hs : Shuffled m b xs ys) : Across lt ys a m b := by
  intro i j hai him hmj hjb
  obtain ⟨j', hmj', hjb', hj'⟩ := hs.inside j hmj hjb
  rw [hj', hs.outside i (.inl him)]
  exact h i j' hai him hmj' hjb'

/-- The last element of the left piece is a floor of the right one. -/
lemma Across.floor (h : Across lt xs a m b) (ham : a < m) : Floor lt xs m b :=
  fun _ k hmk hkb => h (m - 1) k (by omega) (by omega) hmk hkb

/-- Sortedness of a range survives moving elements of a range apart from it. -/
lemma SortedOn.shuffled_apart (h : SortedOn lt xs a b) (hs : Shuffled c d xs ys)
    (hapart : b ≤ c ∨ d ≤ a) : SortedOn lt ys a b :=
  h.congr fun k hak hkb => hs.outside k (by omega)

/-- A floor survives moving elements of a range after it. -/
lemma Floor.shuffled_after (h : Floor lt xs a b) (hs : Shuffled c d xs ys) (hbc : b ≤ c) :
    Floor lt ys a b := by
  intro ha k hak hkb
  rw [hs.outside k (.inl (by omega)), hs.outside (a - 1) (.inl (by omega))]
  exact h ha k hak hkb

lemma Shuffled.floor (h : Shuffled a b xs ys) (hf : Floor lt xs a b) : Floor lt ys a b := by
  intro ha
  rw [h.outside (a - 1) (.inl (by omega))]
  exact h.forall (P := fun x => ¬ lt x (elem xs (a - 1))) (hf ha)

lemma Floor.mono (h : Floor lt xs a b) (hdb : d ≤ b) : Floor lt xs a d :=
  fun ha k hak hkd => h ha k hak (by omega)

end Sorted

end Stencil.PatternSort

import Stencil.Proofs.Sort.Range
/-!
# Insertion passes

Ranges of at most twelve elements are sorted by insertion: each element in turn sinks left past
the greater ones before it (`insertionSort_spec`). A range that choosing a pivot found in order
first gets a short insertion pass that moves at most five elements and tells whether the range is
now sorted (`partialInsertionSort_spec`). That pass shifts an element left without looking at the
start of the range; it stops there all the same, because the element before the range, an
earlier pivot, precedes nothing in it (`Floor`).

Both rest on one loop invariant, `Sinking`: the element that moves stands at `p`, what is before
it is sorted, and what it passed is sorted and follows it.
-/

namespace Stencil.PatternSort

variable {α : Type} [Inhabited α] {lt : α → α → Bool}

/-! ### Sinking one element -/

/-- An element sinking left from `k` through the sorted `[a, k)` stands at `p`: what is before it
is sorted, what it passed is sorted and follows it, and nothing it passed precedes anything
before it. -/
structure Sinking (lt : α → α → Bool) (xs : Array α) (a p k : Nat) : Prop where
  before : SortedOn lt xs a p
  passed : SortedOn lt xs (p + 1) (k + 1)
  across : ∀ i j, a ≤ i → i < p → p < j → j ≤ k → ¬ lt (elem xs j) (elem xs i)
  below : ∀ j, p < j → j ≤ k → lt (elem xs p) (elem xs j)

/-- An element that has not moved yet sinks from its own place. -/
lemma sinking_start {xs : Array α} {a k : Nat} (h : SortedOn lt xs a k) : Sinking lt xs a k k where
  before := h
  passed := sortedOn_of_le (by omega)
  across _ _ _ _ _ _ := by omega
  below _ _ _ := by omega

/-- One step of sinking: the element changes places with a greater one before it. -/
lemma Sinking.step {xs : Array α} {a q k : Nat} (hs : Sinking lt xs a (q + 1) k) (hk : k < xs.size)
    (haq : a ≤ q) (hq : q + 1 ≤ k) (hlt' : lt (elem xs (q + 1)) (elem xs q)) :
    Sinking lt (swap xs (q + 1) q) a q k := by
  have h1 : q + 1 < xs.size := by omega
  have h0 : q < xs.size := by omega
  -- Away from the two places of the swap nothing changed.
  have hfar : ∀ i, i ≠ q + 1 → i ≠ q → elem (swap xs (q + 1) q) i = elem xs i :=
    fun i hi hi' => elem_swap_of_ne hi hi'
  have hq1 : elem (swap xs (q + 1) q) (q + 1) = elem xs q := elem_swap_left h1 h0
  have hq0 : elem (swap xs (q + 1) q) q = elem xs (q + 1) := elem_swap_right h1 h0
  refine ⟨?_, ?_, ?_, ?_⟩
  · exact (hs.before.mono le_rfl (by omega)).congr fun i _ hi => hfar i (by omega) (by omega)
  · -- The element passed over now stands first among those passed, and follows none of them.
    refine SortedOn.join (m := q + 2) (sortedOn_of_le (by omega)) ?_ fun i j hi hi' hj hjk => ?_
    · exact hs.passed.congr fun i hi _ => hfar i (by omega) (by omega)
    · obtain rfl : i = q + 1 := by omega
      rw [hq1, hfar j (by omega) (by omega)]
      exact hs.across q j haq (by omega) (by omega) (by omega)
  · intro i j hai hiq hqj hjk
    rw [hfar i (by omega) (by omega)]
    rcases Nat.eq_or_lt_of_le (show q + 1 ≤ j by omega) with rfl | hj
    · rw [hq1]
      exact hs.before i q hai hiq (by omega)
    · rw [hfar j (by omega) (by omega)]
      exact hs.across i j hai (by omega) hj hjk
  · intro j hqj hjk
    rw [hq0]
    rcases Nat.eq_or_lt_of_le (show q + 1 ≤ j by omega) with rfl | hj
    · rw [hq1]; exact hlt'
    · rw [hfar j (by omega) (by omega)]
      exact hs.below j hj hjk

section Sink

variable (hlt : StrictWeak lt)
include hlt

/-- An element that stops sinking, at the start of the range or behind one it does not precede,
leaves the range sorted up to `k`. -/
lemma Sinking.sorted {xs : Array α} {a p k : Nat} (hs : Sinking lt xs a p k)
    (hstop : a < p → ¬ lt (elem xs p) (elem xs (p - 1))) : SortedOn lt xs a (k + 1) := by
  -- The element and what it passed form one sorted piece.
  have hrest : SortedOn lt xs p (k + 1) :=
    (sortedOn_of_le (by omega)).join hs.passed fun i j hpi hip hpj hjk => by
      obtain rfl : i = p := by omega
      exact hlt.asymm (hs.below j (by omega) (by omega))
  refine hs.before.join hrest fun i j hai hip hpj hjk => ?_
  rcases Nat.eq_or_lt_of_le hpj with rfl | hpj
  · -- The element follows what stands just before it, hence all that is before it.
    by_cases hi : i + 1 = p
    · subst hi
      exact hstop (by omega)
    · exact hlt.not_trans (hstop (by omega)) (hs.before i (p - 1) hai (by omega) (by omega))
  · exact hs.across i j hai hip hpj (by omega)

/-- Sinking the element at `p` within `[a, k]` sorts `[a, k]`, moving elements of it only. The
loop may look below `a` (when `lo < a`); the floor of the range stops it there. -/
lemma sink_spec {lo a b k : Nat} (hlo : lo ≤ a) (hkb : k < b) :
    ∀ (p : Nat) (xs : Array α), a ≤ p → p ≤ k → b ≤ xs.size → Sinking lt xs a p k →
      (lo < a → Floor lt xs a b) →
      Shuffled a (k + 1) xs (insertionSort.sink lt lo xs p) ∧
        SortedOn lt (insertionSort.sink lt lo xs p) a (k + 1) := by
  intro p
  induction p with
  | zero =>
    intro xs hap _ _ hs _
    simp only [insertionSort.sink]
    exact ⟨.refl _ _ _, hs.sorted hlt fun h => absurd h (by omega)⟩
  | succ q ih =>
    intro xs hap hpk hb hs hf
    simp only [insertionSort.sink]
    by_cases hc : lo < q + 1 ∧ lt (elem xs (q + 1)) (elem xs q)
    · rw [if_pos (by simpa using hc)]
      -- The floor keeps the element from moving in front of the range.
      have haq : a ≤ q := by
        by_contra hqa
        obtain rfl : a = q + 1 := by omega
        exact hf (by omega) (by omega) (q + 1) le_rfl (by omega) (by simpa using hc.2)
      have hsw : Shuffled a (k + 1) xs (swap xs (q + 1) q) :=
        shuffled_swap xs (by omega) (by omega) haq (by omega)
      obtain ⟨hsh, hsorted⟩ := ih (swap xs (q + 1) q) haq (by omega) (by simpa using hb)
        (hs.step (by omega) haq hpk hc.2) fun h => (hsw.widen le_rfl (by omega)).floor (hf h)
      exact ⟨hsw.trans hsh, hsorted⟩
    · rw [if_neg (by simpa using hc)]
      refine ⟨.refl _ _ _, hs.sorted hlt fun hap' => ?_⟩
      simpa using fun h => hc ⟨by omega, h⟩

/-- Sinking the element at `k` into the sorted `[a, k)` sorts `[a, k]`. -/
lemma sink_sorted {lo a b k : Nat} {xs : Array α} (hlo : lo ≤ a) (hak : a ≤ k) (hkb : k < b)
    (hb : b ≤ xs.size) (hs : SortedOn lt xs a k) (hf : lo < a → Floor lt xs a b) :
    Shuffled a (k + 1) xs (insertionSort.sink lt lo xs k) ∧
      SortedOn lt (insertionSort.sink lt lo xs k) a (k + 1) :=
  sink_spec hlt hlo hkb k xs hak le_rfl hb (sinking_start hs) hf

/-! ### Insertion sort -/

/-- Sinking the elements from `s` on in turn, into a range sorted up to `s`, sorts it further. -/
lemma foldl_sink {a b : Nat} :
    ∀ (n s : Nat) (xs : Array α), a < s → s + n ≤ b → b ≤ xs.size → SortedOn lt xs a s →
      Shuffled a b xs ((List.range' s n).foldl (insertionSort.sink lt a) xs) ∧
        SortedOn lt ((List.range' s n).foldl (insertionSort.sink lt a) xs) a (s + n) := by
  intro n
  induction n with
  | zero => exact fun s xs _ _ _ hs => ⟨.refl _ _ _, hs⟩
  | succ n ih =>
    intro s xs has hsn hb hs
    rw [List.range'_succ, List.foldl_cons]
    obtain ⟨hsh, hsorted⟩ := sink_sorted hlt le_rfl (by omega) (by omega) hb hs
      fun h => absurd h (lt_irrefl a)
    obtain ⟨hsh', hsorted'⟩ := ih (s + 1) _ (by omega) (by omega) (by rw [hsh.size_eq]; exact hb)
      hsorted
    exact ⟨(hsh.widen le_rfl (by omega)).trans hsh', by rwa [show s + (n + 1) = s + 1 + n by omega]⟩

/-- **Insertion sort** sorts `[a, b)`, moving elements within it only. -/
theorem insertionSort_spec {a b : Nat} {xs : Array α} (hab : a ≤ b) (hb : b ≤ xs.size) :
    Shuffled a b xs (insertionSort lt xs a b) ∧ SortedOn lt (insertionSort lt xs a b) a b := by
  unfold insertionSort
  by_cases hsmall : b ≤ a + 1
  · rw [show b - (a + 1) = 0 by omega, List.range'_zero, List.foldl_nil]
    exact ⟨.refl _ _ _, sortedOn_of_le hsmall⟩
  · have h := foldl_sink hlt (b - (a + 1)) (a + 1) xs (by omega) (by omega) hb (sortedOn_of_le le_rfl)
    rwa [show a + 1 + (b - (a + 1)) = b by omega] at h

end Sink

/-! ### The partial insertion pass -/

/-- The scan for the next element that precedes its neighbour on the left stops at one, or at the
end of the range, and every element it passed is in order with its neighbour. -/
lemma skip_spec (lt : α → α → Bool) {b : Nat} (xs : Array α) :
    ∀ (fuel i : Nat), i ≤ b → b ≤ fuel + i →
      i ≤ partialInsertionSort.skip lt b fuel xs i ∧ partialInsertionSort.skip lt b fuel xs i ≤ b ∧
      (∀ k, i ≤ k → k < partialInsertionSort.skip lt b fuel xs i →
        ¬ lt (elem xs k) (elem xs (k - 1))) ∧
      (partialInsertionSort.skip lt b fuel xs i < b →
        lt (elem xs (partialInsertionSort.skip lt b fuel xs i))
          (elem xs (partialInsertionSort.skip lt b fuel xs i - 1))) := by
  intro fuel
  induction fuel with
  | zero =>
    intro i hib hb
    simp only [partialInsertionSort.skip]
    exact ⟨le_rfl, hib, fun k hk hk' => by omega, fun h => by omega⟩
  | succ fuel ih =>
    intro i hib hb
    simp only [partialInsertionSort.skip]
    by_cases hc : i < b ∧ ¬ lt (elem xs i) (elem xs (i - 1))
    · rw [if_pos (by simpa using hc)]
      obtain ⟨h1, h2, h3, h4⟩ := ih (i + 1) (by omega) (by omega)
      refine ⟨by omega, h2, fun k hik hkr => ?_, h4⟩
      rcases Nat.eq_or_lt_of_le hik with rfl | hik
      · exact hc.2
      · exact h3 k hik hkr
    · rw [if_neg (by simpa using hc)]
      refine ⟨le_rfl, hib, fun k hk hk' => by omega, fun h => ?_⟩
      simpa [h] using hc

/-- Shifting an element right from `j` moves elements of `[j - 1, b)` only. -/
lemma shiftRight_shuffled {lo b : Nat} :
    ∀ (fuel : Nat) (xs : Array α) (j : Nat), lo < j →
      Shuffled lo b xs (partialInsertionSort.shiftRight lt b fuel xs j) := by
  intro fuel
  induction fuel with
  | zero => exact fun xs _ _ => by simpa [partialInsertionSort.shiftRight] using .refl _ _ _
  | succ fuel ih =>
    intro xs j hj
    simp only [partialInsertionSort.shiftRight]
    split
    · rename_i hc
      have hjb : j < b := by simp at hc; exact hc.1
      exact (shuffled_swap xs (by omega) hjb (by omega) (by omega)).trans (ih _ (j + 1) (by omega))
    · exact .refl _ _ _

/-- Shifting an element left is sinking it with no bound but the start of the array. -/
lemma shiftLeft_eq_sink : ∀ (j : Nat) (xs : Array α),
    partialInsertionSort.shiftLeft lt xs j = insertionSort.sink lt 0 xs j := by
  intro j
  induction j with
  | zero => intro xs; simp [partialInsertionSort.shiftLeft, insertionSort.sink]
  | succ j ih =>
    intro xs
    simp only [partialInsertionSort.shiftLeft, insertionSort.sink, ih]
    simp

section Partial

variable (hlt : StrictWeak lt)
include hlt

/-- Each round of the partial insertion pass keeps the range sorted up to where it stands, and
the pass reports the range sorted only when its scan reached the end. -/
lemma partialInsertionSort_go {a b : Nat} :
    ∀ (steps : Nat) (xs : Array α) (i : Nat), a < i → i ≤ b → b ≤ xs.size →
      SortedOn lt xs a i → Floor lt xs a b →
      Shuffled a b xs (partialInsertionSort.go lt a b steps xs i).2 ∧
        ((partialInsertionSort.go lt a b steps xs i).1 →
          SortedOn lt (partialInsertionSort.go lt a b steps xs i).2 a b) := by
  intro steps
  induction steps with
  | zero =>
    intro xs i _ _ _ _ _
    simp only [partialInsertionSort.go]
    exact ⟨.refl _ _ _, fun h => absurd h (by simp)⟩
  | succ steps ih =>
    intro xs i hai hib hb hs hf
    obtain ⟨hir, hrb, hpassed, hstop⟩ := skip_spec lt xs b i hib (by omega)
    set r := partialInsertionSort.skip lt b b xs i with hr
    -- The scan extends the sorted part to where it stopped.
    have hsr : SortedOn lt xs a r := sortedOn_of_adjacent hlt fun k hak hkr => by
      by_cases hki : k < i
      · exact hs (k - 1) k (by omega) (by omega) hki
      · exact hpassed k (by omega) hkr
    simp only [partialInsertionSort.go, ← hr]
    split
    · rename_i hrb'
      rw [hrb'] at hsr
      exact ⟨.refl _ _ _, fun _ => hsr⟩
    split
    · exact ⟨.refl _ _ _, fun h => absurd h (by simp)⟩
    rename_i hrb' _
    have hrlt : r < b := by omega
    have hinv := hstop hrlt
    -- The out-of-order pair changes places; the smaller one then sinks into the sorted part.
    set ys := swap xs r (r - 1) with hys
    have hsw : Shuffled a b xs ys := shuffled_swap xs (by omega) hrlt (by omega) (by omega)
    have hys_sorted : SortedOn lt ys a (r - 1) :=
      (hsr.mono le_rfl (by omega)).congr fun k _ hk => elem_swap_of_ne (by omega) (by omega)
    have hyb : b ≤ ys.size := by rw [hsw.size_eq]; exact hb
    obtain ⟨zs, hzs, hsz, hzsorted⟩ : ∃ zs,
        zs = (if r - a ≥ 2 then partialInsertionSort.shiftLeft lt ys (r - 1) else ys) ∧
        Shuffled a r ys zs ∧ SortedOn lt zs a r := by
      refine ⟨_, rfl, ?_⟩
      split
      · rw [shiftLeft_eq_sink]
        have h := sink_sorted hlt (Nat.zero_le a) (show a ≤ r - 1 by omega) (show r - 1 < b by omega)
          hyb hys_sorted fun _ => hsw.floor hf
        rwa [show r - 1 + 1 = r by omega] at h
      · exact ⟨.refl _ _ _, sortedOn_of_le (by omega)⟩
    rw [← hzs]
    -- The greater one shifts right, past the sorted part.
    obtain ⟨ws, hws, hsw'⟩ : ∃ ws,
        ws = (if b - r ≥ 2 then partialInsertionSort.shiftRight lt b b zs (r + 1) else zs) ∧
        Shuffled r b zs ws := by
      refine ⟨_, rfl, ?_⟩
      split
      · exact shiftRight_shuffled b zs (r + 1) (by omega)
      · exact .refl _ _ _
    rw [← hws]
    have hall : Shuffled a b xs ws :=
      (hsw.trans (hsz.widen le_rfl (by omega))).trans (hsw'.widen (by omega) le_rfl)
    have hws_sorted : SortedOn lt ws a r :=
      hzsorted.congr fun k _ hk => hsw'.outside k (.inl hk)
    obtain ⟨hsh, hres⟩ := ih ws r (by omega) (by omega) (by rw [hall.size_eq]; exact hb)
      hws_sorted (hall.floor hf)
    exact ⟨hall.trans hsh, hres⟩

/-- **The partial insertion pass** moves elements within `[a, b)` only, and when it reports the
range sorted, it is. -/
theorem partialInsertionSort_spec {a b : Nat} {xs : Array α} (hab : a < b) (hb : b ≤ xs.size)
    (hf : Floor lt xs a b) :
    Shuffled a b xs (partialInsertionSort lt xs a b).2 ∧
      ((partialInsertionSort lt xs a b).1 → SortedOn lt (partialInsertionSort lt xs a b).2 a b) :=
  partialInsertionSort_go hlt 5 xs (a + 1) (by omega) hab hb (sortedOn_of_le le_rfl) hf

end Partial

end Stencil.PatternSort

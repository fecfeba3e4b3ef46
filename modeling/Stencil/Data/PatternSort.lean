/-!
# Pattern-defeating quicksort

An unstable in-place sort of arrays by a strict order `lt`. Ranges of at most twelve elements are
sorted by insertion. Longer ranges are partitioned around a pivot: the median of three elements
at the quarter points, or on ranges of fifty and more the median of the medians of their
neighbourhoods. When every comparison that chose the pivot found its elements in order the range
is likely sorted already, and a short insertion pass may finish it; when every one found them out
of order the range is reversed first. A partition that leaves one side shorter than an eighth of
the range counts as unbalanced: the next range then has three elements swapped to fixed
pseudo-random places first, and after as many unbalanced partitions as the length of the array has
bits the range is heap sorted instead. A range whose elements are all at least the element before
it, the pivot of an earlier partition, is split into the elements equal to its pivot and the
greater ones.

Elements that neither precedes end up in the order these steps leave them in. That order is part
of what a caller sees when it sorts records by a key that repeats, so every step here is fixed:
each comparison, swap and pseudo-random choice.
-/

namespace Stencil.PatternSort

variable {α : Type} [Inhabited α]

/-- The element at an index, or the default element past the end. -/
def elem (xs : Array α) (i : Nat) : α := xs.getD i default

/-- Exchanges two elements. -/
def swap (xs : Array α) (i j : Nat) : Array α := xs.swapIfInBounds i j

/-- The first index from `i` on, at most `j + 1`, whose element `keep` rejects. -/
def climb (keep : α → Bool) (xs : Array α) (i j : Nat) : Nat :=
  go (j + 1 - i) i
where
  go : Nat → Nat → Nat
    | 0, i => i
    | fuel + 1, i => if i ≤ j && keep (elem xs i) then go fuel (i + 1) else i

/-- The last index from `j` down, at least `i - 1`, whose element `keep` rejects. -/
def descend (keep : α → Bool) (xs : Array α) (i j : Nat) : Nat :=
  go (j + 1 - i) j
where
  go : Nat → Nat → Nat
    | 0, j => j
    | fuel + 1, j => if i ≤ j && keep (elem xs j) then go fuel (j - 1) else j

/-- Sorts `[a, b)` by insertion: each element moves left past the greater ones before it. -/
def insertionSort (lt : α → α → Bool) (xs : Array α) (a b : Nat) : Array α :=
  (List.range' (a + 1) (b - (a + 1))).foldl sink xs
where
  sink (xs : Array α) : Nat → Array α
    | 0 => xs
    | j + 1 => if a < j + 1 && lt (elem xs (j + 1)) (elem xs j) then sink (swap xs (j + 1) j) j else xs

/-- Moves the element at `root` down the heap of `hi` elements stored from `first` until it is no
smaller than its children. -/
def siftDown (lt : α → α → Bool) (xs : Array α) (root hi first : Nat) : Array α :=
  go hi xs root
where
  go : Nat → Array α → Nat → Array α
    | 0, xs, _ => xs
    | fuel + 1, xs, root =>
      let child := 2 * root + 1
      if child ≥ hi then xs
      else
        let child :=
          if child + 1 < hi && lt (elem xs (first + child)) (elem xs (first + child + 1)) then child + 1
          else child
        if !lt (elem xs (first + root)) (elem xs (first + child)) then xs
        else go fuel (swap xs (first + root) (first + child)) child

/-- Sorts `[a, b)` as a heap: builds it greatest first, then moves the greatest to the end, one at a
time. -/
def heapSort (lt : α → α → Bool) (xs : Array α) (a b : Nat) : Array α :=
  let hi := b - a
  let xs := (List.range ((hi - 1) / 2 + 1)).reverse.foldl (fun xs i => siftDown lt xs i hi a) xs
  (List.range hi).reverse.foldl (fun xs i => siftDown lt (swap xs a (a + i)) 0 i a) xs

/-- The number of bits a number takes to write. -/
def bitLength (n : Nat) : Nat := if n = 0 then 0 else n.log2 + 1

/-- The next state of the shift-register generator that picks the swaps breaking patterns. -/
def nextRandom (r : UInt64) : UInt64 :=
  let r := r ^^^ (r <<< 13)
  let r := r ^^^ (r >>> 7)
  r ^^^ (r <<< 17)

/-- Swaps the three elements from just before the middle of `[a, b)` on with elements at
pseudo-random places, the generator seeded with the length, when the range has at least eight
elements. -/
def breakPatterns (xs : Array α) (a b : Nat) : Array α :=
  let length := b - a
  if length < 8 then xs
  else
    let modulus := Nat.pow 2 (bitLength length)
    let idx := a + (length / 4) * 2 - 1
    ((List.range 3).foldl (fun (xs, r) i =>
      let r := nextRandom r
      let other := r.toNat % modulus
      let other := if other ≥ length then other - length else other
      (swap xs (idx + i) (a + other), r)) (xs, length.toUInt64)).1

/-- What choosing a pivot found about the order of a range. -/
inductive Hint where
  | unknown
  | increasing
  | decreasing
deriving DecidableEq

/-- Two indices ordered by their elements, counting a swap when they were not. -/
def order2 (lt : α → α → Bool) (xs : Array α) (a b swaps : Nat) : Nat × Nat × Nat :=
  if lt (elem xs b) (elem xs a) then (b, a, swaps + 1) else (a, b, swaps)

/-- The index of the median of three elements, and the swaps counted finding it. -/
def median (lt : α → α → Bool) (xs : Array α) (a b c swaps : Nat) : Nat × Nat :=
  let (a, b, swaps) := order2 lt xs a b swaps
  let (b, _, swaps) := order2 lt xs b c swaps
  let (_, b, swaps) := order2 lt xs a b swaps
  (b, swaps)

/-- The index of the pivot of `[a, b)`, and what choosing it found: the range increasing when no
comparison swapped, decreasing when all twelve of the largest choice did. -/
def choosePivot (lt : α → α → Bool) (xs : Array α) (a b : Nat) : Nat × Hint :=
  let l := b - a
  let i := a + l / 4
  let j := a + l / 4 * 2
  let k := a + l / 4 * 3
  let (j, swaps) :=
    if l ≥ 8 then
      let (i, j, k, swaps) :=
        if l ≥ 50 then
          let (i, s) := median lt xs (i - 1) i (i + 1) 0
          let (j, s) := median lt xs (j - 1) j (j + 1) s
          let (k, s) := median lt xs (k - 1) k (k + 1) s
          (i, j, k, s)
        else (i, j, k, 0)
      median lt xs i j k swaps
    else (j, 0)
  (j, if swaps = 0 then .increasing else if swaps = 12 then .decreasing else .unknown)

/-- Reverses `[a, b)`. -/
def reverseRange (xs : Array α) (a b : Nat) : Array α :=
  (List.range ((b - a) / 2)).foldl (fun xs t => swap xs (a + t) (b - 1 - t)) xs

/-- Tries to finish sorting `[a, b)` by moving at most five elements that are out of order, and
only on ranges of fifty and more; tells whether the range is sorted. -/
def partialInsertionSort (lt : α → α → Bool) (xs : Array α) (a b : Nat) : Bool × Array α :=
  go 5 xs (a + 1)
where
  go : Nat → Array α → Nat → Bool × Array α
    | 0, xs, _ => (false, xs)
    | steps + 1, xs, i =>
      let i := skip b xs i
      if i = b then (true, xs)
      else if b - a < 50 then (false, xs)
      else
        let xs := swap xs i (i - 1)
        let xs := if i - a ≥ 2 then shiftLeft xs (i - 1) else xs
        let xs := if b - i ≥ 2 then shiftRight b xs (i + 1) else xs
        go steps xs i
  skip : Nat → Array α → Nat → Nat
    | 0, _, i => i
    | fuel + 1, xs, i => if i < b && !lt (elem xs i) (elem xs (i - 1)) then skip fuel xs (i + 1) else i
  shiftLeft (xs : Array α) : Nat → Array α
    | 0 => xs
    | j + 1 => if lt (elem xs (j + 1)) (elem xs j) then shiftLeft (swap xs (j + 1) j) j else xs
  shiftRight : Nat → Array α → Nat → Array α
    | 0, xs, _ => xs
    | fuel + 1, xs, j =>
      if j < b && lt (elem xs j) (elem xs (j - 1)) then shiftRight fuel (swap xs j (j - 1)) (j + 1)
      else xs

/-- Partitions `[a, b)` around the element at `pivot`: the smaller elements before it, the others
after it. Returns its new index, whether nothing had to move, and the array. -/
def partition (lt : α → α → Bool) (xs : Array α) (a b pivot : Nat) : Nat × Bool × Array α :=
  let xs := swap xs a pivot
  let p := elem xs a
  let i := climb (lt · p) xs (a + 1) (b - 1)
  let j := descend (!lt · p) xs i (b - 1)
  if i > j then (j, true, swap xs j a)
  else
    let (j, xs) := go (b + 1) (swap xs i j) (i + 1) (j - 1)
    (j, false, swap xs j a)
where
  go : Nat → Array α → Nat → Nat → Nat × Array α
    | 0, xs, _, j => (j, xs)
    | fuel + 1, xs, i, j =>
      let p := elem xs a
      let i := climb (lt · p) xs i j
      let j := descend (!lt · p) xs i j
      if i > j then (j, xs) else go fuel (swap xs i j) (i + 1) (j - 1)

/-- Partitions `[a, b)`, which holds nothing smaller than the element at `pivot`, into the elements
equal to it and the greater ones; returns where the greater ones start, and the array. -/
def partitionEqual (lt : α → α → Bool) (xs : Array α) (a b pivot : Nat) : Nat × Array α :=
  go (b + 1) (swap xs a pivot) (a + 1) (b - 1)
where
  go : Nat → Array α → Nat → Nat → Nat × Array α
    | 0, xs, i, _ => (i, xs)
    | fuel + 1, xs, i, j =>
      let p := elem xs a
      let i := climb (!lt p ·) xs i j
      let j := descend (lt p ·) xs i j
      if i > j then (i, xs) else go fuel (swap xs i j) (i + 1) (j - 1)

/-- Sorts `[a, b)`, allowed `limit` more unbalanced partitions, knowing whether the last partition
was balanced and whether it found its range partitioned already. Every call sorts a shorter range
than the one before, so `fuel` one more than the length suffices. -/
def sortRange (lt : α → α → Bool) :
    Nat → Array α → Nat → Nat → Nat → Bool → Bool → Array α
  | 0, xs, _, _, _, _, _ => xs
  | fuel + 1, xs, a, b, limit, balanced, partitioned =>
    let length := b - a
    if length ≤ 12 then insertionSort lt xs a b
    else if limit = 0 then heapSort lt xs a b
    else
      let (xs, limit) := if balanced then (xs, limit) else (breakPatterns xs a b, limit - 1)
      let (pivot, hint) := choosePivot lt xs a b
      let (xs, pivot, hint) :=
        if hint = .decreasing then (reverseRange xs a b, b - 1 - (pivot - a), Hint.increasing)
        else (xs, pivot, hint)
      let (sorted, xs) :=
        if balanced && partitioned && hint = .increasing then partialInsertionSort lt xs a b
        else (false, xs)
      if sorted then xs
      else if a > 0 && !lt (elem xs (a - 1)) (elem xs pivot) then
        let (mid, xs) := partitionEqual lt xs a b pivot
        sortRange lt fuel xs mid b limit balanced partitioned
      else
        let (mid, already, xs) := partition lt xs a b pivot
        let threshold := length / 8
        if mid - a < b - mid then
          let xs := sortRange lt fuel xs a mid limit true true
          sortRange lt fuel xs (mid + 1) b limit (mid - a ≥ threshold) already
        else
          let xs := sortRange lt fuel xs (mid + 1) b limit true true
          sortRange lt fuel xs a mid limit (b - mid ≥ threshold) already

/-- Sorts an array by a strict order, allowed as many unbalanced partitions as its length has
bits. -/
def sort (lt : α → α → Bool) (xs : Array α) : Array α :=
  sortRange lt (xs.size + 1) xs 0 xs.size (bitLength xs.size) true true

end Stencil.PatternSort

import Stencil.Text.Scan
import Mathlib.Data.List.Infix
/-!
# First occurrences and leftmost matches

Literal search cuts a text at the first occurrence of a pattern (`Text.breakOn`), and a scan takes
the leftmost match of a recogniser (`Text.firstMatch`). The directive handlers are built from the
two, and the proofs about them cite these specifications instead of unfolding the searches:

* `breakOn_eq_some_iff`: `breakOn pat s = some (a, b)` exactly when `s = a ++ pat ++ b` and `pat`
  occurs at no cut further left (`FirstAt`); `replaceFirst_of_firstAt` puts the replacement there;
* `firstMatch_eq_some`: the leftmost match is preceded by no position where the recogniser
  matches, and `firstMatch_eq_none` says there is none at all;
* `blockAt_of_eq_block` and `blockAt_eq_some`: a delimited block is recognised wherever a text starts
  with one, with the shortest body there.
-/

namespace Stencil.Text

/-! ### First occurrences -/

/-- `pat` occurs in `s` at the cut `s = a ++ pat ++ b`, and at no cut further left. -/
def FirstAt (pat s a b : List Char) : Prop :=
  s = a ++ pat ++ b ∧ ∀ a' b', s = a' ++ pat ++ b' → a.length ≤ a'.length

variable {pat s a b : List Char}

lemma prefix_split (h : pat.isPrefixOf s = true) : s = pat ++ s.drop pat.length :=
  (List.prefix_iff_eq_append.mp (List.isPrefixOf_iff_prefix.mp h)).symm

lemma breakOn_of_firstAt : ∀ {s a : List Char}, FirstAt pat s a b → breakOn pat s = some (a, b)
  | [], a, h => by
    obtain ⟨ha, hp, hb⟩ : a = [] ∧ pat = [] ∧ b = [] := by simpa using h.1.symm
    subst ha hp hb
    rfl
  | c :: cs, a, h => by
    unfold breakOn
    split
    · rename_i hp
      -- The pattern starts the text, so the first cut is empty.
      have ha : a.length ≤ 0 := h.2 [] _ (by simpa using prefix_split hp)
      obtain rfl : a = [] := List.eq_nil_of_length_eq_zero (Nat.le_zero.1 ha)
      rw [h.1]
      simp
    · rename_i hp
      cases a with
      | nil =>
        exact absurd (List.isPrefixOf_iff_prefix.2 ⟨b, by simpa using h.1.symm⟩) hp
      | cons x a =>
        obtain ⟨hx, hcs⟩ : c = x ∧ cs = a ++ (pat ++ b) := by simpa using h.1
        subst hx
        have hrest : FirstAt pat cs a b := ⟨by simp [hcs], fun a' b' h' => by
          have := h.2 (c :: a') b' (by simp [h'])
          simpa using this⟩
        rw [breakOn_of_firstAt hrest]
        rfl

lemma firstAt_of_breakOn : ∀ {s a b : List Char}, breakOn pat s = some (a, b) → FirstAt pat s a b
  | [], a, b, h => by
    unfold breakOn at h
    split at h
    · rename_i hp
      cases h
      simp only [List.isEmpty_iff] at hp
      subst hp
      exact ⟨rfl, fun _ _ _ => Nat.zero_le _⟩
    · cases h
  | c :: cs, a, b, h => by
    unfold breakOn at h
    split at h
    · rename_i hp
      cases h
      exact ⟨by simpa using prefix_split hp, fun _ _ _ => Nat.zero_le _⟩
    · rename_i hp
      obtain ⟨⟨a', b'⟩, hcs, heq⟩ := Option.map_eq_some_iff.1 h
      cases heq
      have ih := firstAt_of_breakOn hcs
      refine ⟨by simp [ih.1], fun a'' b'' h'' => ?_⟩
      cases a'' with
      | nil => exact absurd (List.isPrefixOf_iff_prefix.2 ⟨b'', by simpa using h''.symm⟩) hp
      | cons x a'' =>
        obtain ⟨-, hcs'⟩ : c = x ∧ cs = a'' ++ pat ++ b'' := by simpa using h''
        simpa using ih.2 a'' b'' hcs'

/-- Literal search finds exactly the first occurrence. -/
theorem breakOn_eq_some_iff : breakOn pat s = some (a, b) ↔ FirstAt pat s a b :=
  ⟨firstAt_of_breakOn, breakOn_of_firstAt⟩

/-- The first occurrence is one: its cut is determined by the text. -/
lemma FirstAt.unique {a' b' : List Char} (h : FirstAt pat s a b) (h' : FirstAt pat s a' b') :
    a = a' ∧ b = b' := by
  have hlen : a.length = a'.length := Nat.le_antisymm (h.2 a' b' h'.1) (h'.2 a b h.1)
  have hs : a ++ (pat ++ b) = a' ++ (pat ++ b') := by simpa using h.1.symm.trans h'.1
  obtain ⟨ha, hb⟩ := List.append_inj hs hlen
  exact ⟨ha, List.append_cancel_left hb⟩

/-- Replacing the first occurrence puts the replacement at its cut. -/
lemma replaceFirst_of_firstAt {rep : List Char} (h : FirstAt pat s a b) :
    replaceFirst pat rep s = a ++ rep ++ b := by
  rw [replaceFirst, breakOn_of_firstAt h]

/-- Replacing in a string replaces in its characters. -/
@[simp] lemma toList_replaceOnce (s p r : String) :
    (replaceOnce s p r).toList = replaceFirst p.toList r.toList s.toList := by
  simp [replaceOnce]

/-- A pattern that occurs is found. -/
lemma breakOn_isSome : ∀ {s u w : List Char}, s = u ++ pat ++ w → (breakOn pat s).isSome
  | [], u, w, h => by
    obtain ⟨-, hp, -⟩ : u = [] ∧ pat = [] ∧ w = [] := by simpa using h.symm
    simp [breakOn, hp]
  | c :: cs, u, w, h => by
    unfold breakOn
    split
    · rfl
    · rename_i hp
      cases u with
      | nil => exact absurd (List.isPrefixOf_iff_prefix.2 ⟨w, by simpa using h.symm⟩) hp
      | cons x u =>
        obtain ⟨-, hcs⟩ : c = x ∧ cs = u ++ pat ++ w := by simpa using h
        simpa using breakOn_isSome hcs

/-- A cut that ends before `u` does is a cut of `u` followed by anything. -/
lemma cut_of_prefix {u v p m t : List Char} (h : u ++ v = p ++ m ++ t)
    (hl : p.length + m.length ≤ u.length) (v' : List Char) : ∃ t', u ++ v' = p ++ m ++ t' := by
  have hpre : p ++ m <+: u :=
    List.prefix_of_prefix_length_le ⟨t, h.symm⟩ (List.prefix_append u v) (by simpa using hl)
  obtain ⟨r, hr⟩ := hpre
  exact ⟨r ++ v', by simp [← hr]⟩

/-- Two cuts of one text, the first no longer than the second: the second extends the first. -/
lemma split_of_length_le {l₁ l₂ a r : List Char} (h : l₁ ++ l₂ = a ++ r) (hl : l₁.length ≤ a.length) :
    ∃ q, a = l₁ ++ q ∧ l₂ = q ++ r := by
  rcases List.append_eq_append_iff.1 h with ⟨q, ha, hr⟩ | ⟨q, hl₁, hr⟩
  · exact ⟨q, ha, hr⟩
  · -- The first cut is no longer, so the piece between them is empty.
    have hq : q = [] := List.eq_nil_of_length_eq_zero (by
      have hlen := congrArg List.length hl₁
      rw [List.length_append] at hlen
      omega)
    subst hq
    exact ⟨[], by simpa using hl₁.symm, by simpa using hr.symm⟩

/-- A first occurrence stays first whatever follows it. -/
lemma FirstAt.of_tail (h : FirstAt pat s a b) (v : List Char) : FirstAt pat (a ++ pat ++ v) a v := by
  refine ⟨rfl, fun p t hc => Nat.le_of_not_lt fun hlt => ?_⟩
  -- An earlier copy would end inside `a ++ pat`, so it would be a copy in `s` too.
  obtain ⟨t', ht'⟩ := cut_of_prefix (u := a ++ pat) hc (by rw [List.length_append]; omega) b
  exact absurd (h.2 p t' (by rw [h.1, ht'])) (Nat.not_le.2 hlt)

/-! ### Leftmost matches -/

section Scan

variable {α : Type} {m : Recogniser α}

/-- The leftmost match: the text is the part before it and the match with what follows, and the
recogniser matches at no position before it. -/
lemma firstMatch_eq_some : ∀ {s pre : List Char} {v : α} {post : List Char},
    firstMatch m s = some (pre, v, post) →
      ∃ rest n, s = pre ++ rest ∧ m rest = some (v, n + 1) ∧ post = rest.drop (n + 1) ∧
        ∀ i < pre.length, ∀ v' k, m (s.drop i) ≠ some (v', k + 1)
  | [], _, _, _, h => by simp [firstMatch] at h
  | c :: cs, pre, v, post, h => by
    unfold firstMatch at h
    split at h
    · rename_i v₀ n hm
      cases h
      exact ⟨c :: cs, n, rfl, hm, rfl, fun i hi => absurd hi (Nat.not_lt_zero i)⟩
    · rename_i hno
      obtain ⟨⟨pre', v', post'⟩, hcs, heq⟩ := Option.map_eq_some_iff.1 h
      cases heq
      obtain ⟨rest, n, hs, hm, hpost, hbefore⟩ := firstMatch_eq_some hcs
      refine ⟨rest, n, by simp [hs], hm, hpost, fun i hi v'' k => ?_⟩
      cases i with
      | zero => exact hno v'' k
      | succ i => exact hbefore i (by simpa using hi) v'' k

/-- Without a leftmost match the recogniser matches at no position of the text. -/
lemma firstMatch_eq_none : ∀ {s : List Char}, firstMatch m s = none →
    ∀ i < s.length, ∀ v k, m (s.drop i) ≠ some (v, k + 1)
  | [], _, i, hi => absurd hi (Nat.not_lt_zero i)
  | c :: cs, h, i, hi => by
    unfold firstMatch at h
    split at h
    · cases h
    · rename_i hno
      cases i with
      | zero => exact hno
      | succ i =>
        exact firstMatch_eq_none (Option.map_eq_none_iff.1 h) i (by simpa using hi)

end Scan

/-! ### Delimited blocks -/

section Blocks

variable {opener closer : List Char}

/-- A text that starts with a block of a nonempty body is recognised as a block. -/
lemma blockAt_of_eq_block {body t s : List Char} (hb : body ≠ [])
    (h : s = opener ++ body ++ closer ++ t) : ∃ v n, blockAt opener closer s = some (v, n + 1) := by
  obtain ⟨c, body', rfl⟩ := List.exists_cons_of_ne_nil hb
  have hop : opener.isPrefixOf s = true :=
    List.isPrefixOf_iff_prefix.2 ⟨c :: body' ++ closer ++ t, by simp [h]⟩
  have hdrop : s.drop opener.length = c :: (body' ++ closer ++ t) := by simp [h]
  obtain ⟨⟨b', t'⟩, hbr⟩ := Option.isSome_iff_exists.1 (@breakOn_isSome closer _ body' t rfl)
  refine ⟨c :: b', opener.length + b'.length + closer.length, ?_⟩
  simp only [blockAt, hop, if_true, hdrop, hbr]
  congr 2
  omega

/-- A recognised block: the opener, a body of one character and then up to the first closer, and
the closer. -/
lemma blockAt_eq_some {s v : List Char} {n : Nat} (h : blockAt opener closer s = some (v, n)) :
    ∃ c body t, v = c :: body ∧ s = opener ++ (c :: body) ++ closer ++ t ∧
      n = opener.length + 1 + body.length + closer.length ∧ FirstAt closer (body ++ closer ++ t) body t := by
  unfold blockAt at h
  split at h
  · rename_i hop
    split at h
    · cases h
    · rename_i c rest hrest
      split at h
      · cases h
      · rename_i body t hbr
        cases h
        have hfirst := firstAt_of_breakOn hbr
        have hr := hfirst.1
        subst hr
        refine ⟨c, body, t, rfl, ?_, rfl, hfirst⟩
        rw [prefix_split hop, hrest]
        simp
  · cases h

end Blocks

end Stencil.Text

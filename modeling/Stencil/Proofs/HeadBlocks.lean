import Stencil.Proofs.Occurrence
import Stencil.Proofs.Render
import Stencil.Directive.Handlers
/-!
# Collecting head blocks

The head substitution finds the blocks `[[body]]` of a text by a leftmost scan, then deletes each
block by the first copy of its text in what the earlier deletions left, and last puts the bodies,
each with the leading blanks of its lines removed, at every `%%Head%%`.

Deleting by text deletes every block where the scan found it (`collectHead_deletes_matched_blocks`):
the result is the text with the matched blocks cut out in place. The deletions keep the text before
the current block free of block starts (`NoBlockBefore`), so the first copy of the block's text is
the block itself (`NoBlockBefore.firstAt`). Cutting a block out forms no new start in the kept
text (`NoBlockBefore.delete`): a block starting there begins with `[[`, and a `[[` in the kept
text, or a `[` at its end, would have started a block before the one the scan found.
-/

namespace Stencil

open Text

/-- The recogniser of head blocks `[[body]]`, with the shortest nonempty body. -/
def headBlock : Recogniser (List Char) := blockAt ['[', '['] [']', ']']

/-- No head block starts at a position of `s` before `n`. -/
def NoBlockBefore (n : Nat) (s : List Char) : Prop :=
  ∀ i < n, ∀ v k, headBlock (s.drop i) ≠ some (v, k + 1)

namespace Text

variable {α : Type} {m : Recogniser α} {f : α → List Char} {c : Char} {cs : List Char}

lemma replaceMatches_of_some {v : α} {n : Nat} (h : m (c :: cs) = some (v, n + 1)) :
    replaceMatches m f (c :: cs) = f v ++ replaceMatches m f ((c :: cs).drop (n + 1)) := by
  rw [replaceMatches, h]

lemma allMatches_cons_of_some {v : α} {n : Nat} (h : m (c :: cs) = some (v, n + 1)) :
    allMatches m (c :: cs) = v :: allMatches m ((c :: cs).drop (n + 1)) := by
  rw [allMatches, h]

lemma replaceMatches_of_no_match (h : ∀ v (n : Nat), m (c :: cs) = some (v, n + 1) → False) :
    replaceMatches m f (c :: cs) = c :: replaceMatches m f cs := by
  rw [replaceMatches]
  split
  · rename_i v n hm
    exact absurd hm (h v n)
  · rfl

end Text

section Kept

variable {G t v : List Char}

/-- Where no block starts before a block, the first copy of the block's text is the block. -/
lemma NoBlockBefore.firstAt (h : NoBlockBefore G.length (G ++ (['[', '['] ++ v ++ [']', ']']) ++ t))
    (hv : v ≠ []) :
    FirstAt (['[', '['] ++ v ++ [']', ']']) (G ++ (['[', '['] ++ v ++ [']', ']']) ++ t) G t := by
  refine ⟨rfl, fun a b hab => Nat.le_of_not_lt fun hlt => ?_⟩
  -- A copy starting further left is a block starting there.
  obtain ⟨w, k, hw⟩ := @blockAt_of_eq_block ['[', '['] [']', ']'] v b
    ((G ++ (['[', '['] ++ v ++ [']', ']']) ++ t).drop a.length) hv (by rw [hab]; simp)
  exact h a.length hlt w k hw

/-- Cutting a block out of a text leaves the text before it free of block starts. -/
lemma NoBlockBefore.delete (h : NoBlockBefore G.length (G ++ (['[', '['] ++ v ++ [']', ']']) ++ t)) :
    NoBlockBefore G.length (G ++ t) := by
  intro i hi w k hw
  obtain ⟨c, body, t', -, hs, -, -⟩ := blockAt_eq_some hw
  rw [List.drop_append_of_le_length hi.le] at hs
  -- The kept text from `i` on starts with `[[`, or is a single `[` before a `[`: followed by the
  -- block cut out, it starts a block.
  obtain ⟨body', hne, hbody'⟩ : ∃ body', body' ≠ [] ∧
      G.drop i ++ (['[', '['] ++ v ++ [']', ']']) ++ t = ['[', '['] ++ body' ++ [']', ']'] ++ t := by
    match hx : G.drop i, hs with
    | [], _ =>
      have hlen := congrArg List.length hx
      rw [List.length_drop, List.length_nil] at hlen
      omega
    | [a], hs =>
      obtain rfl : a = '[' := by simpa using congrArg List.head? hs
      exact ⟨'[' :: v, List.cons_ne_nil _ _, by simp⟩
    | a :: b :: x, hs =>
      obtain ⟨rfl, rfl, -⟩ : a = '[' ∧ b = '[' ∧ _ := by simpa using hs
      exact ⟨x ++ ['[', '['] ++ v, by simp, by simp⟩
  have hdrop : (G ++ (['[', '['] ++ v ++ [']', ']']) ++ t).drop i =
      G.drop i ++ (['[', '['] ++ v ++ [']', ']']) ++ t := by
    rw [List.append_assoc G, List.drop_append_of_le_length hi.le]
    simp only [List.append_assoc]
  obtain ⟨w', k', hw'⟩ := @blockAt_of_eq_block ['[', '['] [']', ']'] body' t
    ((G ++ (['[', '['] ++ v ++ [']', ']']) ++ t).drop i) hne (by rw [hdrop, hbody'])
  exact h i hi w' k' hw'

/-- A position where no block starts joins the text kept before it. -/
lemma NoBlockBefore.extend {c : Char} {cs : List Char} (h : NoBlockBefore G.length (G ++ c :: cs))
    (hc : ∀ w (k : Nat), headBlock (c :: cs) = some (w, k + 1) → False) :
    NoBlockBefore (G ++ [c]).length (G ++ [c] ++ cs) := by
  intro i hi w k
  rw [List.append_assoc, List.singleton_append]
  rcases Nat.lt_or_ge i G.length with hlt | hge
  · exact h i hlt w k
  · obtain rfl : i = G.length := by
      rw [List.length_append, List.length_singleton] at hi
      omega
    rw [List.drop_left]
    exact hc w k

end Kept

/-- **Deleting by text deletes in place.** The head substitution's loop, started from a text whose
part `G` before the rest `s` holds no block start, deletes the blocks of `s` where the scan finds
them, and adds their bodies, without the leading blanks of their lines, to the head in order. -/
lemma foldl_collectHead {f : String × String → List Char → String × String}
    (hf : ∀ text head body, f (text, head) body =
      (replaceOnce text (String.ofList (['[', '['] ++ body ++ [']', ']'])) "",
        head ++ String.ofList (stripIndent body)))
    (s : List Char) :
    ∀ (G : List Char) (text head : String), text.toList = G ++ s → NoBlockBefore G.length (G ++ s) →
      ((allMatches headBlock s).foldl f (text, head)).1.toList =
          G ++ replaceMatches headBlock (fun _ => []) s ∧
        ((allMatches headBlock s).foldl f (text, head)).2 =
          head ++ String.ofList ((allMatches headBlock s).flatMap stripIndent) := by
  fun_induction allMatches headBlock s with
  | case1 =>
    intro G text head htext _
    simp [htext]
  | case2 c cs v n hm ih =>
    intro G text head htext hno
    obtain ⟨c', body, t, rfl, hcs, hn, -⟩ := blockAt_eq_some hm
    have hrest : (c :: cs).drop (n + 1) = t := by
      rw [hcs]
      apply List.drop_left'
      simp only [List.length_append, List.length_cons, List.length_nil] at hn ⊢
      omega
    rw [hrest] at ih
    rw [hcs, ← List.append_assoc] at hno
    -- The block is the first copy of its text, so deleting it keeps `G` and goes on with `t`.
    have hdel : (replaceOnce text (String.ofList (['[', '['] ++ c' :: body ++ [']', ']'])) "").toList =
        G ++ t := by
      rw [toList_replaceOnce, String.toList_ofList, htext, hcs, ← List.append_assoc,
        replaceFirst_of_firstAt (hno.firstAt (List.cons_ne_nil _ _))]
      simp
    obtain ⟨h₁, h₂⟩ := ih G _ _ hdel hno.delete
    rw [List.foldl_cons, hf, Text.replaceMatches_of_some hm, hrest]
    refine ⟨by simpa using h₁, ?_⟩
    rw [h₂, List.flatMap_cons, String.ofList_append, String.append_assoc]
  | case3 c cs hm ih =>
    intro G text head htext hno
    obtain ⟨h₁, h₂⟩ := ih (G ++ [c]) text head (by simp [htext]) (hno.extend hm)
    rw [Text.replaceMatches_of_no_match hm]
    exact ⟨by simpa using h₁, h₂⟩

/-- **Head blocks are cut out where they were found.** Collecting the head blocks of a text gives
the text with every block `[[body]]` of a leftmost, non-overlapping scan cut out in place, and
every `%%Head%%` in it replaced by the bodies in order, each without the leading blanks of its
lines: deleting each block by the first copy of its text deletes it at its matched position. -/
theorem collectHead_deletes_matched_blocks (content : String) :
    collectHead content =
      replaceEach (String.ofList (replaceMatches headBlock (fun _ => []) content.toList)) "%%Head%%"
        (String.ofList ((allMatches headBlock content.toList).flatMap stripIndent)) := by
  obtain ⟨f, hdef, hf⟩ : ∃ f : String × String → List Char → String × String,
      collectHead content = replaceEach ((allMatches headBlock content.toList).foldl f (content, "")).1
        "%%Head%%" ((allMatches headBlock content.toList).foldl f (content, "")).2 ∧
      ∀ text head body, f (text, head) body =
        (replaceOnce text (String.ofList (['[', '['] ++ body ++ [']', ']'])) "",
          head ++ String.ofList (stripIndent body)) :=
    ⟨_, rfl, fun _ _ _ => rfl⟩
  obtain ⟨h₁, h₂⟩ := foldl_collectHead hf content.toList [] content "" rfl
    (fun i hi => absurd hi (Nat.not_lt_zero i))
  have hkept : ((allMatches headBlock content.toList).foldl f (content, "")).1 =
      String.ofList (replaceMatches headBlock (fun _ => []) content.toList) := by
    apply String.toList_injective
    rw [h₁, String.toList_ofList, List.nil_append]
  rw [hdef, hkept, h₂, String.empty_append]

/-- Blocks after the head go to it in order, without the blanks that start their lines. -/
example : collectHead "<head>%%Head%%</head>[[\n  <title>A</title>]]<p/>[[  <meta/>]]" =
    "<head><title>A</title><meta/></head><p/>" := by
  decide +kernel

end Stencil

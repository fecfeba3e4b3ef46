import Stencil.Directive.Handlers
import Stencil.Proofs.Occurrence
/-!
# Moving a placeholder block

`%%Placeholder=N%%` moves the first block `[N]b[/N]` of a text to the token. The handler finds the
block by a leftmost scan, puts its body in place of the first occurrence of the token, and then
deletes the first occurrence of the block's text in what that gives.

The block found is the first block of the text, with the shortest body there; a text without a
block is kept as it is (`placeholderMove_moves_first_block`). When the token comes after the block,
the block is deleted where it stood and its body put at the token. When the token comes before it,
the same holds as long as moving the body forms no copy of the block's text that starts before the
end of the moved body. Such a copy does form when the text before the token ends like the block's
opener and the text after it goes on like the body and the closer, and then the copy is deleted in
place of the block (`placeholder_deletes_formed_copy`).
-/

namespace Stencil

open Text

section Located

variable {N : String} {content B b : String}

/-- The block found is the first block of the text, with the shortest body there. -/
lemma placeholderBlock_eq_some (h : placeholderBlock N content = some (B, b)) :
    ∃ X Z, content.toList = X ++ B.toList ++ Z ∧
      B.toList = ("[" ++ N ++ "]").toList ++ b.toList ++ ("[/" ++ N ++ "]").toList ∧ b.toList ≠ [] ∧
      (∀ p body t, content.toList = p ++ ("[" ++ N ++ "]").toList ++ body ++ ("[/" ++ N ++ "]").toList ++ t →
        body ≠ [] → X.length ≤ p.length) ∧
      (∀ body t, B.toList ++ Z = ("[" ++ N ++ "]").toList ++ body ++ ("[/" ++ N ++ "]").toList ++ t →
        body ≠ [] → b.toList.length ≤ body.length) := by
  unfold placeholderBlock at h
  dsimp only at h
  split at h
  · rename_i pre body post hfm
    obtain ⟨rfl, rfl⟩ := Prod.mk.inj (Option.some.inj h)
    obtain ⟨rest, n, hs, hm, -, hbefore⟩ := firstMatch_eq_some hfm
    obtain ⟨c, body', t, rfl, hrest, -, hfirst⟩ := blockAt_eq_some hm
    refine ⟨pre, t, by simp [hs, hrest], by simp, by simp, fun p body₂ t₂ hc hb => ?_,
      fun body₂ t₂ hc hb => ?_⟩
    · -- A block starting further left would have been found first.
      refine Nat.le_of_not_lt fun hlt => ?_
      obtain ⟨v, k, hk⟩ := @blockAt_of_eq_block ("[" ++ N ++ "]").toList ("[/" ++ N ++ "]").toList
        body₂ t₂ (content.toList.drop p.length) hb (by rw [hc]; simp)
      exact hbefore p.length hlt v k hk
    · -- The body runs to the first closer, so any other body is at least as long.
      obtain ⟨c₂, body₂', rfl⟩ := List.exists_cons_of_ne_nil hb
      obtain ⟨-, hsame⟩ : c = c₂ ∧ body' ++ ("[/" ++ N ++ "]").toList ++ t =
          body₂' ++ ("[/" ++ N ++ "]").toList ++ t₂ := by
        simpa using hc
      simpa using hfirst.2 body₂' t₂ hsame
  · cases h

/-- Without a block the text finds none. -/
lemma placeholderBlock_eq_none_of_no_block
    (h : ∀ p body t, content.toList = p ++ ("[" ++ N ++ "]").toList ++ body ++ ("[/" ++ N ++ "]").toList ++ t →
      body = []) : placeholderBlock N content = none := by
  cases hb : placeholderBlock N content with
  | none => rfl
  | some r =>
    obtain ⟨B, b⟩ := r
    obtain ⟨X, Z, hc, hB, hne, -, -⟩ := placeholderBlock_eq_some hb
    exact absurd (h X b.toList Z (by rw [hc, hB]; simp)) hne

end Located

/-- What the handler does to the characters of the text, once it has found a block. -/
lemma placeholderMove_toList {content : String} {d : Directive} {B b : String}
    (h : placeholderBlock d.value content = some (B, b)) :
    (placeholderMove content d).toList =
      replaceFirst B.toList [] (replaceFirst d.token.toList b.toList content.toList) := by
  simp [placeholderMove, h, replaceOnce]

section Moved

variable {content B b : String} {d : Directive} {X Z : List Char}
  (hB : placeholderBlock d.value content = some (B, b)) (hfirst : FirstAt B.toList content.toList X Z)
include hB hfirst

/-- The token after the block: the block is still the first copy of its text once the body is at
the token. -/
lemma placeholderMove_of_token_after {Y W : List Char}
    (htok : FirstAt d.token.toList content.toList (X ++ B.toList ++ Y) W) :
    (placeholderMove content d).toList = X ++ Y ++ b.toList ++ W := by
  have hmove : replaceFirst d.token.toList b.toList content.toList =
      X ++ B.toList ++ (Y ++ b.toList ++ W) := by
    rw [replaceFirst_of_firstAt htok]
    simp
  rw [placeholderMove_toList hB, hmove, replaceFirst_of_firstAt (hfirst.of_tail _)]
  simp

/-- The token before the block: the block is the first copy of its text once the body is at the
token, provided no copy starts before the end of the moved body. -/
lemma placeholderMove_of_token_before {P Q : List Char}
    (htok : FirstAt d.token.toList content.toList P (Q ++ B.toList ++ Z))
    (hcopy : ∀ p t, P ++ b.toList ++ Q ++ B.toList ++ Z = p ++ B.toList ++ t →
      P.length + b.toList.length ≤ p.length) :
    (placeholderMove content d).toList = P ++ b.toList ++ Q ++ Z := by
  -- The content before the block is the part before the token, the token, and the part after it.
  have hX : X = P ++ d.token.toList ++ Q := by
    have h₁ : X ++ (B.toList ++ Z) = (P ++ d.token.toList ++ Q) ++ (B.toList ++ Z) := by
      simpa [hfirst.1] using htok.1
    exact List.append_cancel_right h₁
  have hmove : replaceFirst d.token.toList b.toList content.toList =
      P ++ b.toList ++ Q ++ B.toList ++ Z := by
    rw [replaceFirst_of_firstAt htok]
    simp
  have hdel : FirstAt B.toList (P ++ b.toList ++ Q ++ B.toList ++ Z) (P ++ b.toList ++ Q) Z := by
    refine ⟨rfl, fun p t h => ?_⟩
    -- A copy starts after the moved body; starting inside the rest of the text before the
    -- block, it would be a copy in the content too.
    have hlen := hcopy p t h
    obtain ⟨q, hp, hrest⟩ := @split_of_length_le (P ++ b.toList) _ _ _ (by simpa using h)
      (by simpa using hlen)
    have hcopy' : content.toList = (P ++ d.token.toList ++ q) ++ B.toList ++ t := by
      rw [htok.1]
      simp [hrest]
    have := hfirst.2 _ _ hcopy'
    simp only [hX, List.length_append] at this
    simp only [hp, List.length_append]
    omega
  rw [placeholderMove_toList hB, hmove, replaceFirst_of_firstAt hdel]
  simp

end Moved

/-- **A placeholder moves the first block, unless the move forms a copy of it.** The handler finds
the first block `[N]b[/N]` of the text, with the shortest body there; a text without a block is
kept. When the first occurrence of the token lies after the block, the result is the text without
the block and with the body at the token. When it lies before the block, the result is the same
provided no copy of the block's text starts before the end of the moved body. -/
theorem placeholderMove_moves_first_block (content : String) (d : Directive) :
    let opener := ("[" ++ d.value ++ "]").toList
    let closer := ("[/" ++ d.value ++ "]").toList
    ((∀ p body t, content.toList = p ++ opener ++ body ++ closer ++ t → body = []) →
      placeholderMove content d = content) ∧
    ∀ B b, placeholderBlock d.value content = some (B, b) →
      ∃ X Z, FirstAt B.toList content.toList X Z ∧ B.toList = opener ++ b.toList ++ closer ∧
        b.toList ≠ [] ∧
        (∀ p body t, content.toList = p ++ opener ++ body ++ closer ++ t → body ≠ [] →
          X.length ≤ p.length) ∧
        (∀ body t, B.toList ++ Z = opener ++ body ++ closer ++ t → body ≠ [] →
          b.toList.length ≤ body.length) ∧
        (∀ Y W, FirstAt d.token.toList content.toList (X ++ B.toList ++ Y) W →
          (placeholderMove content d).toList = X ++ Y ++ b.toList ++ W) ∧
        (∀ P Q, FirstAt d.token.toList content.toList P (Q ++ B.toList ++ Z) →
          (∀ p t, P ++ b.toList ++ Q ++ B.toList ++ Z = p ++ B.toList ++ t →
            P.length + b.toList.length ≤ p.length) →
          (placeholderMove content d).toList = P ++ b.toList ++ Q ++ Z) := by
  intro opener closer
  refine ⟨fun hnone => by simp [placeholderMove, placeholderBlock_eq_none_of_no_block hnone],
    fun B b hB => ?_⟩
  obtain ⟨X, Z, hc, hBt, hne, hleft, hshort⟩ := placeholderBlock_eq_some hB
  -- A copy of the block's text is a block, so none starts before the first block.
  have hfirst : FirstAt B.toList content.toList X Z :=
    ⟨hc, fun p t h => hleft p b.toList t (by rw [h, hBt]; simp) hne⟩
  exact ⟨X, Z, hfirst, hBt, hne, hleft, hshort,
    fun _ _ htok => placeholderMove_of_token_after hB hfirst htok,
    fun _ _ htok hcopy => placeholderMove_of_token_before hB hfirst htok hcopy⟩

/-- The usual use: the token in the head, the block in the body. The block is deleted and its body
put at the token, since no copy of the block forms before it. -/
theorem placeholder_moves_scripts_to_head :
    (placeholderMove "<head>%%Placeholder=Scripts%%</head><body>[Scripts]<script/>[/Scripts]</body>"
      ⟨"%%Placeholder=Scripts%%", "Placeholder", "Scripts"⟩).toList =
      "<head><script/></head><body></body>".toList := by
  obtain ⟨-, hfound⟩ := placeholderMove_moves_first_block
    "<head>%%Placeholder=Scripts%%</head><body>[Scripts]<script/>[/Scripts]</body>"
    ⟨"%%Placeholder=Scripts%%", "Placeholder", "Scripts"⟩
  obtain ⟨X, Z, hX, -, -, -, -, -, hbefore⟩ :=
    hfound "[Scripts]<script/>[/Scripts]" "<script/>" (by decide +kernel)
  have hblock : FirstAt "[Scripts]<script/>[/Scripts]".toList
      "<head>%%Placeholder=Scripts%%</head><body>[Scripts]<script/>[/Scripts]</body>".toList
      "<head>%%Placeholder=Scripts%%</head><body>".toList "</body>".toList :=
    breakOn_eq_some_iff.1 (by decide +kernel)
  obtain ⟨rfl, rfl⟩ := hX.unique hblock
  -- The only copy of the block in the moved text is the block itself.
  have hcopy : FirstAt "[Scripts]<script/>[/Scripts]".toList
      "<head><script/></head><body>[Scripts]<script/>[/Scripts]</body>".toList
      "<head><script/></head><body>".toList "</body>".toList :=
    breakOn_eq_some_iff.1 (by decide +kernel)
  rw [hbefore "<head>".toList "</head><body>".toList (breakOn_eq_some_iff.1 (by decide +kernel))
    fun p t h => le_trans (by decide) (hcopy.2 p t (by simpa using h))]
  decide +kernel

/-- **The move can delete a copy in place of the block.** In `[%%Placeholder=a%%a][/a]Q[a]a][/a]`
the first block is `[a]a][/a]`, at the end, and the token comes before it. Moving the body `a]`
to the token forms `[a]a][/a]` at the start, and that copy is deleted: the result is
`Q[a]a][/a]`, not the text with the block deleted and its body at the token, `[a]a][/a]Q`. -/
theorem placeholder_deletes_formed_copy :
    let content := "[%%Placeholder=a%%a][/a]Q[a]a][/a]"
    let d : Directive := ⟨"%%Placeholder=a%%", "Placeholder", "a"⟩
    placeholderBlock d.value content = some ("[a]a][/a]", "a]") ∧
      content.toList = "[%%Placeholder=a%%a][/a]Q".toList ++ "[a]a][/a]".toList ∧
      breakOn d.token.toList content.toList = some ("[".toList, "a][/a]Q[a]a][/a]".toList) ∧
      placeholderMove content d = "Q[a]a][/a]" ∧ placeholderMove content d ≠ "[a]a][/a]Q" := by
  decide +kernel

end Stencil

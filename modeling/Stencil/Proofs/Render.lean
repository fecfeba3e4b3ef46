import Stencil.Compiler.Render
import Mathlib.Data.List.Infix
/-!
# Rendering leaves no placeholder behind

Rendering fills the placeholders of the tags it is given and then removes the leftover
placeholders of word-character names in one left-to-right pass, then the lines of spaces and tabs.
An *opening* is a brace followed by a brace, a bar or a bang, the way every placeholder starts.

When every opening of the filled text begins a placeholder of word characters, the rendered text
has no opening at all, hence no placeholder of any name (`render_leaves_no_placeholder`). The
condition is what the single pass needs: removing `{{b}}` from `{{a{{b}}}}` joins `{{a` and `}}`
into a new placeholder, and a tag value is inserted as written, so a placeholder it brings in
stays unless its name is of word characters (`render_keeps_placeholder_of_value`).

The pass is read one position at a time: a position that begins a placeholder drops it, any other
keeps its character, and the kept character can start an opening only with the character kept
after it, which was already next to it or began a dropped placeholder.
-/

namespace Stencil

/-! ### Openings -/

/-- Whether a text starts with an opening: a brace followed by a brace, a bar or a bang. -/
def opensAt (w : List Char) : Bool :=
  match w with
  | c :: m :: _ => c == '{' && (m == '{' || m == '|' || m == '!')
  | _ => false

/-- Whether every opening of a text begins a placeholder of word characters. -/
def wellOpened (s : List Char) : Bool :=
  s.tails.all fun w => !opensAt w || (leftoverAt w).isSome

/-- Whether a text has no opening. -/
def unopened (s : List Char) : Bool :=
  s.tails.all fun w => !opensAt w

/-- A placeholder of word characters, as the leftover pattern describes it: a brace and an opening
mark, a nonempty run of word characters, a closing mark and a brace. -/
def TagShaped (w : List Char) : Prop :=
  ∃ m word e, w = '{' :: m :: (word ++ [e, '}']) ∧ (m = '{' ∨ m = '|' ∨ m = '!') ∧ word ≠ [] ∧
    (∀ c ∈ word, Text.isWordChar c = true) ∧ (e = '}' ∨ e = '!' ∨ e = '|')

lemma wellOpened_iff {s : List Char} :
    wellOpened s = true ↔ ∀ w, w <:+ s → opensAt w = true → (leftoverAt w).isSome = true := by
  simp only [wellOpened, List.all_eq_true, List.mem_tails, Bool.or_eq_true, Bool.not_eq_true']
  exact forall_congr' fun w => imp_congr_right fun _ => by
    cases opensAt w <;> simp

lemma unopened_iff {s : List Char} : unopened s = true ↔ ∀ w, w <:+ s → opensAt w = false := by
  simp [unopened, List.mem_tails]

lemma opensAt_cons_of_ne {c : Char} (hc : c ≠ '{') (R : List Char) : opensAt (c :: R) = false := by
  cases R <;> simp [opensAt, hc]

/-- A placeholder of word characters begins with an opening. -/
lemma opensAt_of_leftoverAt {w : List Char} (h : (leftoverAt w).isSome = true) : opensAt w = true := by
  unfold leftoverAt at h
  split at h
  · rename_i k rest
    split at h
    · rename_i hk
      simpa [opensAt] using hk
    · simp at h
  · simp at h

/-- A recognised placeholder is never empty. -/
lemma leftoverAt_length_pos {w : List Char} {n : Nat} (h : leftoverAt w = some ((), n)) : 0 < n := by
  unfold leftoverAt at h
  split at h
  · split at h
    · dsimp only at h
      split at h
      · simp at h
      · split at h
        · split at h
          · cases h; omega
          · simp at h
        · simp at h
    · simp at h
  · simp at h

/-- A placeholder of word characters begins with a brace. -/
lemma eq_brace_of_leftoverAt {c : Char} {cs : List Char} (h : (leftoverAt (c :: cs)).isSome = true) :
    c = '{' := by
  have hopen := opensAt_of_leftoverAt h
  cases cs with
  | nil => simp [opensAt] at hopen
  | cons _ _ =>
    simp only [opensAt, Bool.and_eq_true, beq_iff_eq] at hopen
    exact hopen.1

/-- Where no placeholder begins there is no opening, if every opening there begins one. -/
lemma opensAt_eq_false_of_no_leftover {w : List Char}
    (hw : opensAt w = true → (leftoverAt w).isSome = true)
    (hm : ∀ v n, leftoverAt w ≠ some (v, n + 1)) : opensAt w = false := by
  cases ho : opensAt w
  · rfl
  · obtain ⟨⟨⟨⟩, k⟩, hk⟩ := Option.isSome_iff_exists.1 (hw ho)
    obtain ⟨n, rfl⟩ := Nat.exists_eq_succ_of_ne_zero (leftoverAt_length_pos hk).ne'
    exact absurd hk (hm () n)

/-- A text has no opening when it has no placeholder of a brace and a mark. -/
lemma not_infix_of_unopened {t : List Char} (ht : unopened t = true) {m : Char}
    (hm : m = '{' ∨ m = '|' ∨ m = '!') (rest : List Char) : ¬ ('{' :: m :: rest) <:+: t := by
  intro hinf
  obtain ⟨u, ⟨r, rfl⟩, hsuf⟩ := List.infix_iff_prefix_suffix.1 hinf
  have hno := unopened_iff.1 ht _ hsuf
  rcases hm with rfl | rfl | rfl <;> simp [opensAt] at hno

lemma TagShaped.not_infix {t : List Char} (ht : unopened t = true) {w : List Char}
    (hw : TagShaped w) : ¬ w <:+: t := by
  obtain ⟨m, word, e, rfl, hm, -⟩ := hw
  exact not_infix_of_unopened ht hm _

/-! ### The passes of the cleanup -/

namespace Text

variable {α : Type} {f : α → List Char} {c : Char} {cs : List Char}

@[simp] lemma replaceMatches_nil (m : Recogniser α) : replaceMatches m f [] = [] := by
  rw [replaceMatches]

@[simp] lemma replaceLineMatches_nil (m : LineRecogniser α) (b : Bool) :
    replaceLineMatches m f b [] = [] := by
  rw [replaceLineMatches]

lemma replaceMatches_of_none {m : Recogniser α} (h : m (c :: cs) = none) :
    replaceMatches m f (c :: cs) = c :: replaceMatches m f cs := by
  rw [replaceMatches, h]

lemma replaceLineMatches_of_none {m : LineRecogniser α} {b : Bool} (h : m b (c :: cs) = none) :
    replaceLineMatches m f b (c :: cs) = c :: replaceLineMatches m f (c == '\n') cs := by
  rw [replaceLineMatches, h]

end Text

/-- Removing the leftover placeholders once from a text whose every opening begins one leaves no
opening: a kept brace is followed by what followed it, or by a dropped placeholder, which would
have made it an opening that begins none. -/
lemma unopened_stripLeftovers (s : List Char) :
    (∀ w, w <:+ s → opensAt w = true → (leftoverAt w).isSome = true) →
      ∀ w, w <:+ Text.replaceMatches leftoverAt (fun _ => []) s → opensAt w = false := by
  fun_induction Text.replaceMatches leftoverAt (fun _ => []) s with
  | case1 => simp [opensAt]
  | case2 c cs v n hm ih =>
    intro hs
    simpa using ih fun w hw => hs w (hw.trans (List.drop_suffix _ _))
  | case3 c cs hm ih =>
    intro hs w hw
    have hcs : ∀ w, w <:+ cs → opensAt w = true → (leftoverAt w).isSome = true :=
      fun w hw => hs w (hw.trans (List.suffix_cons c cs))
    rcases List.suffix_cons_iff.1 hw with rfl | hw
    · -- The kept character begins no placeholder, so it is no opening.
      have hs₀ := opensAt_eq_false_of_no_leftover (hs _ (List.suffix_refl _)) hm
      cases cs with
      | nil => simp [opensAt]
      | cons c' cs' =>
        cases hm' : leftoverAt (c' :: cs') with
        | none =>
          rw [Text.replaceMatches_of_none hm']
          exact hs₀
        | some p =>
          -- The next character begins a placeholder, so the kept one is no brace.
          have hsome : (leftoverAt (c' :: cs')).isSome = true := by simp [hm']
          have hbrace : c' = '{' := eq_brace_of_leftoverAt hsome
          have hc : c ≠ '{' := by
            rintro rfl
            simp [opensAt, hbrace] at hs₀
          exact opensAt_cons_of_ne hc _
    · exact ih hcs w hw

/-- Removing lines of spaces and tabs makes no opening: a removed line starts a line, so what comes
before it ends a line. -/
lemma unopened_dropEmptyLines (b : Bool) (s : List Char) :
    (∀ w, w <:+ s → opensAt w = false) →
      ∀ w, w <:+ Text.replaceLineMatches emptyLine (fun _ => []) b s → opensAt w = false := by
  fun_induction Text.replaceLineMatches emptyLine (fun _ => []) b s with
  | case1 => simp [opensAt]
  | case2 b c cs v n hm ih =>
    intro hs
    simpa using ih fun w hw => hs w (hw.trans (List.drop_suffix _ _))
  | case3 b c cs hm ih =>
    intro hs w hw
    rcases List.suffix_cons_iff.1 hw with rfl | hw
    · by_cases hc : c = '{'
      · -- After a brace no line starts, so the next character is kept.
        subst hc
        cases cs with
        | nil => simp [opensAt]
        | cons c' cs' =>
          rw [Text.replaceLineMatches_of_none (by simp [emptyLine])]
          exact hs ('{' :: c' :: cs') (List.suffix_refl _)
      · exact opensAt_cons_of_ne hc _
    · exact ih (fun w hw => hs w (hw.trans (List.suffix_cons c cs))) w hw

/-- The cleanup of a text whose every opening begins a placeholder of word characters has no
opening. -/
lemma unopened_tidyRender {s : String} (hs : wellOpened s.toList = true) :
    unopened (tidyRender s).toList = true := by
  rw [unopened_iff]
  simp only [tidyRender, String.toList_ofList]
  exact unopened_dropEmptyLines true _ (unopened_stripLeftovers _ (wellOpened_iff.1 hs))

/-! ### Rendering -/

namespace Compiler

/-- **Rendering leaves no placeholder** when every opening of the text filled with the tags begins
a placeholder of word characters: the render succeeds, and its text has no placeholder of word
characters and no placeholder `{{k}}`, `{|k|}` or `{!k!}` of any name `k`. -/
theorem render_leaves_no_placeholder (c : Compiler) (name : String) (tags : NameMap String)
    (view : Template) (content : String) (drawn : Nat)
    (hview : c.snapshot.compiled.find? name = some view)
    (hsub : substituteAll c.drawn view.compiled (c.handlers.substitutionsOf .render) =
      .ok (content, drawn))
    (hopen : wellOpened (fillTags content tags).toList = true) :
    ∃ v, (c.render name tags).1 = .ok v ∧
      (∀ w, w <:+: v.lastRender.toList → ¬ TagShaped w) ∧
      ∀ k, ¬ ("\x7b\x7b" ++ k ++ "\x7d\x7d").toList <:+: v.lastRender.toList ∧
        ¬ ("\x7b|" ++ k ++ "|\x7d").toList <:+: v.lastRender.toList ∧
        ¬ ("\x7b!" ++ k ++ "!\x7d").toList <:+: v.lastRender.toList := by
  have hfill : fillView c.handlers c.drawn view.compiled tags =
      .ok (tidyRender (fillTags content tags), drawn) := by
    simp [fillView, hsub, Except.mapError, bind, Except.bind, pure, Except.pure]
  have hno := unopened_tidyRender hopen
  refine ⟨{ view with lastRender := tidyRender (fillTags content tags) }, ?_,
    fun w hw hshape => hshape.not_infix hno hw, fun k => ⟨?_, ?_, ?_⟩⟩
  · simp [render, hview, hfill]
  · simpa using not_infix_of_unopened hno (m := '{') (by simp) (k.toList ++ ['}', '}'])
  · simpa using not_infix_of_unopened hno (m := '|') (by simp) (k.toList ++ ['|', '}'])
  · simpa using not_infix_of_unopened hno (m := '!') (by simp) (k.toList ++ ['!', '}'])

/-- A view whose placeholders are all of word characters renders without any, given or not. -/
theorem render_greeting_leaves_no_placeholder :
    let view : Template :=
      { name := "Home/Index", displayName := "Index", raw := "", fingerprint := "",
        compiled := "<p>Hello \x7b\x7bname\x7d\x7d</p>\n\x7b|note|\x7d" }
    let c : Compiler :=
      { handlers := Handlers.empty,
        snapshot := { Snapshot.empty with compiled := NameMap.empty.insert "Home/Index" view } }
    let tags := NameMap.empty.insert "name" "Ann"
    c.snapshot.compiled.find? "Home/Index" = some view ∧
      substituteAll c.drawn view.compiled (c.handlers.substitutionsOf .render) =
        .ok (view.compiled, c.drawn) ∧
      wellOpened (fillTags view.compiled tags).toList = true ∧
      ∃ v, (c.render "Home/Index" tags).1 = .ok v ∧
        (∀ w, w <:+: v.lastRender.toList → ¬ TagShaped w) ∧
        ∀ k, ¬ ("\x7b\x7b" ++ k ++ "\x7d\x7d").toList <:+: v.lastRender.toList ∧
          ¬ ("\x7b|" ++ k ++ "|\x7d").toList <:+: v.lastRender.toList ∧
          ¬ ("\x7b!" ++ k ++ "!\x7d").toList <:+: v.lastRender.toList := by
  intro view c tags
  have hview : c.snapshot.compiled.find? "Home/Index" = some view := rfl
  have hsub : substituteAll c.drawn view.compiled (c.handlers.substitutionsOf .render) =
      .ok (view.compiled, c.drawn) := rfl
  have hopen : wellOpened (fillTags view.compiled tags).toList = true := by decide +kernel
  exact ⟨hview, hsub, hopen,
    render_leaves_no_placeholder c "Home/Index" tags view view.compiled c.drawn hview hsub hopen⟩

/-- A tag value is inserted as written: a placeholder it brings in is not filled again, and one
whose name is not of word characters is not removed either, though its tag is given. -/
theorem render_keeps_placeholder_of_value :
    let view : Template :=
      { name := "Home/Tag", displayName := "Tag", raw := "", fingerprint := "",
        compiled := "<p>\x7b\x7ba-b\x7d\x7d</p>" }
    let c : Compiler :=
      { handlers := Handlers.empty,
        snapshot := { Snapshot.empty with compiled := NameMap.empty.insert "Home/Tag" view } }
    ((c.render "Home/Tag" (NameMap.empty.insert "a-b" "\x7b\x7ba-b\x7d\x7d")).1.toOption.map
      Template.lastRender) = some "<p>\x7b\x7ba-b\x7d\x7d</p>" := by
  decide +kernel

end Compiler

end Stencil

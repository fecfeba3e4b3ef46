import Mathlib
import Stencil.Proofs.Layouts
import Stencil.Proofs.HeadBlocks
/-!
# How the layout bound stops compiling

Compiling a view repeats the layout pass until a pass fails, a pass changes nothing, or a pass
that changed the text ran with the pass counter equal to the depth bound. `LayoutRun` is that
loop as a relation, with a counter that starts at zero and only goes up: a derivation is a run of
finitely many passes that stops by one of the three tests.

Under a nonnegative bound every run stops, and what it stops with is what the compiler computes
(`layoutRun_iff_expandLayouts`). Under a negative bound the counter never equals the bound, so a
run in which every pass changes the text never stops (`LayoutRun.not_of_always_changing`): the
compiler's counter, a 64-bit word, meets the bound only when it wraps around, more than `2^63`
passes after the start (`passesFor`), and until then every pass hands the text on to the next
(`expandLayouts_after_passes`). A layout that names itself gives such a run, in which every pass
puts the page in one more layer and the text grows by seven characters
(`negative_bound_loops_forever`).
-/

namespace Stencil

open Text

/-- The layout loop: passes from the counter `depth`, until a pass fails, a pass changes nothing,
or a pass that changed the text ran at the counter equal to the bound. -/
inductive LayoutRun (hs : List DirectiveHandler) (T : NameMap Template) (md : Int) :
    Nat → String → List String → Except Fault (String × List String) → Prop
  /-- A pass fails. -/
  | fail {depth : Nat} {c : String} {deps : List String} {e : Fault} :
      applyDirectives hs T c deps = .error e → LayoutRun hs T md depth c deps (.error e)
  /-- A pass changes nothing: the text stands, with the dependencies the pass recorded. -/
  | settle {depth : Nat} {c out : String} {deps deps' : List String} :
      applyDirectives hs T c deps = .ok (out, false, deps') →
      LayoutRun hs T md depth c deps (.ok (c, deps'))
  /-- A pass changed the text at the counter equal to the bound. -/
  | limit {depth : Nat} {c out : String} {deps deps' : List String} :
      applyDirectives hs T c deps = .ok (out, true, deps') → (depth : Int) = md →
      LayoutRun hs T md depth c deps (.error (layoutTooDeep md))
  /-- A pass changed the text at another count: the loop goes on with the new text. -/
  | next {depth : Nat} {c out : String} {deps deps' : List String}
      {r : Except Fault (String × List String)} :
      applyDirectives hs T c deps = .ok (out, true, deps') → (depth : Int) ≠ md →
      LayoutRun hs T md (depth + 1) out deps' r → LayoutRun hs T md depth c deps r

section Run

variable {hs : List DirectiveHandler} {T : NameMap Template} {md : Int}

/-- A run stops with one result. -/
lemma LayoutRun.det {depth : Nat} {c : String} {deps : List String}
    {r₁ r₂ : Except Fault (String × List String)} (h₁ : LayoutRun hs T md depth c deps r₁)
    (h₂ : LayoutRun hs T md depth c deps r₂) : r₁ = r₂ := by
  induction h₁ generalizing r₂ with
  | fail he => cases h₂ <;> simp_all
  | settle he => cases h₂ <;> simp_all
  | limit he hd => cases h₂ <;> simp_all
  | next he hd _ ih =>
    cases h₂ with
    | fail he' => simp_all
    | settle he' => simp_all
    | limit _ hd' => exact absurd hd' hd
    | next he' _ hrest =>
      -- Both runs made the same pass, so they go on from the same text.
      rw [he] at he'
      obtain ⟨rfl, rfl⟩ : _ = _ ∧ _ = _ := by simpa using he'
      exact ih hrest

/-- Below a nonnegative bound, with the passes left that reach one past it, the compiler's
expansion is a run of the loop. -/
lemma expandLayouts_runs (hmd : 0 ≤ md) : ∀ (fuel depth : Nat) (c : String) (deps : List String),
    (depth : Int) ≤ md → depth + fuel = md.toNat + 1 →
      LayoutRun hs T md depth c deps (expandLayouts hs T md fuel depth c deps)
  | 0, depth, _, _, hle, hfuel => by omega
  | fuel + 1, depth, c, deps, hle, hfuel => by
    cases hp : applyDirectives hs T c deps with
    | error e =>
      simp only [expandLayouts, hp]
      exact .fail hp
    | ok p =>
      obtain ⟨out, changed, deps'⟩ := p
      cases changed with
      | false =>
        simp only [expandLayouts, hp, Bool.not_false, if_true]
        exact .settle hp
      | true =>
        by_cases hd : (depth : Int) = md
        · simp only [expandLayouts, hp, Bool.not_true, Bool.false_eq_true, if_false, if_pos hd]
          exact .limit hp hd
        · simp only [expandLayouts, hp, Bool.not_true, Bool.false_eq_true, if_false, if_neg hd]
          exact .next hp hd (expandLayouts_runs hmd fuel (depth + 1) out deps' (by omega) (by omega))

/-- Under a nonnegative bound the loop stops, with exactly what the compiler computes. -/
lemma layoutRun_iff_expandLayouts (hmd : 0 ≤ md) {c : String} {deps : List String}
    {r : Except Fault (String × List String)} :
    LayoutRun hs T md 0 c deps r ↔ expandLayouts hs T md (passesFor md) 0 c deps = r := by
  have hrun : LayoutRun hs T md 0 c deps (expandLayouts hs T md (passesFor md) 0 c deps) :=
    expandLayouts_runs hmd _ 0 c deps (by omega) (by simp [passesFor, hmd])
  exact ⟨fun h => (hrun.det h), fun h => h ▸ hrun⟩

/-- Under a negative bound, a run in which every pass changes the text and lands in a set of
states closed under such passes never stops. -/
lemma LayoutRun.not_of_always_changing (hmd : md < 0) (S : Set (String × List String))
    (hS : ∀ s ∈ S, ∃ s' ∈ S, applyDirectives hs T s.1 s.2 = .ok (s'.1, true, s'.2))
    {depth : Nat} {c : String} {deps : List String} {r : Except Fault (String × List String)}
    (h : LayoutRun hs T md depth c deps r) (hc : (c, deps) ∈ S) : False := by
  induction h with
  | fail he =>
    obtain ⟨s', -, hp⟩ := hS _ hc
    rw [he] at hp
    cases hp
  | settle he =>
    obtain ⟨s', -, hp⟩ := hS _ hc
    rw [he] at hp
    simp at hp
  | limit _ hd => omega
  | next he _ _ ih =>
    -- The pass lands in the set again, and the loop goes on from there.
    obtain ⟨s', hs', hp⟩ := hS _ hc
    rw [he] at hp
    obtain ⟨rfl, rfl⟩ : _ = _ ∧ _ = _ := by simpa using hp
    exact ih hs'

/-- Under a negative bound a pass that changes the text never stops the compiler's loop: it goes
on from the new text with the counter one up and one pass fewer left. -/
lemma expandLayouts_goes_on (hmd : md < 0) (S : Set (String × List String))
    (hS : ∀ s ∈ S, ∃ s' ∈ S, applyDirectives hs T s.1 s.2 = .ok (s'.1, true, s'.2))
    {s : String × List String} (hmem : s ∈ S) (fuel depth : Nat) :
    ∃ s' ∈ S, expandLayouts hs T md (fuel + 1) depth s.1 s.2 =
      expandLayouts hs T md fuel (depth + 1) s'.1 s'.2 := by
  obtain ⟨s', hmem', hpass⟩ := hS s hmem
  have hd : (depth : Int) ≠ md := by omega
  refine ⟨s', hmem', ?_⟩
  simp only [expandLayouts, hpass, Bool.not_true, Bool.false_eq_true, if_false, if_neg hd]

/-- Under a negative bound, from a state of a set closed under passes that change the text, the
compiler's loop is still going after any number of passes it has fuel for, from a state of the
set with the counter at that number. -/
lemma expandLayouts_after_passes (hmd : md < 0) (S : Set (String × List String))
    (hS : ∀ s ∈ S, ∃ s' ∈ S, applyDirectives hs T s.1 s.2 = .ok (s'.1, true, s'.2))
    {s : String × List String} (hmem : s ∈ S) (fuel : Nat) :
    ∀ k ≤ fuel, ∃ s' ∈ S, expandLayouts hs T md fuel 0 s.1 s.2 =
      expandLayouts hs T md (fuel - k) k s'.1 s'.2 := by
  intro k hk
  induction k with
  | zero => exact ⟨s, hmem, rfl⟩
  | succ k ih =>
    -- One pass more: the state reached after `k` passes makes it and goes on.
    obtain ⟨s₁, hmem₁, heq⟩ := ih (by omega)
    obtain ⟨s₂, hmem₂, hstep⟩ := expandLayouts_goes_on hmd S hS hmem₁ (fuel - (k + 1)) k
    have hfuel : fuel - k = fuel - (k + 1) + 1 := by omega
    exact ⟨s₂, hmem₂, by rw [heq, hfuel, hstep]⟩

end Run

/-- Under a negative bound that a 64-bit word holds, the compiler allows more than `2^63` passes:
the counter meets the bound only once it has wrapped around. -/
lemma pow_lt_passesFor {md : Int} (hlo : -2 ^ 63 ≤ md) (hmd : md < 0) : 2 ^ 63 < passesFor md := by
  simp only [passesFor, counterRange, if_neg (not_le.2 hmd)]
  omega

/-- **The layout loop stops under every nonnegative bound, and under a negative one only when a
pass changes nothing or the counter has wrapped around.** For the compile-phase directive
handlers of any compiler and any template store: under a bound `0 ≤ maxDepth` the loop run from
the view's text stops, with the result the compiler computes. Under a negative bound of a 64-bit
word the compiler allows more than `2^63` passes, and from a text in a set closed under passes
that change it, the compiler's loop is still going after every number of passes up to that
count, from a text of the set; it fails only when the passes run out. -/
theorem layout_loop_stops_within_bound (h : Handlers) (T : NameMap Template) (md : Int) :
    (0 ≤ md → ∀ c deps r, LayoutRun (h.directivesOf .compile) T md 0 c deps r ↔
        expandLayouts (h.directivesOf .compile) T md (passesFor md) 0 c deps = r) ∧
    (-2 ^ 63 ≤ md → md < 0 → 2 ^ 63 < passesFor md ∧ ∀ S : Set (String × List String),
      (∀ s ∈ S, ∃ s' ∈ S,
        applyDirectives (h.directivesOf .compile) T s.1 s.2 = .ok (s'.1, true, s'.2)) →
      ∀ s ∈ S,
        (∀ k ≤ passesFor md, ∃ s' ∈ S,
          expandLayouts (h.directivesOf .compile) T md (passesFor md) 0 s.1 s.2 =
            expandLayouts (h.directivesOf .compile) T md (passesFor md - k) k s'.1 s'.2) ∧
        expandLayouts (h.directivesOf .compile) T md (passesFor md) 0 s.1 s.2 =
          .error (layoutTooDeep md)) :=
  ⟨fun hmd _ _ _ => layoutRun_iff_expandLayouts hmd,
    fun hlo hmd => ⟨pow_lt_passesFor hlo hmd, fun S hS s hmem =>
      ⟨expandLayouts_after_passes hmd S hS hmem _, expandLayouts_of_always_changing S hS _ 0 s hmem⟩⟩⟩

/-! ### A layout that names itself -/

/-- A layout whose text names itself as its layout. -/
def loopLayout : Template :=
  { name := "Shared/Loop", displayName := "Loop", raw := "%%Master=Loop%%<b>%%View%%</b>",
    fingerprint := "" }

/-- The store of that layout alone. -/
def loopStore : NameMap Template := NameMap.ofList [("Shared/Loop", loopLayout)]

/-- The token that names the layout. -/
def loopToken : Directive := ⟨"%%Master=Loop%%", "Master", "Loop"⟩

/-- The page's text `hi` in `k` bold layers. -/
def loopPage : Nat → String
  | 0 => "hi"
  | k + 1 => "<b>" ++ loopPage k ++ "</b>"

/-- The text after `k` passes: the layout's token before the page in `k` layers. -/
def loopText (k : Nat) : String := "%%Master=Loop%%" ++ loopPage k

-- Stated by `rfl`: the equation lemma that unfolding generates takes seconds to prove.
lemma loopText_eq (k : Nat) : loopText k = "%%Master=Loop%%" ++ loopPage k := rfl

lemma percent_not_mem_loopPage : ∀ k, '%' ∉ (loopPage k).toList
  | 0 => by decide
  | k + 1 => by
    have ih := percent_not_mem_loopPage k
    simp only [loopPage, String.toList_append, List.mem_append, not_or]
    exact ⟨⟨by decide, ih⟩, by decide⟩

lemma length_loopText (k : Nat) : (loopText k).length = 17 + 7 * k := by
  induction k with
  | zero => decide
  | succ k ih =>
    simp only [loopText_eq, loopPage, String.length_append] at ih ⊢
    have h₁ : "<b>".length = 3 := by decide
    have h₂ : "</b>".length = 4 := by decide
    omega

/-- A text without `%` holds no directive. -/
lemma allMatches_recognise_of_no_percent (w : List Char) :
    '%' ∉ w → allMatches Directive.recognise w = [] := by
  fun_induction allMatches Directive.recognise w with
  | case1 => exact fun _ => rfl
  | case2 c cs v n hm =>
    intro hw
    -- A directive starts with `%`.
    have hc : c = '%' := by
      unfold Directive.recognise at hm
      split at hm
      · next _ _ heq => exact (List.cons.inj heq).1
      · cases hm
    exact absurd (hc ▸ List.mem_cons_self) hw
  | case3 c cs _ ih => exact fun hw => ih (fun h => hw (List.mem_cons_of_mem c h))

/-- Each text of the run holds the one token that names the layout. -/
lemma masterDirectives_loopText (k : Nat) : masterDirectives (loopText k) = [loopToken] := by
  have htoken (w : List Char) : Directive.recognise ("%%Master=Loop%%".toList ++ w) =
      some (loopToken, 15) :=
    rfl
  -- The token opens the text, and the page after it holds no `%`.
  obtain ⟨c, cs, hcs⟩ : ∃ c cs, "%%Master=Loop%%".toList ++ (loopPage k).toList = c :: cs :=
    ⟨_, _, rfl⟩
  have hall : Directive.findAll (loopText k) = [loopToken] := by
    rw [Directive.findAll, loopText_eq, String.toList_append, hcs,
      allMatches_cons_of_some (hcs ▸ htoken (loopPage k).toList), ← hcs,
      List.drop_left' (by decide), allMatches_recognise_of_no_percent _ (percent_not_mem_loopPage k)]
  simp [masterDirectives, hall, loopToken]

/-- A pass puts the page in one more layer. -/
lemma wrapLayout_loopText (k : Nat) : wrapLayout (loopText k) loopToken loopLayout = loopText (k + 1) := by
  have hstrip : replaceOnce (loopText k) loopToken.token "" = loopPage k := by
    apply String.toList_injective
    have hfirst : FirstAt loopToken.token.toList ("%%Master=Loop%%".toList ++ (loopPage k).toList) []
        (loopPage k).toList := ⟨by simp [loopToken], fun _ _ _ => Nat.zero_le _⟩
    rw [toList_replaceOnce, loopText_eq, String.toList_append, replaceFirst_of_firstAt hfirst]
    simp
  have hview : FirstAt "%%View%%".toList loopLayout.raw.toList "%%Master=Loop%%<b>".toList "</b>".toList :=
    breakOn_eq_some_iff.1 (by decide +kernel)
  apply String.toList_injective
  rw [wrapLayout, hstrip, toList_replaceOnce, replaceFirst_of_firstAt hview]
  simp [loopText_eq, loopPage]

/-- Every pass of the run changes the text, and records the layout. -/
lemma applyDirectives_loopText (k : Nat) (deps : List String) :
    applyDirectives [.master] loopStore (loopText k) deps =
      .ok (loopText (k + 1), true, addDependency deps (some "Shared/Loop")) := by
  have hL : resolve loopStore loopToken.value = .ok loopLayout :=
    resolve_of_find? (by decide +kernel)
  have hne : loopText (k + 1) ≠ loopText k := fun heq => by
    have := congrArg String.length heq
    rw [length_loopText, length_loopText] at this
    omega
  have hchanged : (loopText (k + 1) != loopText k) = true := bne_iff_ne.2 hne
  rw [applyDirectives_master_of_single (masterDirectives_loopText k) hL, wrapLayout_loopText,
    hchanged]
  rfl

/-- **A negative bound lets a self-naming layout run forever.** With the layout
`%%Master=Loop%%<b>%%View%%</b>` and the page `%%Master=Loop%%hi` under the bound `-1`, the
layout loop never stops: every pass changes the text, and the counter, going up from zero, never
equals `-1`. The text after `k` passes has `17 + 7k` characters. The compiler's 64-bit counter
meets `-1` only when it wraps around, at the `2^64`-th pass, by when the text would be longer
than any text a 64-bit machine holds. -/
theorem negative_bound_loops_forever :
    (∀ r, ¬ LayoutRun [.master] loopStore (-1) 0 "%%Master=Loop%%hi" [] r) ∧
      (∀ k deps, applyDirectives [.master] loopStore (loopText k) deps =
          .ok (loopText (k + 1), true, addDependency deps (some "Shared/Loop")) ∧
        (loopText k).length = 17 + 7 * k) ∧
      passesFor (-1) = 2 ^ 64 ∧
      expandLayouts [.master] loopStore (-1) (passesFor (-1)) 0 "%%Master=Loop%%hi" [] =
        .error (layoutTooDeep (-1)) := by
  let S : Set (String × List String) := {s | ∃ k, s.1 = loopText k}
  have hS : ∀ s ∈ S, ∃ s' ∈ S, applyDirectives [.master] loopStore s.1 s.2 = .ok (s'.1, true, s'.2) := by
    rintro ⟨c, deps⟩ ⟨k, rfl⟩
    exact ⟨(loopText (k + 1), addDependency deps (some "Shared/Loop")), ⟨k + 1, rfl⟩,
      applyDirectives_loopText k deps⟩
  have hstart : ("%%Master=Loop%%hi", ([] : List String)) ∈ S := ⟨0, rfl⟩
  refine ⟨fun r hrun => hrun.not_of_always_changing (by decide) S hS hstart,
    fun k deps => ⟨applyDirectives_loopText k deps, length_loopText k⟩, by decide, ?_⟩
  exact expandLayouts_of_always_changing S hS _ 0 _ hstart

end Stencil

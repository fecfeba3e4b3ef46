import Stencil.Proofs.Compile
import Stencil.Proofs.Occurrence
/-!
# Nested layouts

A view names its layout with `%%Master=L%%`; the layout receives the view's text, without the
token, at its `%%View%%`. A layout may name a layout of its own, so compiling repeats the layout
pass while it changes the text, and fails with `layoutTooDeep` once a pass at depth `maxDepth`
still changes it.

`Expands T c links out` describes a chain of layouts as the code walks it: each text on the way
holds one Master directive, the layout it names is wrapped around the text, and the last text
holds none. Along such a chain of distinct layouts expansion succeeds exactly when the chain is
no longer than the bound, with the last text as its output and the layouts, in order, as its
dependencies (`expandLayouts_of_expands`); an expansion in which every pass changes the text
fails (`expandLayouts_of_always_changing`).

Each pass takes the token out of the text it found it in, which after the first pass is a layout
with the inner text already in place. The nesting read off the layouts alone, each layout losing
its own token first (`nestLayouts`), is the same when every layout's token stands before its
`%%View%%` and taking it out forms no earlier `%%View%%` (`HeadForm`); otherwise the two can
differ (`unwrapped_token_forms_view`).
-/

namespace Stencil

open Text

/-! ### One layout pass -/

/-- The Master directives of a text, in the order found. -/
def masterDirectives (c : String) : List Directive :=
  (Directive.findAll c).filter (·.name == "Master")

/-- The layout `L` around the text `c` whose Master directive is `d`: the text without the token
at the layout's `%%View%%`. -/
def wrapLayout (c : String) (d : Directive) (L : Template) : String :=
  replaceOnce L.raw "%%View%%" (replaceOnce c d.token "")

section Pass

variable {T : NameMap Template} {c : String} {d : Directive} {L : Template} {deps : List String}

/-- The layout handler acts on Master directives only. -/
lemma applyDirective_master (s : String × Bool × List String) (d : Directive) :
    applyDirective [.master] T s d = if d.name = "Master" then applyHandler T d s .master else .ok s := by
  by_cases h : d.name = "Master"
  · simp [applyDirective, DirectiveHandler.name, h]
  · have h' : ("Master" == d.name) = false := beq_eq_false_iff_ne.2 (Ne.symm h)
    rw [if_neg h]
    simp only [applyDirective, List.filter_cons, DirectiveHandler.name, h', List.filter_nil,
      List.foldlM_nil, Bool.false_eq_true, if_false]
    rfl

lemma foldlM_applyDirective_master :
    ∀ (ds : List Directive) (s : String × Bool × List String),
      ds.foldlM (applyDirective [.master] T) s =
        (ds.filter (·.name == "Master")).foldlM (fun s d => applyHandler T d s .master) s
  | [], _ => rfl
  | d :: ds, s => by
    by_cases h : d.name = "Master"
    · simp [applyDirective_master, h, foldlM_applyDirective_master ds]
    · simp only [List.foldlM_cons, applyDirective_master, h, if_false, List.filter_cons,
        beq_iff_eq, foldlM_applyDirective_master ds]
      rfl

/-- A layout pass runs the layout handler on the Master directives of the text, in order. -/
lemma applyDirectives_master (c : String) (deps : List String) :
    applyDirectives [.master] T c deps =
      (masterDirectives c).foldlM (fun s d => applyHandler T d s .master) (c, false, deps) := by
  rw [applyDirectives, if_neg (by simp)]
  exact foldlM_applyDirective_master _ _

/-- A pass over a text without a Master directive changes nothing. -/
lemma applyDirectives_master_of_nil (hd : masterDirectives c = []) :
    applyDirectives [.master] T c deps = .ok (c, false, deps) := by
  rw [applyDirectives_master, hd]
  rfl

/-- A pass over a text with one Master directive wraps the layout it names around the text and
records the layout. -/
lemma applyDirectives_master_of_single (hd : masterDirectives c = [d])
    (hL : resolve T d.value = .ok L) :
    applyDirectives [.master] T c deps =
      .ok (wrapLayout c d L, wrapLayout c d L != c, addDependency deps (some L.name)) := by
  rw [applyDirectives_master, hd]
  simp [applyHandler, DirectiveHandler.process, hL, wrapLayout, bind, Except.bind, pure,
    Except.pure]

end Pass

/-- A layout or partial name finds the shared view of that name first. -/
lemma resolve_of_find? {T : NameMap Template} {value : String} {t : Template}
    (h : T.find? ("Shared/" ++ value) = some t) : resolve T value = .ok t := by
  simp [resolve, h]

/-! ### Chains of layouts -/

/-- `c` expands through the layouts `links` into `out`: each text on the way holds one Master
directive, whose layout is wrapped around it, and the last text holds none. Each link is the
directive found and the layout it names. -/
inductive Expands (T : NameMap Template) : String → List (Directive × Template) → String → Prop
  | done {c : String} : masterDirectives c = [] → Expands T c [] c
  | wrap {c : String} {d : Directive} {L : Template} {links : List (Directive × Template)}
      {out : String} :
      masterDirectives c = [d] → resolve T d.value = .ok L →
      Expands T (wrapLayout c d L) links out → Expands T c ((d, L) :: links) out

/-- The names of the layouts of a chain, in order. -/
def layoutNames (links : List (Directive × Template)) : List String :=
  links.map (·.2.name)

@[simp] lemma layoutNames_nil : layoutNames [] = [] := rfl

@[simp] lemma layoutNames_cons (d : Directive) (L : Template) (links : List (Directive × Template)) :
    layoutNames ((d, L) :: links) = L.name :: layoutNames links := rfl

@[simp] lemma length_layoutNames (links : List (Directive × Template)) :
    (layoutNames links).length = links.length := by
  simp [layoutNames]

/-- The number of passes a bound allows, when the bound is reached at the current depth. -/
lemma passesFor_of_eq {depth : Nat} {md : Int} (h : (depth : Int) = md) :
    passesFor md = depth + 1 := by
  subst h
  simp [passesFor]

/-- Below a nonnegative bound, a chain fits the passes exactly when it is no longer than the
bound. -/
lemma lt_passesFor_iff {md : Int} (hmd : 0 ≤ md) (k : Nat) : k < passesFor md ↔ (k : Int) ≤ md := by
  simp only [passesFor, if_pos hmd]
  omega

section Chain

variable {T : NameMap Template} {md : Int}

/-- In a chain of distinct layouts every wrap changes the text: an unchanged text would name the
same layout again. -/
lemma Expands.wrap_ne {c out : String} {d : Directive} {L : Template}
    {links : List (Directive × Template)} (hd : masterDirectives c = [d])
    (hL : resolve T d.value = .ok L) (h : Expands T (wrapLayout c d L) links out)
    (hnd : (L.name :: layoutNames links).Nodup) : wrapLayout c d L ≠ c := by
  intro heq
  rw [heq] at h
  cases h with
  | done hnone => simp [hd] at hnone
  | wrap hd' hL' _ =>
    obtain rfl : d = _ := List.singleton_inj.1 (hd.symm.trans hd')
    rw [hL] at hL'
    cases hL'
    simp at hnd

/-- **Expanding a chain of layouts.** From depth `depth`, with the passes left that the bound
allows, a chain of distinct layouts not yet recorded expands to its last text and records its
layouts in order when it fits the passes, and fails with `layoutTooDeep` otherwise. -/
lemma expandLayouts_of_expands {c out : String} {links : List (Directive × Template)}
    (h : Expands T c links out) :
    ∀ {fuel depth : Nat} {deps : List String}, (deps ++ layoutNames links).Nodup →
      depth + fuel = passesFor md →
      expandLayouts [.master] T md fuel depth c deps =
        if depth + links.length < passesFor md then .ok (out, deps ++ layoutNames links)
        else .error (layoutTooDeep md) := by
  induction h with
  | done hnone =>
    intro fuel depth deps _ hfuel
    cases fuel with
    | zero => simp [expandLayouts, ← hfuel]
    | succ fuel => simp [expandLayouts, applyDirectives_master_of_nil hnone, ← hfuel]
  | @wrap c d L links out hd hL hrest ih =>
    intro fuel depth deps hnd hfuel
    have hnd' : (L.name :: layoutNames links).Nodup := by
      simpa using (List.nodup_append.1 hnd).2.1
    have hnew : L.name ∉ deps := fun hm =>
      (List.nodup_append.1 hnd).2.2 _ hm _ (by simp) rfl
    have hch : (wrapLayout c d L != c) = true := by
      simpa using Expands.wrap_ne hd hL hrest hnd'
    cases fuel with
    | zero => simp [expandLayouts, ← hfuel]
    | succ fuel =>
      simp only [expandLayouts, applyDirectives_master_of_single hd hL, hch, Bool.not_true,
        Bool.false_eq_true, if_false]
      by_cases hdepth : (depth : Int) = md
      · -- The last pass the bound allows still changed the text.
        rw [if_pos hdepth, if_neg]
        rw [passesFor_of_eq hdepth]
        simp
      · have hadd : addDependency deps (some L.name) = deps ++ [L.name] := by
          simp [addDependency, hnew]
        rw [if_neg hdepth, hadd, ih (by simpa using hnd) (by omega)]
        simp [Nat.add_assoc, Nat.add_comm 1]

/-- What one pass adds to the dependencies comes after those recorded before. -/
lemma prefix_addDependency (ds : List String) (dep : Option String) : ds <+: addDependency ds dep := by
  cases dep with
  | none => exact List.prefix_refl _
  | some n =>
    simp only [addDependency]
    split
    · exact List.prefix_refl _
    · exact List.prefix_append _ _

/-- A directive pass only appends to the dependencies. -/
lemma applyDirectives_deps_extend {hs : List DirectiveHandler} {c out : String} {ch : Bool}
    {deps deps' : List String} (h : applyDirectives hs T c deps = .ok (out, ch, deps')) :
    deps <+: deps' := by
  unfold applyDirectives at h
  split at h
  · cases h; exact List.prefix_refl _
  · let le : String × Bool × List String → String × Bool × List String → Prop :=
      fun s s' => s.2.2 <+: s'.2.2
    have le_trans : ∀ a b c, le a b → le b c → le a c := fun _ _ _ h₁ h₂ => h₁.trans h₂
    have le_refl : ∀ a, le a a := fun _ => List.prefix_refl _
    have hstep : ∀ d s x s', applyHandler T d s x = .ok s' → le s s' := by
      rintro d ⟨c, changed, ds⟩ x s' hx
      simp only [applyHandler] at hx
      split at hx
      · cases hx
      · cases hx; exact prefix_addDependency ds _
    exact foldlM_mono le le_trans le_refl
      (fun s d s' hd => foldlM_mono le le_trans le_refl (hstep d) _ hd) _ h

/-- **A run that always changes the text fails.** When every pass from a set of states changes
the text and lands in the set again, expansion from the set fails with `layoutTooDeep`, whatever
the passes left and the depth. -/
lemma expandLayouts_of_always_changing {hs : List DirectiveHandler} (S : Set (String × List String))
    (hS : ∀ s ∈ S, ∃ s' ∈ S, applyDirectives hs T s.1 s.2 = .ok (s'.1, true, s'.2)) :
    ∀ (fuel depth : Nat) (s : String × List String), s ∈ S →
      expandLayouts hs T md fuel depth s.1 s.2 = .error (layoutTooDeep md)
  | 0, _, _, _ => rfl
  | fuel + 1, depth, s, hs' => by
    obtain ⟨s', hs'', hpass⟩ := hS s hs'
    simp only [expandLayouts, hpass, Bool.not_true, Bool.false_eq_true, if_false]
    split
    · rfl
    · exact expandLayouts_of_always_changing S hS fuel (depth + 1) s' hs''

/-- A layout that names itself fails under a bound of three. -/
example :
    (expandLayouts [.master]
      (NameMap.ofList [("Shared/Loop", Template.ofText "Shared/Loop" "%%Master=Loop%%<b>%%View%%</b>")])
      3 (passesFor 3) 0 "%%Master=Loop%%hi" []).toOption = none := by
  decide +kernel

end Chain

/-! ### The nesting the layouts describe -/

/-- A layout text whose Master token `t` stands before its `%%View%%`, whose `%%View%%` is the
first, and stays the first when the token is taken out. -/
def HeadForm (raw t : List Char) : Prop :=
  ∃ X₁ X₂ Y, FirstAt t raw X₁ (X₂ ++ "%%View%%".toList ++ Y) ∧
    FirstAt "%%View%%".toList raw (X₁ ++ t ++ X₂) Y ∧
    FirstAt "%%View%%".toList (X₁ ++ X₂ ++ "%%View%%".toList ++ Y) (X₁ ++ X₂) Y

/-- In a layout of head form, taking the token out after the inner text is in place is taking it
out before. -/
lemma wrap_strip_comm {raw t : String} (h : HeadForm raw.toList t.toList) (inner : String) :
    replaceOnce (replaceOnce raw "%%View%%" inner) t "" =
      replaceOnce (replaceOnce raw t "") "%%View%%" inner := by
  obtain ⟨X₁, X₂, Y, ht, hv, hv'⟩ := h
  have hwrap : replaceFirst "%%View%%".toList inner.toList raw.toList =
      X₁ ++ t.toList ++ (X₂ ++ inner.toList ++ Y) := by
    rw [replaceFirst_of_firstAt hv]
    simp
  have hstrip : replaceFirst t.toList [] raw.toList = X₁ ++ X₂ ++ "%%View%%".toList ++ Y := by
    rw [replaceFirst_of_firstAt ht]
    simp
  apply String.toList_injective
  rw [toList_replaceOnce, toList_replaceOnce, toList_replaceOnce, toList_replaceOnce,
    String.toList_empty, hwrap, hstrip, replaceFirst_of_firstAt (ht.of_tail _),
    replaceFirst_of_firstAt hv']
  simp

/-- The nesting a chain of layouts describes when each layout loses its own Master token before
it wraps the inner text: `inner` goes to the first layout's `%%View%%`, and every layout but the
last first loses the token of the directive that names the next. -/
def nestLayouts (inner : String) : List (Directive × Template) → String
  | [] => inner
  | [(_, L)] => replaceOnce L.raw "%%View%%" inner
  | (_, L) :: (d, L') :: rest =>
    nestLayouts (replaceOnce (replaceOnce L.raw d.token "") "%%View%%" inner) ((d, L') :: rest)

/-- Along a chain whose layouts are all of head form, expansion builds the nesting the layouts
describe. -/
lemma Expands.eq_nestLayouts {T : NameMap Template} :
    ∀ {links : List (Directive × Template)} {c out : String} {d : Directive} {L : Template},
      Expands T c ((d, L) :: links) out →
      ((d, L) :: links).IsChain (fun p q => HeadForm p.2.raw.toList q.1.token.toList) →
      out = nestLayouts (replaceOnce c d.token "") ((d, L) :: links)
  | [], _, _, _, _, .wrap _ _ (.done _), _ => rfl
  | (d', L') :: links, c, out, d, L, .wrap _ _ hrest, .cons_cons hhead hchain => by
    rw [Expands.eq_nestLayouts hrest hchain, nestLayouts, wrapLayout, wrap_strip_comm hhead]

/-! ### Compiling a view in layouts -/

section Compile

variable {T : NameMap Template} {md : Int} {c out : String} {links : List (Directive × Template)}

/-- Under a nonnegative bound, the whole expansion of a chain of distinct layouts succeeds
exactly when the chain is no longer than the bound. -/
lemma expandLayouts_of_expands_within (hmd : 0 ≤ md) (hc : Expands T c links out)
    (hnd : (layoutNames links).Nodup) :
    expandLayouts [.master] T md (passesFor md) 0 c [] =
      if (links.length : Int) ≤ md then .ok (out, layoutNames links)
      else .error (layoutTooDeep md) := by
  rw [expandLayouts_of_expands hc (by simpa using hnd) (by simp), Nat.zero_add]
  simp [lt_passesFor_iff hmd]

/-- Compiling a view whose text expands through a chain of distinct layouts fails with
`layoutTooDeep` past the bound; a successful compile is within it and records the layouts
first, in order. -/
lemma compileTemplate_of_expands {h : Handlers} {name : String} {tpl : Template}
    (hmaster : h.directivesOf .compile = [.master]) (hmd : 0 ≤ md)
    (htpl : T.find? name = some tpl) (hfrag : ¬ isFragment tpl.name)
    (hc : Expands T tpl.raw links out) (hnd : (layoutNames links).Nodup) :
    (md < links.length → compileTemplate h md T name = .error ((layoutTooDeep md).about "view" name)) ∧
    ∀ v ds, compileTemplate h md T name = .ok (v, ds) →
      (links.length : Int) ≤ md ∧ ∃ more, ds = some (layoutNames links ++ more) := by
  have hex := expandLayouts_of_expands_within hmd hc hnd
  refine ⟨fun hlong => ?_, fun v ds hv => ?_⟩
  · rw [if_neg (Int.not_le.2 hlong)] at hex
    simp [compileTemplate, htpl, hfrag, hmaster, hex]
  · obtain ⟨tpl', htpl', ⟨hfrag', -⟩ | ⟨-, c₁, ds₁, c₂, n, c₃, ch, ds', hex', -, hap, rfl, -⟩⟩ :=
      compileTemplate_cases hv
    · rw [htpl] at htpl'
      cases htpl'
      exact absurd hfrag' hfrag
    · rw [htpl] at htpl'
      cases htpl'
      -- The layout passes are those of the chain, so they succeeded within the bound.
      rw [hmaster, hex] at hex'
      split at hex'
      · rename_i hle
        cases hex'
        obtain ⟨more, hmore⟩ := applyDirectives_deps_extend hap
        exact ⟨hle, more, by rw [hmore]⟩
      · cases hex'

end Compile

/-! ### Nested layouts -/

/-- **Nested layouts expand to their nesting within the depth bound.** Under a bound
`0 ≤ maxDepth` and with the layout handler as the only compile-phase directive handler:

* a view text that expands through a chain of `k` distinct layouts expands to the chain's last
  text exactly when `k ≤ maxDepth`, recording the layouts in order, and fails with
  `layoutTooDeep` otherwise; when every layout's token stands before its `%%View%%` and taking it
  out forms no earlier `%%View%%`, the last text is the nesting the layouts describe;
* compiling such a view fails with `layoutTooDeep` past the bound, and a successful compile is
  within it and records the layouts first, in order;
* an expansion in which every pass changes the text fails with `layoutTooDeep`. -/
theorem nested_layouts_expand (h : Handlers) (hmaster : h.directivesOf .compile = [.master])
    (T : NameMap Template) (md : Int) (hmd : 0 ≤ md) :
    (∀ c links out, Expands T c links out → (layoutNames links).Nodup →
      expandLayouts (h.directivesOf .compile) T md (passesFor md) 0 c [] =
          (if (links.length : Int) ≤ md then .ok (out, layoutNames links)
            else .error (layoutTooDeep md)) ∧
        ∀ d L rest, links = (d, L) :: rest →
          links.IsChain (fun p q => HeadForm p.2.raw.toList q.1.token.toList) →
          out = nestLayouts (replaceOnce c d.token "") links) ∧
    (∀ name tpl links out, T.find? name = some tpl → ¬ isFragment tpl.name →
      Expands T tpl.raw links out → (layoutNames links).Nodup →
      (md < links.length → compileTemplate h md T name = .error ((layoutTooDeep md).about "view" name)) ∧
      ∀ v ds, compileTemplate h md T name = .ok (v, ds) →
        (links.length : Int) ≤ md ∧ ∃ more, ds = some (layoutNames links ++ more)) ∧
    (∀ S : Set (String × List String),
      (∀ s ∈ S, ∃ s' ∈ S,
        applyDirectives (h.directivesOf .compile) T s.1 s.2 = .ok (s'.1, true, s'.2)) →
      ∀ s ∈ S, ∀ fuel depth,
        expandLayouts (h.directivesOf .compile) T md fuel depth s.1 s.2 = .error (layoutTooDeep md)) := by
  rw [hmaster]
  refine ⟨fun c links out hc hnd => ⟨expandLayouts_of_expands_within hmd hc hnd, ?_⟩,
    fun name tpl links out htpl hfrag hc hnd => compileTemplate_of_expands hmaster hmd htpl hfrag hc hnd,
    fun S hS s hs fuel depth => expandLayouts_of_always_changing S hS fuel depth s hs⟩
  rintro d L rest rfl hchain
  exact hc.eq_nestLayouts hchain

/-- A page in a layout that has a layout of its own: with a bound of two the page expands to the
nesting, and with a bound of one it fails. -/
theorem page_in_nested_layouts :
    let layout : Template :=
      { name := "Shared/Layout", displayName := "Layout", raw := "%%Master=Base%%<main>%%View%%</main>",
        fingerprint := "" }
    let base : Template :=
      { name := "Shared/Base", displayName := "Base", raw := "<html>%%View%%</html>", fingerprint := "" }
    let T := NameMap.ofList [("Shared/Layout", layout), ("Shared/Base", base)]
    let links : List (Directive × Template) :=
      [(⟨"%%Master=Layout%%", "Master", "Layout"⟩, layout), (⟨"%%Master=Base%%", "Master", "Base"⟩, base)]
    Expands T "%%Master=Layout%%<p>Hi</p>" links "<html><main><p>Hi</p></main></html>" ∧
      expandLayouts [.master] T 2 (passesFor 2) 0 "%%Master=Layout%%<p>Hi</p>" [] =
        .ok ("<html><main><p>Hi</p></main></html>", ["Shared/Layout", "Shared/Base"]) ∧
      expandLayouts [.master] T 1 (passesFor 1) 0 "%%Master=Layout%%<p>Hi</p>" [] =
        .error (layoutTooDeep 1) ∧
      "<html><main><p>Hi</p></main></html>" = nestLayouts "<p>Hi</p>" links := by
  intro layout base T links
  have hout : wrapLayout (wrapLayout "%%Master=Layout%%<p>Hi</p>" ⟨"%%Master=Layout%%", "Master", "Layout"⟩
      layout) ⟨"%%Master=Base%%", "Master", "Base"⟩ base = "<html><main><p>Hi</p></main></html>" := by
    decide +kernel
  have hchain : Expands T "%%Master=Layout%%<p>Hi</p>" links "<html><main><p>Hi</p></main></html>" :=
    hout ▸ .wrap (by decide +kernel) (resolve_of_find? (by decide +kernel))
      (.wrap (by decide +kernel) (resolve_of_find? (by decide +kernel)) (.done (by decide +kernel)))
  have hnd : (layoutNames links).Nodup := by decide
  have hhead : HeadForm layout.raw.toList "%%Master=Base%%".toList :=
    ⟨[], "<main>".toList, "</main>".toList, breakOn_eq_some_iff.1 (by decide +kernel),
      breakOn_eq_some_iff.1 (by decide +kernel), breakOn_eq_some_iff.1 (by decide +kernel)⟩
  have hdir : Handlers.directivesOf ⟨[.master], []⟩ .compile = [.master] := rfl
  have hnames : layoutNames links = ["Shared/Layout", "Shared/Base"] := rfl
  obtain ⟨hrun₂, -, -⟩ := nested_layouts_expand ⟨[.master], []⟩ hdir T 2 (by decide)
  obtain ⟨hrun₁, -, -⟩ := nested_layouts_expand ⟨[.master], []⟩ hdir T 1 (by decide)
  obtain ⟨hok, hnest⟩ := hrun₂ _ _ _ hchain hnd
  have hfail := (hrun₁ _ _ _ hchain hnd).1
  rw [hdir, hnames, if_pos (by decide)] at hok
  rw [hdir, if_neg (by decide)] at hfail
  have hstrip : replaceOnce "%%Master=Layout%%<p>Hi</p>" "%%Master=Layout%%" "" = "<p>Hi</p>" := by
    decide +kernel
  refine ⟨hchain, hok, hfail, ?_⟩
  have hn := hnest _ _ _ rfl (.cons_cons hhead (.singleton _))
  rw [hstrip] at hn
  exact hn

/-- **Taking the token out after the splice can form a `%%View%%`.** In the layout
`%%Vi%%Master=L2%%ew%% %%View%%` the token stands between `%%Vi` and `ew%%`; once the page is in
place and the token is taken out, `%%View%%` stands at the front, and the outer layout's pass
puts the page after it. The chain has one Master token per text, one `%%View%%` per layout and
distinct layouts, yet the result is `<%%View%% c>`, not the nesting `<c %%View%%>` that the
layouts describe when each loses its token first. -/
theorem unwrapped_token_forms_view :
    let L₁ : Template :=
      { name := "Shared/L1", displayName := "L1", raw := "%%Vi%%Master=L2%%ew%% %%View%%", fingerprint := "" }
    let L₂ : Template := { name := "Shared/L2", displayName := "L2", raw := "<%%View%%>", fingerprint := "" }
    let T := NameMap.ofList [("Shared/L1", L₁), ("Shared/L2", L₂)]
    let links : List (Directive × Template) :=
      [(⟨"%%Master=L1%%", "Master", "L1"⟩, L₁), (⟨"%%Master=L2%%", "Master", "L2"⟩, L₂)]
    Expands T "%%Master=L1%%c" links "<%%View%% c>" ∧ (layoutNames links).Nodup ∧
      masterDirectives L₁.raw = [⟨"%%Master=L2%%", "Master", "L2"⟩] ∧ masterDirectives L₂.raw = [] ∧
      (expandLayouts [.master] T 8 (passesFor 8) 0 "%%Master=L1%%c" []).toOption =
        some ("<%%View%% c>", ["Shared/L1", "Shared/L2"]) ∧
      nestLayouts "c" links = "<c %%View%%>" := by
  intro L₁ L₂ T links
  have hout : wrapLayout (wrapLayout "%%Master=L1%%c" ⟨"%%Master=L1%%", "Master", "L1"⟩ L₁)
      ⟨"%%Master=L2%%", "Master", "L2"⟩ L₂ = "<%%View%% c>" := by
    decide +kernel
  have hchain : Expands T "%%Master=L1%%c" links "<%%View%% c>" :=
    hout ▸ .wrap (by decide +kernel) (resolve_of_find? (by decide +kernel))
      (.wrap (by decide +kernel) (resolve_of_find? (by decide +kernel)) (.done (by decide +kernel)))
  exact ⟨hchain, by decide, by decide +kernel, by decide +kernel, by decide +kernel, by decide +kernel⟩

end Stencil

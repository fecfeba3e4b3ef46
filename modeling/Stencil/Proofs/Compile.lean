import Stencil.Compiler.Basic
import Stencil.Proofs.Graph
/-!
# Compiling a view reads only the shared views it records

Compiling a view looks at the template store in two ways only: it reads the view's own record,
and it resolves layout and partial names, which reads the list of names and then the name and
text of the template found. Every template found is recorded as a dependency, and dependencies
are only ever added. So two stores with the same names that give the same name and text under
each recorded dependency compile the view alike (`compileTemplate_agree`).

The recorded dependencies are moreover names of the store, each once (`compileTemplate_deps`),
and the compiled record is the view's own record with its compiled text set
(`compileTemplate_ok`), when every template is kept under its own name (`OwnNamed`).
-/

namespace Stencil

/-! ### Failing folds -/

section Folds

variable {α β γ ε : Type}

lemma bind_eq_ok {x : Except ε α} {f : α → Except ε β} {b : β} :
    x >>= f = .ok b ↔ ∃ a, x = .ok a ∧ f a = .ok b := by
  cases x <;> simp [bind, Except.bind]

/-- What every successful step keeps, a successful fold keeps. -/
lemma foldlM_invariant {f : β → α → Except ε β} (P : β → Prop)
    (step : ∀ s x s', P s → f s x = .ok s' → P s') :
    ∀ (xs : List α) {s r : β}, P s → xs.foldlM f s = .ok r → P r
  | [], _, _, hs, h => by simp only [List.foldlM_nil] at h; cases h; exact hs
  | x :: xs, _, _, hs, h => by
    rw [List.foldlM_cons, bind_eq_ok] at h
    obtain ⟨s', hs', hr⟩ := h
    exact foldlM_invariant P step xs (step _ _ _ hs hs') hr

/-- A fold of steps that only move forward along `le` can be redone by other steps that agree
with them wherever the end state satisfies `P`, a property that holds below a state satisfying
it. The redone fold gives the same result. -/
lemma foldlM_transfer {f g : β → α → Except ε β} (le : β → β → Prop) (P : β → Prop)
    (le_trans : ∀ a b c, le a b → le b c → le a c) (le_refl : ∀ a, le a a)
    (mono : ∀ s x s', f s x = .ok s' → le s s')
    (down : ∀ a b, le a b → P b → P a)
    (agree : ∀ s x s', f s x = .ok s' → P s' → g s x = .ok s') :
    ∀ (xs : List α) {s r : β}, xs.foldlM f s = .ok r → P r → xs.foldlM g s = .ok r ∧ le s r
  | [], _, _, h, _ => by simp only [List.foldlM_nil] at h ⊢; cases h; exact ⟨rfl, le_refl _⟩
  | x :: xs, s, r, h, hr => by
    rw [List.foldlM_cons, bind_eq_ok] at h
    obtain ⟨s', hs', hrest⟩ := h
    obtain ⟨hg, hle⟩ := foldlM_transfer le P le_trans le_refl mono down agree xs hrest hr
    refine ⟨?_, le_trans _ _ _ (mono _ _ _ hs') hle⟩
    rw [List.foldlM_cons, agree _ _ _ hs' (down _ _ hle hr)]
    exact hg

/-- A fold of steps that only move forward along a transitive `le` moves forward. -/
lemma foldlM_mono {f : β → α → Except ε β} (le : β → β → Prop)
    (le_trans : ∀ a b c, le a b → le b c → le a c) (le_refl : ∀ a, le a a)
    (mono : ∀ s x s', f s x = .ok s' → le s s') (xs : List α) {s r : β}
    (h : xs.foldlM f s = .ok r) : le s r :=
  foldlM_invariant (le s) (fun _ x _ hs hstep => le_trans _ _ _ hs (mono _ x _ hstep)) xs
    (le_refl s) h

end Folds

/-! ### Template stores -/

/-- What compiling another view reads of a template: its name and its text. -/
def Template.nameRaw (t : Template) : String × String := (t.name, t.raw)

/-- Every template of a store is kept under its own name. -/
def OwnNamed (T : NameMap Template) : Prop :=
  ∀ k t, T.find? k = some t → t.name = k

/-- Two stores with the same names that give the same name and text under each name of `ds`. -/
def AgreeOn (T T' : NameMap Template) (ds : List String) : Prop :=
  T'.keys = T.keys ∧ ∀ n ∈ ds, (T'.find? n).map Template.nameRaw = (T.find? n).map Template.nameRaw

lemma AgreeOn.mono {T T' : NameMap Template} {ds ds' : List String} (h : AgreeOn T T' ds')
    (hsub : ds ⊆ ds') : AgreeOn T T' ds :=
  ⟨h.1, fun n hn => h.2 n (hsub hn)⟩

/-! ### Resolving shared views -/

section Scan

variable {key value n : String}

/-- The scan ends on the first name that ends in `/key`; without one, on the fallback when it is
set, and otherwise on the first name that contains `key`, or on the empty name. -/
lemma scanShared_eq (hkey : ∀ n, Text.mentions n key = true → n.isEmpty = false)
    (fallback : String) (names : List String) :
    scanShared key fallback names =
      ((names.find? fun n => Text.endsWith n ("/" ++ key)).or
        (if fallback.isEmpty then names.find? fun n => Text.mentions n key else some fallback)).getD "" := by
  induction names generalizing fallback with
  | nil =>
    by_cases hf : fallback.isEmpty
    · simp [scanShared, String.isEmpty_iff.1 hf]
    · simp [scanShared, hf]
  | cons n names ih =>
    by_cases he : Text.endsWith n ("/" ++ key) = true
    · simp [scanShared, he]
    · -- The name is passed over; it becomes the fallback when none is set and it contains the key.
      have he' : Text.endsWith n ("/" ++ key) = false := Bool.eq_false_iff.2 he
      rw [scanShared, if_neg he, ih]
      simp only [List.find?_cons, he']
      by_cases hf : fallback.isEmpty <;> by_cases hm : Text.mentions n key = true
      · simp [hf, hm, hkey n hm]
      · simp [hf, hm]
      · simp [hf]
      · simp [hf]

/-- No name that contains `Shared/<value>` is empty. -/
lemma isEmpty_of_mentions_shared (h : Text.mentions n ("Shared/" ++ value) = true) :
    n.isEmpty = false := by
  refine Bool.eq_false_iff.2 fun hn => ?_
  rw [String.isEmpty_iff.1 hn] at h
  simp [Text.mentions, Text.occursIn, Text.breakOn, String.toList_append] at h

/-- No name that ends in `/Shared/<value>` is empty. -/
lemma isEmpty_of_endsWith_shared (h : Text.endsWith n ("/" ++ ("Shared/" ++ value)) = true) :
    n.isEmpty = false := by
  refine Bool.eq_false_iff.2 fun hn => ?_
  rw [String.isEmpty_iff.1 hn] at h
  simp [Text.endsWith, String.toList_append] at h

/-- The name the scan settles on is one of the names. -/
lemma mem_of_find?_or {names : List String} {p q : String → Bool}
    (h : (names.find? p).or (names.find? q) = some n) : n ∈ names := by
  rcases Option.or_eq_some_iff.1 h with h | ⟨-, h⟩ <;> exact List.mem_of_find?_eq_some h

end Scan

section Resolve

variable {s : Scope} {T T' : NameMap Template} {value : String} {t : Template}

/-- Without `Shared/<value>` itself, the look-up takes the first name of the scope that ends in
`/Shared/<value>`, else the first that contains `Shared/<value>`. -/
lemma resolve_of_find?_none (hkey : s.templates.find? ("Shared/" ++ value) = none) :
    resolve s value =
      match (s.names.find? fun n => Text.endsWith n ("/" ++ ("Shared/" ++ value))).or
          (s.names.find? fun n => Text.mentions n ("Shared/" ++ value)) with
      | some n => .ok ((s.templates.find? n).getD default)
      | none => .error (((Fault.condition .templateNotFound).wrap "cannot resolve shared view").about
          "view" ("Shared/" ++ value)) := by
  unfold resolve
  simp only [hkey]
  have hempty : ("" : String).isEmpty = true := rfl
  rw [scanShared_eq (fun _ h => isEmpty_of_mentions_shared h)]
  simp only [hempty, ↓reduceIte]
  cases hfound : (s.names.find? fun n => Text.endsWith n ("/" ++ ("Shared/" ++ value))).or
      (s.names.find? fun n => Text.mentions n ("Shared/" ++ value)) with
  | none => rfl
  | some n =>
    -- A name found ends in or contains the key, so it is not empty.
    have hne : n.isEmpty = false := by
      rcases Option.or_eq_some_iff.1 hfound with h | ⟨-, h⟩
      · have hp := List.find?_some h
        exact isEmpty_of_endsWith_shared hp
      · have hp := List.find?_some h
        exact isEmpty_of_mentions_shared hp
    simp [hne]

/-- A shared view is a template of the store. -/
lemma resolve_find? (h : resolve T value = .ok t) : ∃ k, T.find? k = some t := by
  cases hkey : T.find? ("Shared/" ++ value) with
  | some t' =>
    simp only [resolve, hkey, Except.ok.injEq] at h
    exact ⟨_, h ▸ hkey⟩
  | none =>
    rw [resolve_of_find?_none hkey] at h
    split at h
    · -- The name found is a name of the store.
      rename_i n hn
      obtain ⟨t', ht'⟩ := NameMap.find?_of_mem_keys (mem_of_find?_or hn)
      simp only [ht', Option.getD_some, Except.ok.injEq] at h
      exact ⟨n, h ▸ ht'⟩
    · cases h

/-- A shared view of a store that keeps its templates under their own names is found under its
name. -/
lemma resolve_find?_name (hT : OwnNamed T) (h : resolve T value = .ok t) : T.find? t.name = some t := by
  obtain ⟨k, hk⟩ := resolve_find? h
  rwa [hT k t hk]

/-- Resolving in a store with the same names that gives the same name and text under the name
found finds a template of that name and text. -/
lemma resolve_agree (hT : OwnNamed T) (hk : T'.keys = T.keys) (h : resolve T value = .ok t)
    (hag : (T'.find? t.name).map Template.nameRaw = (T.find? t.name).map Template.nameRaw) :
    ∃ t', resolve T' value = .ok t' ∧ t'.nameRaw = t.nameRaw := by
  rw [resolve_find?_name hT h] at hag
  obtain ⟨t', ht', heq⟩ := Option.map_eq_some_iff.1 hag
  refine ⟨t', ?_, heq⟩
  cases hkey : T.find? ("Shared/" ++ value) with
  | some t0 =>
    -- Found directly: the same name is there in the other store.
    simp only [resolve, hkey, Except.ok.injEq] at h
    subst h
    rw [hT _ _ hkey] at ht'
    simp [resolve, ht']
  | none =>
    have hnone' : T'.find? ("Shared/" ++ value) = none := by
      rw [NameMap.find?_eq_none_iff, hk, ← NameMap.find?_eq_none_iff]; exact hkey
    rw [resolve_of_find?_none hkey] at h
    rw [resolve_of_find?_none hnone']
    -- Both stores scan the same names, so the look-up settles on the same name.
    simp only [hk] at h ⊢
    split at h
    · rename_i n hn
      obtain ⟨t0, ht0⟩ := NameMap.find?_of_mem_keys (mem_of_find?_or hn)
      simp only [ht0, Option.getD_some, Except.ok.injEq] at h
      subst h
      rw [hT _ _ ht0] at ht'
      simp [ht']
    · cases h

end Resolve

/-! ### Directive handlers -/

section Process

variable {T T' : NameMap Template} {content out : String} {d : Directive} {dep : Option String}

/-- A handler records as a dependency only a name of the store. -/
lemma process_dep (hT : OwnNamed T) {h : DirectiveHandler} {n : String}
    (hp : h.process T content d = .ok (out, some n)) : n ∈ T.keys := by
  cases h with
  | master | partialView =>
    simp only [DirectiveHandler.process] at hp
    obtain ⟨t, ht, he⟩ := bind_eq_ok.1 hp
    cases he
    exact NameMap.mem_keys_of_find? (resolve_find?_name hT ht)
  | placeholder | bundle _ => simp [DirectiveHandler.process] at hp

/-- A handler run on a store with the same names, giving the same name and text under the
dependency it records, does the same. -/
lemma process_agree (hT : OwnNamed T) (hk : T'.keys = T.keys) {h : DirectiveHandler}
    (hp : h.process T content d = .ok (out, dep))
    (hag : ∀ n, dep = some n → (T'.find? n).map Template.nameRaw = (T.find? n).map Template.nameRaw) :
    h.process T' content d = .ok (out, dep) := by
  cases h with
  | master | partialView =>
    simp only [DirectiveHandler.process] at hp ⊢
    obtain ⟨t, ht, he⟩ := bind_eq_ok.1 hp
    cases he
    obtain ⟨t', ht', heq⟩ := resolve_agree hT hk ht (hag _ rfl)
    simp only [Template.nameRaw, Prod.mk.injEq] at heq
    simp [ht', bind, Except.bind, pure, Except.pure, heq.1, heq.2]
  | placeholder | bundle _ => simpa [DirectiveHandler.process] using hp

end Process

/-! ### Applying the directives of a text -/

section Apply

variable {T T' : NameMap Template} {hs : List DirectiveHandler} {c out : String} {ch : Bool}
  {deps deps' : List String}

lemma subset_addDependency (ds : List String) (dep : Option String) : ds ⊆ addDependency ds dep := by
  cases dep with
  | none => exact List.Subset.refl _
  | some n =>
    simp only [addDependency]
    split
    · exact List.Subset.refl _
    · exact List.subset_append_left _ _

lemma mem_addDependency {ds : List String} {dep : Option String} {n : String} :
    n ∈ addDependency ds dep ↔ n ∈ ds ∨ dep = some n := by
  cases dep with
  | none => simp [addDependency]
  | some d =>
    simp only [addDependency, Option.some.injEq]
    split
    · rename_i hd
      constructor
      · exact .inl
      · rintro (h | rfl)
        · exact h
        · exact List.contains_iff_mem.1 hd
    · simp [eq_comm]

lemma nodup_addDependency {ds : List String} (hds : ds.Nodup) (dep : Option String) :
    (addDependency ds dep).Nodup := by
  cases dep with
  | none => exact hds
  | some d =>
    simp only [addDependency]
    split
    · exact hds
    · rename_i hd
      exact List.nodup_append.2 ⟨hds, List.nodup_singleton d, fun a ha b hb e => by
        rw [List.mem_singleton] at hb
        exact hd (List.contains_iff_mem.2 (hb ▸ e ▸ ha))⟩

/-- The dependencies stay duplicate-free and among the names a property holds of, when it holds
of every name of the store. -/
lemma applyDirectives_deps (hT : OwnNamed T) {good : String → Prop}
    (hgood : ∀ n ∈ T.keys, good n) (h : applyDirectives hs T c deps = .ok (out, ch, deps'))
    (hnd : deps.Nodup) (hsub : ∀ n ∈ deps, good n) : deps'.Nodup ∧ ∀ n ∈ deps', good n := by
  unfold applyDirectives at h
  split at h
  · cases h; exact ⟨hnd, hsub⟩
  · let P : String × Bool × List String → Prop := fun s => s.2.2.Nodup ∧ ∀ n ∈ s.2.2, good n
    -- One handler keeps `P`: what it records is a name of the store.
    have hstep : ∀ d s x s', P s → applyHandler T d s x = .ok s' → P s' := by
      rintro d ⟨c, changed, ds⟩ x s' ⟨hnd, hsub⟩ hx
      simp only [applyHandler] at hx
      split at hx
      · cases hx
      · rename_i out dep hp
        cases hx
        refine ⟨nodup_addDependency hnd dep, fun n hn => ?_⟩
        rcases mem_addDependency.1 hn with hn | rfl
        · exact hsub n hn
        · exact hgood n (process_dep hT hp)
    exact foldlM_invariant P (fun s d s' hs hd => foldlM_invariant P (hstep d) _ hs hd) _
      ⟨hnd, hsub⟩ h

/-- Applying directives against a store that agrees with `T` on the dependencies recorded at the
end does the same; the dependencies only grow. -/
lemma applyDirectives_agree (hT : OwnNamed T) (h : applyDirectives hs T c deps = .ok (out, ch, deps'))
    (hag : AgreeOn T T' deps') : applyDirectives hs T' c deps = .ok (out, ch, deps') ∧ deps ⊆ deps' := by
  unfold applyDirectives at h ⊢
  by_cases hne : hs.isEmpty = true
  · rw [if_pos hne] at h ⊢; cases h; exact ⟨rfl, List.Subset.refl _⟩
  · rw [if_neg hne] at h ⊢
    let le : String × Bool × List String → String × Bool × List String → Prop :=
      fun s s' => s.2.2 ⊆ s'.2.2
    let P : String × Bool × List String → Prop := fun s => AgreeOn T T' s.2.2
    have le_trans : ∀ a b c, le a b → le b c → le a c := fun _ _ _ h1 h2 => List.Subset.trans h1 h2
    have le_refl : ∀ a, le a a := fun _ => List.Subset.refl _
    have down : ∀ a b, le a b → P b → P a := fun _ _ hle hb => hb.mono hle
    -- One handler: it records the template it used, so the store agrees on it.
    have hmono : ∀ d s x s', applyHandler T d s x = .ok s' → le s s' := by
      rintro d ⟨c, changed, ds⟩ x s' hx
      simp only [applyHandler] at hx
      split at hx
      · cases hx
      · cases hx; exact subset_addDependency ds _
    have hagree : ∀ d s x s', applyHandler T d s x = .ok s' → P s' → applyHandler T' d s x = .ok s' := by
      rintro d ⟨c, changed, ds⟩ x s' hx hs'
      simp only [applyHandler] at hx ⊢
      split at hx
      · cases hx
      · rename_i out dep hp
        cases hx
        rw [process_agree hT hs'.1 hp fun n hn => hs'.2 n (mem_addDependency.2 (.inr hn))]
    have houter : ∀ s d s', applyDirective hs T s d = .ok s' → P s' →
        applyDirective hs T' s d = .ok s' :=
      fun s d s' hd hs' => (foldlM_transfer le P le_trans le_refl (hmono d) down (hagree d) _ hd hs').1
    have hmono' : ∀ s d s', applyDirective hs T s d = .ok s' → le s s' :=
      fun s d s' hd => foldlM_mono le le_trans le_refl (hmono d) _ hd
    exact foldlM_transfer le P le_trans le_refl hmono' down houter _ h hag

end Apply

/-! ### Expanding layouts -/

section Layouts

variable {T T' : NameMap Template} {hs : List DirectiveHandler} {md : Int} {c out : String}
  {deps deps' : List String}

/-- Layout expansion keeps the dependencies duplicate-free and among the names a property holds
of, when it holds of every name of the store. -/
lemma expandLayouts_deps (hT : OwnNamed T) {good : String → Prop} (hgood : ∀ n ∈ T.keys, good n) :
    ∀ {fuel depth c deps}, expandLayouts hs T md fuel depth c deps = .ok (out, deps') →
      deps.Nodup → (∀ n ∈ deps, good n) → deps'.Nodup ∧ ∀ n ∈ deps', good n
  | 0, _, _, _, h, _, _ => by simp [expandLayouts] at h
  | fuel + 1, depth, c, deps, h, hnd, hsub => by
    simp only [expandLayouts] at h
    split at h
    · cases h
    · rename_i o changed ds hap
      have hds := applyDirectives_deps hT hgood hap hnd hsub
      split at h
      · cases h; exact hds
      · split at h
        · cases h
        · exact expandLayouts_deps hT hgood h hds.1 hds.2

/-- Expanding layouts against a store that agrees with `T` on the dependencies recorded at the
end does the same; the dependencies only grow. -/
lemma expandLayouts_agree (hT : OwnNamed T) :
    ∀ {fuel depth c deps}, expandLayouts hs T md fuel depth c deps = .ok (out, deps') →
      AgreeOn T T' deps' → expandLayouts hs T' md fuel depth c deps = .ok (out, deps') ∧ deps ⊆ deps'
  | 0, _, _, _, h, _ => by simp [expandLayouts] at h
  | fuel + 1, depth, c, deps, h, hag => by
    simp only [expandLayouts] at h ⊢
    split at h
    · cases h
    · rename_i o changed ds hap
      split at h
      · -- Nothing changed: the pass's dependencies are the result.
        cases h
        obtain ⟨hap', hsub⟩ := applyDirectives_agree hT hap hag
        rw [hap']
        simp_all
      · split at h
        · cases h
        · rename_i hch hdepth
          obtain ⟨hrec, hsub⟩ := expandLayouts_agree hT h hag
          obtain ⟨hap', hsub'⟩ := applyDirectives_agree hT hap (hag.mono hsub)
          rw [hap']
          simp only [hch, hdepth, if_false, hrec]
          exact ⟨rfl, List.Subset.trans hsub' hsub⟩

end Layouts

/-! ### Compiling a view -/

section CompileTemplate

variable {h : Handlers} {md : Int} {T T' : NameMap Template} {name : String} {v : Template}
  {deps : Option (List String)}

/-- What a successful compile goes through: the view's record, and either a fragment's text or
the layout, substitution and directive passes of any other view. -/
lemma compileTemplate_cases {s : Scope} (hc : compileTemplate h md s name = .ok (v, deps)) :
    ∃ tpl, s.templates.find? name = some tpl ∧
      ((isFragment tpl.name ∧ deps = none ∧ v = { tpl with lastRender := "", compiled := tpl.raw }) ∨
       (¬ isFragment tpl.name ∧ ∃ c₁ ds₁ c₂ n c₃ ch ds,
          expandLayouts (h.directivesOf .compile) s md (passesFor md) 0 tpl.raw [] = .ok (c₁, ds₁) ∧
          substituteAll 0 c₁ (h.substitutionsOf .compile) = .ok (c₂, n) ∧
          applyDirectives (h.directivesOf .afterCompile) s c₂ ds₁ = .ok (c₃, ch, ds) ∧
          deps = some ds ∧
          v = { tpl with lastRender := "",
                         compiled := dropBlankLines (if c₃.isEmpty then tpl.raw else c₃) })) := by
  unfold compileTemplate at hc
  split at hc
  · cases hc
  · rename_i tpl htpl
    refine ⟨tpl, htpl, ?_⟩
    split at hc
    · rename_i hfrag
      cases hc
      exact .inl ⟨hfrag, rfl, rfl⟩
    · rename_i hfrag
      refine .inr ⟨hfrag, ?_⟩
      split at hc
      · cases hc
      · rename_i c₁ ds₁ hex
        split at hc
        · cases hc
        · rename_i c₂ n hsub
          split at hc
          · cases hc
          · rename_i c₃ ch ds hap
            cases hc
            exact ⟨c₁, ds₁, c₂, n, c₃, ch, ds, hex, hsub, hap, rfl, rfl⟩

/-- A compiled view is the view's own record with its compiled text set and no last render; it
records dependencies exactly when it is no fragment. -/
lemma compileTemplate_ok {s : Scope} (hc : compileTemplate h md s name = .ok (v, deps)) :
    ∃ tpl, s.templates.find? name = some tpl ∧ v = { tpl with lastRender := "", compiled := v.compiled } ∧
      (deps = none ↔ isFragment tpl.name) := by
  obtain ⟨tpl, htpl, ⟨hfrag, rfl, rfl⟩ | ⟨hfrag, -, -, -, -, -, -, ds, -, -, -, rfl, rfl⟩⟩ :=
    compileTemplate_cases hc
  · exact ⟨tpl, htpl, rfl, by simp [hfrag]⟩
  · exact ⟨tpl, htpl, rfl, by simp [hfrag]⟩

/-- The dependencies of a compiled view are names of the store, each once. -/
lemma compileTemplate_deps (hT : OwnNamed T) {ds : List String}
    (hc : compileTemplate h md T name = .ok (v, some ds)) : ds.Nodup ∧ ∀ n ∈ ds, n ∈ T.keys := by
  obtain ⟨tpl, -, ⟨-, hnone, -⟩ | ⟨-, c₁, ds₁, c₂, n, c₃, ch, ds', hex, -, hap, hds, -⟩⟩ :=
    compileTemplate_cases hc
  · cases hnone
  · cases hds
    have h₁ := expandLayouts_deps hT (fun _ hn => hn) hex List.nodup_nil (by simp)
    exact applyDirectives_deps hT (fun _ hn => hn) hap h₁.1 h₁.2

/-- **Compiling reads only what it records.** A store with the same names, the same record under
the view's name and the same name and text under each dependency the compile recorded compiles
the view alike. -/
theorem compileTemplate_agree (hT : OwnNamed T) (hc : compileTemplate h md T name = .ok (v, deps))
    (hself : T'.find? name = T.find? name) (hag : AgreeOn T T' (deps.getD [])) :
    compileTemplate h md T' name = .ok (v, deps) := by
  obtain ⟨tpl, htpl, ⟨hfrag, rfl, rfl⟩ | ⟨hfrag, c₁, ds₁, c₂, n, c₃, ch, ds, hex, hsub, hap, rfl, rfl⟩⟩ :=
    compileTemplate_cases hc
  · simp [compileTemplate, hself, htpl, hfrag]
  · simp only [Option.getD_some] at hag
    obtain ⟨hap', hds⟩ := applyDirectives_agree hT hap hag
    obtain ⟨hex', -⟩ := expandLayouts_agree hT hex (hag.mono hds)
    simp [compileTemplate, hself, htpl, hfrag, hex', hsub, hap']

end CompileTemplate

end Stencil

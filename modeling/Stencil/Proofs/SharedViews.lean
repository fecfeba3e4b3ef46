import Mathlib.Data.List.GetD
import Stencil.Proofs.Registry
import Stencil.Proofs.Layouts
import Stencil.Proofs.ByteOrder
/-!
# The names of a workspace, and finding shared views

Layouts and partials name a shared view by a value. `resolve` looks the value up in the workspace
being compiled, in order of preference: the template `Shared/<value>` itself; else the least name
that ends in `/Shared/<value>`; else the least name that contains `Shared/<value>`; else it fails
with `templateNotFound`. "Least" is in UTF-8 byte order, which is the order of names
(`Text.lt_iff_utf8_lt`).

The look-up scans the workspace's list of names once, taking the first name that ends right and
remembering the first that contains the key, so "least" rests on that list being the store's
names in increasing order (`Workspace.Synced`). A workspace begins with the names of the
published store, and storing a template new to it puts its name at the place binary search finds
(`searchPosition_spec`), which keeps the list sorted and equal to the store's names
(`Workspace.Synced.setTemplate`). On sorted names the first name a test accepts is the least it
accepts (`find?_sorted_iff`), and `resolve_precedence` puts the pieces together.
-/

namespace Stencil

/-! ### Names that end in or contain a text -/

namespace Text

/-- A text ends in a suffix exactly when it is some text followed by the suffix. -/
lemma endsWith_iff (s suffix : String) : endsWith s suffix = true ↔ ∃ pre, s = pre ++ suffix := by
  rw [endsWith, List.isPrefixOf_iff_prefix, List.reverse_prefix]
  constructor
  · rintro ⟨pre, h⟩
    exact ⟨String.ofList pre, String.ext (by simp [h])⟩
  · rintro ⟨pre, rfl⟩
    exact ⟨pre.toList, by simp⟩

/-- A text mentions a pattern exactly when the pattern stands somewhere inside it. -/
lemma mentions_iff (s pat : String) :
    mentions s pat = true ↔ ∃ pre post, s = pre ++ pat ++ post := by
  unfold mentions occursIn
  constructor
  · intro h
    obtain ⟨⟨a, b⟩, hab⟩ := Option.isSome_iff_exists.1 h
    have hs := (firstAt_of_breakOn hab).1
    exact ⟨String.ofList a, String.ofList b, String.ext (by simp [hs])⟩
  · rintro ⟨pre, post, rfl⟩
    exact breakOn_isSome (u := pre.toList) (w := post.toList) (by simp)

end Text

/-! ### Binary search -/

section Search

variable {xs : List String} {target : String}

/-- In increasing names, a name before another is below it. -/
lemma getD_lt_getD (hs : xs.Pairwise (· < ·)) {i j : Nat} (hij : i < j) (hj : j < xs.length) :
    xs.getD i "" < xs.getD j "" := by
  rw [List.getD_eq_getElem _ _ (by omega), List.getD_eq_getElem _ _ hj]
  exact List.pairwise_iff_getElem.1 hs i j (by omega) hj hij

/-- What binary search keeps of the range `[lo, hi)` it has left: every name before `lo` is below
the target and no name from `hi` on is. -/
structure SearchBounds (xs : List String) (target : String) (lo hi : Nat) : Prop where
  le : lo ≤ hi
  hi_le : hi ≤ xs.length
  below : ∀ i < lo, xs.getD i "" < target
  above : ∀ i, hi ≤ i → i < xs.length → ¬ xs.getD i "" < target

lemma SearchBounds.start (xs : List String) (target : String) : SearchBounds xs target 0 xs.length :=
  ⟨Nat.zero_le _, le_rfl, fun _ h => absurd h (Nat.not_lt_zero _), fun _ h h' => absurd h' (by omega)⟩

variable (hs : xs.Pairwise (· < ·))
include hs

/-- A middle name below the target moves the range past it. -/
lemma SearchBounds.right {lo hi : Nat} (h : SearchBounds xs target lo hi) (hlt : lo < hi)
    (hmid : xs.getD ((lo + hi) / 2) "" < target) : SearchBounds xs target ((lo + hi) / 2 + 1) hi := by
  refine ⟨by omega, h.hi_le, fun i hi => ?_, h.above⟩
  rcases Nat.lt_succ_iff_lt_or_eq.1 hi with hi | rfl
  · exact lt_trans (getD_lt_getD hs hi (by have := h.hi_le; omega)) hmid
  · exact hmid

/-- A middle name not below the target ends the range there. -/
lemma SearchBounds.left {lo hi : Nat} (h : SearchBounds xs target lo hi) (hlt : lo < hi)
    (hmid : ¬ xs.getD ((lo + hi) / 2) "" < target) : SearchBounds xs target lo ((lo + hi) / 2) := by
  refine ⟨by omega, by have := h.hi_le; omega, h.below, fun i hi hlen => ?_⟩
  rcases Nat.lt_or_eq_of_le hi with hi | rfl
  · -- A later name is above the middle one, which is not below the target.
    exact fun hlt' => hmid (lt_trans (getD_lt_getD hs hi hlen) hlt')
  · exact hmid

/-- Binary search closes the range on the place of the target: every name before it is below
the target and none after it is. -/
lemma searchFrom_bounds {lo hi : Nat} (h : SearchBounds xs target lo hi) :
    SearchBounds xs target (searchFrom xs target lo hi) (searchFrom xs target lo hi) := by
  fun_induction searchFrom xs target lo hi with
  | case1 lo hi hlt mid hmid ih => exact ih (h.right hs hlt hmid)
  | case2 lo hi hlt mid hmid ih => exact ih (h.left hs hlt hmid)
  | case3 lo hi hge =>
    have heq : lo = hi := by have := h.le; omega
    subst heq
    exact h

/-- The place binary search finds for a name splits the sorted names into those below it and
those not below it. -/
lemma searchPosition_spec :
    searchPosition xs target ≤ xs.length ∧
      (∀ a ∈ xs.take (searchPosition xs target), a < target) ∧
      ∀ a ∈ xs.drop (searchPosition xs target), ¬ a < target := by
  have hb := searchFrom_bounds hs (SearchBounds.start xs target)
  refine ⟨hb.hi_le, fun a ha => ?_, fun a ha => ?_⟩
  · obtain ⟨j, hj, rfl⟩ := List.mem_take_iff_getElem.1 ha
    have := hb.below j (lt_of_lt_of_le hj (min_le_left _ _))
    rwa [List.getD_eq_getElem _ _ (lt_of_lt_of_le hj (min_le_right _ _))] at this
  · obtain ⟨j, hj, rfl⟩ := List.mem_drop_iff_getElem.1 ha
    have hlen : searchFrom xs target 0 xs.length + j < xs.length := by
      unfold searchPosition at hj
      omega
    have := hb.above _ (Nat.le_add_right _ _) hlen
    rwa [List.getD_eq_getElem _ _ hlen] at this

omit hs in
lemma insertIdx_eq_take_drop {α : Type} (x : α) :
    ∀ (ys : List α) (p : Nat), p ≤ ys.length → ys.insertIdx p x = ys.take p ++ x :: ys.drop p
  | _, 0, _ => by simp [List.insertIdx_zero]
  | [], _ + 1, h => absurd h (by simp)
  | y :: ys, p + 1, h => by
    rw [List.insertIdx_succ_cons, insertIdx_eq_take_drop x ys p (by simpa using h)]
    simp

/-- Putting a new name at the place binary search finds keeps the names increasing. -/
lemma insertIdx_searchPosition (hx : target ∉ xs) :
    (xs.insertIdx (searchPosition xs target) target).Pairwise (· < ·) := by
  obtain ⟨hle, hbelow, habove⟩ := searchPosition_spec hs
  rw [insertIdx_eq_take_drop target xs _ hle]
  have hsplit := List.pairwise_append.1 ((List.take_append_drop (searchPosition xs target) xs).symm ▸ hs)
  refine List.pairwise_append.2 ⟨hsplit.1, List.pairwise_cons.2 ⟨fun b hb => ?_, hsplit.2.1⟩, ?_⟩
  · -- A name after the place is not below the new name, and differs from it.
    have hne : target ≠ b := fun e => hx (e ▸ List.mem_of_mem_drop hb)
    exact lt_of_le_of_ne (not_lt.1 (habove b hb)) hne
  · intro a ha b hb
    rcases List.mem_cons.1 hb with rfl | hb
    · exact hbelow a ha
    · exact hsplit.2.2 a ha b hb

end Search

/-! ### The names of a workspace -/

namespace Workspace

variable {ws : Workspace} {rec : Template}

@[simp] lemma setTemplate_templates :
    (ws.setTemplate rec).snapshot.templates = ws.snapshot.templates.insert rec.name rec := rfl

/-- Storing a template keeps a workspace in step: a name already stored keeps the names as they
are, and a new name goes where it stands among the names of the store. -/
lemma Synced.setTemplate (h : ws.Synced) (rec : Template) : (ws.setTemplate rec).Synced := by
  unfold Synced at h ⊢
  rw [setTemplate_templates]
  by_cases hk : ws.snapshot.templates.contains rec.name = true
  · have hmem := (NameMap.contains_iff _ _).1 hk
    simp only [Workspace.setTemplate, hk, if_true]
    rw [NameMap.keys_insert_of_mem hmem, h]
  · have hnot : rec.name ∉ ws.names := h ▸ fun hm => hk ((NameMap.contains_iff _ _).2 hm)
    have hnames : ws.names.Pairwise (· < ·) := Synced.names_sorted h
    have hle : searchPosition ws.names rec.name ≤ ws.names.length := (searchPosition_spec hnames).1
    simp only [Workspace.setTemplate, hk, Bool.false_eq_true, if_false]
    refine List.Pairwise.eq_of_mem_iff (insertIdx_searchPosition hnames hnot)
      (NameMap.keys_sorted _) fun a => ?_
    rw [List.mem_insertIdx hle, NameMap.mem_keys_insert, h]

lemma Synced.foldl_setTemplate (h : ws.Synced) (recs : List Template) :
    (recs.foldl Workspace.setTemplate ws).Synced := by
  induction recs generalizing ws with
  | nil => exact h
  | cons rec recs ih => exact ih (h.setTemplate rec)

lemma foldl_setTemplate_templates (ws : Workspace) (recs : List Template) :
    (recs.foldl Workspace.setTemplate ws).snapshot.templates =
      recs.foldl (fun T (rec : Template) => T.insert rec.name rec) ws.snapshot.templates := by
  induction recs generalizing ws with
  | nil => rfl
  | cons rec recs ih => exact ih (ws.setTemplate rec)

end Workspace

/-- Storing templates binds their names and keeps every name bound before, and no other. -/
lemma keys_foldl_insert (T : NameMap Template) (recs : List Template) (k : String) :
    k ∈ (recs.foldl (fun T (rec : Template) => T.insert rec.name rec) T).keys ↔
      k ∈ T.keys ∨ ∃ rec ∈ recs, rec.name = k := by
  induction recs generalizing T with
  | nil => simp
  | cons rec recs ih =>
    rw [List.foldl_cons, ih, NameMap.mem_keys_insert]
    constructor
    · rintro ((rfl | hk) | ⟨r, hr, rfl⟩)
      · exact .inr ⟨rec, List.mem_cons_self, rfl⟩
      · exact .inl hk
      · exact .inr ⟨r, List.mem_cons_of_mem _ hr, rfl⟩
    · rintro (hk | ⟨r, hr, rfl⟩)
      · exact .inl (.inr hk)
      · rcases List.mem_cons.1 hr with rfl | hr
        · exact .inl (.inl rfl)
        · exact .inr ⟨r, hr, rfl⟩

/-! ### The first name in order -/

section Sorted

variable {names : List String} (hs : names.Pairwise (· < ·)) {p : String → Bool} {n : String}
include hs

/-- On names in increasing order, the first name a test accepts comes after none it accepts. -/
lemma find?_sorted_least (h : names.find? p = some n) :
    n ∈ names ∧ p n = true ∧ ∀ m ∈ names, m < n → p m = false := by
  obtain ⟨hn, before, after, rfl, hbefore⟩ := List.find?_eq_some_iff_append.1 h
  refine ⟨by simp, hn, fun m hm hlt => ?_⟩
  rcases List.mem_append.1 hm with hm | hm
  · simpa using hbefore m hm
  · -- A name after `n` is larger than `n`, and `n` is not smaller than itself.
    rcases List.mem_cons.1 hm with rfl | hm
    · exact absurd hlt (String.lt_irrefl _)
    · have hgt : n < m := List.rel_of_pairwise_cons (List.pairwise_append.1 hs).2.1 hm
      exact absurd hgt (String.lt_asymm hlt)

/-- On names in increasing order, the first name a test accepts is the least name it accepts. -/
lemma find?_sorted_iff :
    names.find? p = some n ↔ n ∈ names ∧ p n = true ∧ ∀ m ∈ names, m < n → p m = false := by
  refine ⟨find?_sorted_least hs, fun ⟨hmem, hn, hleast⟩ => ?_⟩
  obtain ⟨a, ha⟩ := Option.isSome_iff_exists.1 (List.find?_isSome.2 ⟨n, hmem, hn⟩)
  obtain ⟨hamem, hpa, haleast⟩ := find?_sorted_least hs ha
  -- Two least names are one.
  rcases lt_trichotomy a n with hlt | rfl | hgt
  · simp [hleast a hamem hlt] at hpa
  · exact ha
  · simp [haleast n hmem hgt] at hn

end Sorted

/-! ### The order of preference -/

/-- `n` is a name of the store that `p` accepts, and no name of the store that comes before `n`
in UTF-8 byte order is. -/
def LeastName (T : NameMap Template) (p : String → Prop) (n : String) : Prop :=
  n ∈ T.keys ∧ p n ∧
    ∀ m ∈ T.keys, m.toUTF8.data.toList < n.toUTF8.data.toList → ¬ p m

/-- A least name in byte order is least in the order of names. -/
lemma LeastName.not_of_lt {T : NameMap Template} {p : String → Prop} {n m : String}
    (hn : LeastName T p n) (hm : m ∈ T.keys) (hlt : m < n) : ¬ p m :=
  hn.2.2 m hm ((Text.lt_iff_utf8_lt m n).1 hlt)

section Resolve

variable {T : NameMap Template} (value : String)

/-- The names that end in `/Shared/<value>`, as the look-up tests them. -/
lemma endsInShared_iff (n : String) :
    Text.endsWith n ("/" ++ ("Shared/" ++ value)) = true ↔ ∃ pre, n = pre ++ "/Shared/" ++ value := by
  have hkey : "/" ++ ("Shared/" ++ value) = "/Shared/" ++ value := by
    rw [← String.append_assoc]
    rfl
  rw [Text.endsWith_iff, hkey]
  simp only [String.append_assoc]

/-- The names that contain `Shared/<value>`, as the look-up tests them. -/
lemma mentionsShared_iff (n : String) :
    Text.mentions n ("Shared/" ++ value) = true ↔ ∃ pre post, n = pre ++ "Shared/" ++ value ++ post := by
  rw [Text.mentions_iff]
  simp only [String.append_assoc]

/-- Without `Shared/<value>` itself, the least name that ends in `/Shared/<value>` is taken. -/
lemma resolve_of_least_suffix (hkey : T.find? ("Shared/" ++ value) = none) {n : String} {t : Template}
    (hn : LeastName T (fun n => ∃ pre, n = pre ++ "/Shared/" ++ value) n) (ht : T.find? n = some t) :
    resolve T value = .ok t := by
  have hfind : T.keys.find? (fun n => Text.endsWith n ("/" ++ ("Shared/" ++ value))) = some n := by
    refine (find?_sorted_iff T.keys_sorted).2
      ⟨hn.1, (endsInShared_iff value n).2 hn.2.1, fun m hm hlt => ?_⟩
    exact Bool.eq_false_iff.2 fun h => hn.not_of_lt hm hlt ((endsInShared_iff value m).1 h)
  rw [resolve_of_find?_none hkey]
  simp only [hfind, Option.some_or, ht, Option.getD_some]

/-- Without `Shared/<value>` itself and without a name ending in `/Shared/<value>`, the least name
that contains `Shared/<value>` is taken. -/
lemma resolve_of_least_mention (hkey : T.find? ("Shared/" ++ value) = none)
    (hsuffix : ∀ n ∈ T.keys, ¬ ∃ pre, n = pre ++ "/Shared/" ++ value) {n : String} {t : Template}
    (hn : LeastName T (fun n => ∃ pre post, n = pre ++ "Shared/" ++ value ++ post) n)
    (ht : T.find? n = some t) : resolve T value = .ok t := by
  have hnone : T.keys.find? (fun n => Text.endsWith n ("/" ++ ("Shared/" ++ value))) = none :=
    List.find?_eq_none.2 fun m hm h => hsuffix m hm ((endsInShared_iff value m).1 h)
  have hfind : T.keys.find? (fun n => Text.mentions n ("Shared/" ++ value)) = some n := by
    refine (find?_sorted_iff T.keys_sorted).2
      ⟨hn.1, (mentionsShared_iff value n).2 hn.2.1, fun m hm hlt => ?_⟩
    exact Bool.eq_false_iff.2 fun h => hn.not_of_lt hm hlt ((mentionsShared_iff value m).1 h)
  rw [resolve_of_find?_none hkey]
  simp only [hnone, hfind, Option.none_or, ht, Option.getD_some]

/-- When no name contains `Shared/<value>`, the look-up fails with `templateNotFound`, naming the
shared view it looked for. -/
lemma resolve_of_no_mention (hmention : ∀ n ∈ T.keys, ¬ ∃ pre post, n = pre ++ "Shared/" ++ value ++ post) :
    resolve T value = .error (((Fault.condition .templateNotFound).wrap "cannot resolve shared view").about
      "view" ("Shared/" ++ value)) := by
  have hkey : T.find? ("Shared/" ++ value) = none := by
    rw [NameMap.find?_eq_none_iff]
    exact fun hk => hmention _ hk ⟨"", "", by simp⟩
  have hends : T.keys.find? (fun n => Text.endsWith n ("/" ++ ("Shared/" ++ value))) = none := by
    refine List.find?_eq_none.2 fun m hm hend => hmention m hm ?_
    obtain ⟨pre, rfl⟩ := (endsInShared_iff value m).1 hend
    exact ⟨pre ++ "/", "", by simp [String.append_assoc]⟩
  have hmentions : T.keys.find? (fun n => Text.mentions n ("Shared/" ++ value)) = none :=
    List.find?_eq_none.2 fun m hm h => hmention m hm ((mentionsShared_iff value m).1 h)
  rw [resolve_of_find?_none hkey]
  simp only [hends, hmentions, Option.none_or]

end Resolve

/-- **Shared views are found by their stated precedence.** In every workspace that begins from a
compiler and then stores any templates, the names stay strictly increasing, so sorted and without
repeats, and are exactly the names of the store: those bound before and those stored. For every
value, the look-up gives the template `Shared/<value>` if there is one; else the template of the
least name, in UTF-8 byte order, ending in `/Shared/<value>`; else that of the least name
containing `Shared/<value>`; and when no name contains it, it fails with `templateNotFound`. -/
theorem resolve_precedence (c : Compiler) (recs : List Template) :
    let ws := recs.foldl Workspace.setTemplate c.begin
    let T := ws.snapshot.templates
    ws.names.Pairwise (· < ·) ∧ ws.names = T.keys ∧
    (∀ k, k ∈ ws.names ↔ k ∈ c.snapshot.templates.keys ∨ ∃ rec ∈ recs, rec.name = k) ∧
    ∀ value : String,
      (∀ t, T.find? ("Shared/" ++ value) = some t → resolve ws.scope value = .ok t) ∧
      (T.find? ("Shared/" ++ value) = none →
        ∀ n t, LeastName T (fun n => ∃ pre, n = pre ++ "/Shared/" ++ value) n → T.find? n = some t →
          resolve ws.scope value = .ok t) ∧
      (T.find? ("Shared/" ++ value) = none → (∀ n ∈ T.keys, ¬ ∃ pre, n = pre ++ "/Shared/" ++ value) →
        ∀ n t, LeastName T (fun n => ∃ pre post, n = pre ++ "Shared/" ++ value ++ post) n →
          T.find? n = some t → resolve ws.scope value = .ok t) ∧
      ((∀ n ∈ T.keys, ¬ ∃ pre post, n = pre ++ "Shared/" ++ value ++ post) →
        resolve ws.scope value = .error (((Fault.condition .templateNotFound).wrap
          "cannot resolve shared view").about "view" ("Shared/" ++ value))) := by
  intro ws T
  -- The workspace stays in step with its store, so its look-ups read the store's sorted names.
  have hsync : ws.Synced := c.begin_synced.foldl_setTemplate recs
  have hscope : ws.scope = T := hsync.scope_eq
  refine ⟨hsync.names_sorted, hsync, fun k => ?_, fun value => ?_⟩
  · rw [hsync, Workspace.foldl_setTemplate_templates]
    exact keys_foldl_insert _ recs k
  · rw [hscope]
    exact ⟨fun t ht => resolve_of_find? ht,
      fun hkey n t hn ht => resolve_of_least_suffix value hkey hn ht,
      fun hkey hsuffix n t hn ht => resolve_of_least_mention value hkey hsuffix hn ht,
      resolve_of_no_mention value⟩

/-- Of two shared views `Nav` in different folders, stored in a workspace after a page and with no
`Shared/Nav` itself, the look-up finds the one in the folder first in order; the workspace's names
are the three names in order. -/
theorem resolve_prefers_first_folder :
    let ws := [{ name := "B/Shared/Nav", displayName := "Nav", raw := "b", fingerprint := "" },
        { name := "Home/Index", displayName := "Index", raw := "h", fingerprint := "" },
        { name := "A/Shared/Nav", displayName := "Nav", raw := "a", fingerprint := "" }].foldl
        Workspace.setTemplate ({ handlers := Handlers.empty } : Compiler).begin
    ws.names = ["A/Shared/Nav", "B/Shared/Nav", "Home/Index"] ∧
      resolve ws.scope "Nav" =
        .ok { name := "A/Shared/Nav", displayName := "Nav", raw := "a", fingerprint := "" } := by
  intro ws
  have h := resolve_precedence ({ handlers := Handlers.empty } : Compiler)
    [{ name := "B/Shared/Nav", displayName := "Nav", raw := "b", fingerprint := "" },
      { name := "Home/Index", displayName := "Index", raw := "h", fingerprint := "" },
      { name := "A/Shared/Nav", displayName := "Nav", raw := "a", fingerprint := "" }]
  have hkeys : ws.snapshot.templates.keys = ["A/Shared/Nav", "B/Shared/Nav", "Home/Index"] := by
    decide +kernel
  refine ⟨h.2.1.trans hkeys, (h.2.2.2 "Nav").2.1 (by decide +kernel) "A/Shared/Nav" _
    ⟨by rw [hkeys]; simp, ⟨"A", rfl⟩, fun m hm hlt => ?_⟩ (by decide +kernel)⟩
  -- No name of the store comes before the first folder's view.
  rw [hkeys] at hm
  have hlt' := (Text.lt_iff_utf8_lt _ _).2 hlt
  simp only [List.mem_cons, List.not_mem_nil, or_false] at hm
  rcases hm with rfl | rfl | rfl <;> exact absurd hlt' (by decide)

end Stencil

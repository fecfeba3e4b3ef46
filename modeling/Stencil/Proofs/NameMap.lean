import Mathlib.Data.String.Basic
import Mathlib.Data.List.Sort
import Stencil.Data.NameMap
/-!
# Name maps: look-up and order

A name map's names strictly increase along its entries, by its type. So the names are a sorted
list without repetitions (`keys_sorted`), every entry is what its name is bound to
(`find?_of_mem`), so two maps with the same look-ups are equal (`ext_find?`); inserting a name
already bound keeps the names (`keys_insert_of_mem`), and a map built from pairs of distinct names
holds those pairs (`entries_ofList_perm`).

The look-up lemmas are tagged for `simp`, so that later proofs read a map through `find?` and
`keys` and never unfold its entries.
-/

namespace Stencil.NameMap

variable {α β : Type}

/-! ### Looking names up -/

@[simp] lemma find?_empty (k : String) : (empty : NameMap α).find? k = none := rfl

@[simp] lemma keys_empty : (empty : NameMap α).keys = [] := rfl

lemma insertEntry_find?_ne {k k' : String} (v : α) (h : k ≠ k') :
    ∀ es : List (String × α), (insertEntry k v es).find? (·.1 == k') = es.find? (·.1 == k')
  | [] => by simp [insertEntry, h]
  | (k'', v') :: rest => by
    simp only [insertEntry]
    split
    · simp [h]
    · split
      · rename_i e; subst e; simp [h]
      · simp [List.find?_cons, insertEntry_find?_ne v h rest]

@[simp] lemma find?_insert_ne (m : NameMap α) {k k' : String} (v : α) (h : k ≠ k') :
    (m.insert k v).find? k' = m.find? k' := by
  simp [find?, insert, insertEntry_find?_ne v h]

lemma find?_insert (m : NameMap α) (k k' : String) (v : α) :
    (m.insert k v).find? k' = if k = k' then some v else m.find? k' := by
  by_cases h : k = k'
  · subst h; simp
  · simp [h]

/-- A name is bound exactly when it is among the names. -/
lemma find?_isSome_iff (m : NameMap α) (k : String) : (m.find? k).isSome ↔ k ∈ m.keys := by
  simp [find?, keys, List.find?_isSome]

lemma find?_eq_none_iff (m : NameMap α) (k : String) : m.find? k = none ↔ k ∉ m.keys := by
  rw [← find?_isSome_iff]; simp

lemma mem_keys_of_find? {m : NameMap α} {k : String} {v : α} (h : m.find? k = some v) :
    k ∈ m.keys := by
  rw [← find?_isSome_iff, h]; rfl

/-- Every name of a map is bound. -/
lemma find?_of_mem_keys {m : NameMap α} {k : String} (hk : k ∈ m.keys) : ∃ v, m.find? k = some v :=
  Option.isSome_iff_exists.1 ((find?_isSome_iff m k).2 hk)

@[simp] lemma contains_iff (m : NameMap α) (k : String) : m.contains k = true ↔ k ∈ m.keys := by
  simp [contains, keys]

/-! ### Names after an update -/

@[simp] lemma mem_keys_insert (m : NameMap α) (k k' : String) (v : α) :
    k' ∈ (m.insert k v).keys ↔ k' = k ∨ k' ∈ m.keys := by
  rw [← find?_isSome_iff, ← find?_isSome_iff, find?_insert]
  by_cases h : k = k'
  · subst h; simp
  · have h' : k' ≠ k := fun e => h e.symm
    simp [h, h']

/-- Inserting a name already bound into a sorted map keeps its names. -/
lemma keys_insert_of_mem {m : NameMap α} {k : String} (hk : k ∈ m.keys) (v : α) :
    (m.insert k v).keys = m.keys := by
  obtain ⟨es, hs⟩ := m
  simp only [keys, insert] at *
  induction es with
  | nil => simp at hk
  | cons e rest ih =>
    obtain ⟨k', v'⟩ := e
    have hrest := List.pairwise_cons.1 hs
    simp only [insertEntry]
    split
    · rename_i hlt
      -- `k` sits below the first name, so it cannot be among the names.
      exfalso
      simp only [List.map_cons, List.mem_cons, List.mem_map] at hk
      rcases hk with rfl | ⟨b, hb, rfl⟩
      · exact String.lt_irrefl _ hlt
      · exact String.lt_asymm hlt (hrest.1 b hb)
    · split
      · rename_i e; subst e; simp
      · rename_i hne
        have hk' : k ∈ rest.map (·.1) := by
          simp only [List.map_cons, List.mem_cons] at hk
          exact hk.resolve_left hne
        simp [ih hrest.2 hk']

lemma find?_erase (m : NameMap α) (k k' : String) :
    (m.erase k).find? k' = if k = k' then none else m.find? k' := by
  by_cases h : k = k'
  · subst h
    simp only [find?, erase, List.find?_filter, if_true, Option.map_eq_none_iff, List.find?_eq_none]
    intro a _ ha
    simp_all
  · simp only [find?, erase, List.find?_filter, h, if_false]
    congr 2
    funext a
    by_cases ha : a.1 = k' <;> simp [ha, Ne.symm h]

@[simp] lemma find?_erase_self (m : NameMap α) (k : String) : (m.erase k).find? k = none := by
  simp [find?_erase]

@[simp] lemma find?_erase_ne (m : NameMap α) {k k' : String} (h : k ≠ k') :
    (m.erase k).find? k' = m.find? k' := by
  simp [find?_erase, h]

/-! ### Sorted maps -/

/-- The names of a map strictly increase. -/
lemma keys_sorted (m : NameMap α) : m.keys.Pairwise (· < ·) :=
  List.pairwise_map.2 m.sorted

lemma keys_nodup (m : NameMap α) : m.keys.Nodup :=
  m.keys_sorted.imp ne_of_lt

/-- A bound name of a map is one of its entries. -/
lemma mem_entries_of_find? {m : NameMap α} {k : String} {v : α} (h : m.find? k = some v) :
    (k, v) ∈ m.entries := by
  simp only [find?, Option.map_eq_some_iff] at h
  obtain ⟨⟨k', v'⟩, hfind, rfl⟩ := h
  have hk := List.find?_some hfind
  simp only [beq_iff_eq] at hk
  subst hk
  exact List.mem_of_find?_eq_some hfind

/-- Every entry of a map is what its name is bound to. -/
lemma find?_of_mem {m : NameMap α} {k : String} {v : α} (h : (k, v) ∈ m.entries) :
    m.find? k = some v := by
  obtain ⟨es, hs⟩ := m
  simp only [find?, Option.map_eq_some_iff] at h ⊢
  induction es with
  | nil => simp at h
  | cons e rest ih =>
    obtain ⟨k', v'⟩ := e
    have hrest := List.pairwise_cons.1 hs
    rcases List.mem_cons.1 h with h | h
    · cases h; simp
    · -- A later entry has a larger name.
      have hlt : k' < k := hrest.1 (k, v) h
      simpa [List.find?_cons, String.ne_of_lt hlt] using ih hrest.2 h

/-- Two maps that bind every name alike are equal. -/
lemma ext_find? {m m' : NameMap α} (h : ∀ k, m.find? k = m'.find? k) : m = m' := by
  let r : String × α → String × α → Prop := fun a b => a.1 < b.1
  have : Std.Antisymm r := ⟨fun _ _ hab hba => absurd hba (String.lt_asymm hab)⟩
  have : Std.Irrefl r := ⟨fun a => String.lt_irrefl a.1⟩
  ext1
  refine List.Pairwise.eq_of_mem_iff m.sorted m'.sorted fun ⟨k, v⟩ => ⟨fun he => ?_, fun he => ?_⟩
  · have hf := find?_of_mem he
    rw [h k] at hf
    exact mem_entries_of_find? hf
  · have hf := find?_of_mem he
    rw [← h k] at hf
    exact mem_entries_of_find? hf

@[simp] lemma find?_map (f : α → β) (m : NameMap α) (k : String) :
    (m.map f).find? k = (m.find? k).map f := by
  simp only [find?, map, List.find?_map, Option.map_map]
  rfl

@[simp] lemma keys_map (f : α → β) (m : NameMap α) : (m.map f).keys = m.keys := by
  simp [keys, map]

@[simp] lemma map_id (m : NameMap α) : m.map id = m := by
  ext1; simp [map]

/-! ### Building a map from pairs -/

lemma mem_of_find?_foldl_insert (xs : List (String × α)) :
    ∀ (m : NameMap α) {k : String} {v : α},
      (xs.foldl (fun m (p : String × α) => m.insert p.1 p.2) m).find? k = some v →
        m.find? k = some v ∨ (k, v) ∈ xs := by
  induction xs with
  | nil => exact fun _ _ _ h => .inl h
  | cons p xs ih =>
    intro m k v h
    rcases ih _ h with h | h
    · rw [find?_insert] at h
      split at h
      · rename_i e; cases h; exact .inr (e ▸ List.mem_cons_self)
      · exact .inl h
    · exact .inr (List.mem_cons_of_mem _ h)

/-- What a map built from pairs binds is one of the pairs. -/
lemma mem_of_find?_ofList {xs : List (String × α)} {k : String} {v : α}
    (h : (ofList xs).find? k = some v) : (k, v) ∈ xs := by
  rcases mem_of_find?_foldl_insert xs empty h with h | h
  · simp at h
  · exact h

/-- Inserting names larger than every name of the map puts them at the end. -/
lemma insertEntry_of_lt {k : String} (v : α) :
    ∀ {es : List (String × α)}, (∀ a ∈ es, a.1 < k) → insertEntry k v es = es ++ [(k, v)]
  | [], _ => rfl
  | (k', v') :: rest, h => by
    have hlt : k' < k := h _ List.mem_cons_self
    simp only [insertEntry, if_neg (String.lt_asymm hlt), if_neg (String.ne_of_lt hlt).symm,
      List.cons_append]
    rw [insertEntry_of_lt v fun a ha => h a (List.mem_cons_of_mem _ ha)]

/-- Pairs already in name order are the map they build. -/
lemma ofList_of_sorted {xs : List (String × α)} (h : xs.Pairwise fun a b => a.1 < b.1) :
    ofList xs = ⟨xs, h⟩ := by
  suffices ∀ m : NameMap α, (m.entries ++ xs).Pairwise (fun a b => a.1 < b.1) →
      (xs.foldl (fun (m : NameMap α) (p : String × α) => m.insert p.1 p.2) m).entries =
        m.entries ++ xs by
    ext1; exact this empty h
  clear h
  induction xs with
  | nil => simp
  | cons p xs ih =>
    intro m hm
    have hlt : ∀ a ∈ m.entries, a.1 < p.1 :=
      fun a ha => (List.pairwise_append.1 hm).2.2 a ha p List.mem_cons_self
    have hins : (m.insert p.1 p.2).entries = m.entries ++ [p] := by
      simp [insert, insertEntry_of_lt p.2 hlt]
    rw [List.foldl_cons, ih _ (by rwa [hins, List.append_assoc, List.singleton_append]), hins]
    simp

/-- A map's entries build the map again. -/
@[simp] lemma ofList_entries (m : NameMap α) : ofList m.entries = m :=
  ofList_of_sorted m.sorted

/-- The names of a map built from pairs are the first components of the pairs. -/
lemma mem_keys_ofList {xs : List (String × α)} {k : String} :
    k ∈ (ofList xs).keys ↔ k ∈ xs.map Prod.fst := by
  constructor
  · intro hk
    obtain ⟨v, hv⟩ := Option.isSome_iff_exists.1 ((find?_isSome_iff _ k).2 hk)
    exact List.mem_map.2 ⟨(k, v), mem_of_find?_ofList hv, rfl⟩
  · -- Every insertion keeps the names before it, and the fold inserts each first component.
    suffices ∀ (m : NameMap α), k ∈ m.keys ∨ k ∈ xs.map Prod.fst →
        k ∈ (xs.foldl (fun m (p : String × α) => m.insert p.1 p.2) m).keys from
      fun hk => this empty (.inr hk)
    induction xs with
    | nil => simp
    | cons p xs ih =>
      intro m hk
      apply ih
      simp only [List.map_cons, List.mem_cons] at hk
      rcases hk with hk | rfl | hk
      · exact .inl ((mem_keys_insert _ _ _ _).2 (.inr hk))
      · exact .inl ((mem_keys_insert _ _ _ _).2 (.inl rfl))
      · exact .inr hk

/-- A map built from pairs has at most as many names as pairs. -/
lemma length_keys_ofList_le (xs : List (String × α)) : (ofList xs).keys.length ≤ xs.length := by
  simpa using (List.subperm_of_subset (keys_nodup _) fun k hk => mem_keys_ofList.1 hk).length_le

/-- A second insertion of a name overwrites the first. -/
lemma insertEntry_insertEntry (k : String) (v w : α) :
    ∀ es : List (String × α), insertEntry k w (insertEntry k v es) = insertEntry k w es
  | [] => by simp [insertEntry]
  | (k', v') :: rest => by
    simp only [insertEntry]
    split
    · simp [insertEntry]
    · split
      · simp [insertEntry]
      · rename_i h1 h2
        simp [insertEntry, h1, h2, insertEntry_insertEntry k v w rest]

@[simp] lemma insert_insert (m : NameMap α) (k : String) (v w : α) :
    (m.insert k v).insert k w = m.insert k w := by
  simp [insert, insertEntry_insertEntry]

/-- Pairs of distinct names are the entries of the map they build, in another order. -/
lemma entries_ofList_perm {xs : List (String × α)} (hnd : (xs.map Prod.fst).Nodup) :
    (ofList xs).entries.Perm xs := by
  refine (List.perm_ext_iff_of_nodup ((keys_nodup (ofList xs)).of_map _) (hnd.of_map _)).2 ?_
  rintro ⟨k, v⟩
  constructor
  · exact fun hp => mem_of_find?_ofList (find?_of_mem hp)
  · intro hp
    -- The name is bound, to the value of a pair of that name, which is the pair itself.
    obtain ⟨v', hv'⟩ := find?_of_mem_keys (mem_keys_ofList.2 (List.mem_map_of_mem hp))
    have heq : (k, v') = (k, v) := List.inj_on_of_nodup_map hnd (mem_of_find?_ofList hv') hp rfl
    rw [← heq]
    exact mem_entries_of_find? hv'

/-- Building from pairs and one more pair inserts that pair last. -/
lemma ofList_append_singleton (xs : List (String × α)) (k : String) (v : α) :
    ofList (xs ++ [(k, v)]) = (ofList xs).insert k v := by
  simp [ofList, List.foldl_append]

end Stencil.NameMap

/-!
# Maps keyed by name

A `NameMap` is a finite map from names to values, kept as a list of entries sorted by name with
each name at most once. Every listing (names, values, entries) is therefore in name order, which
is the order every answer of the engine uses. The order is part of the map: each way of building
one (`empty`, `insert`, `erase`, `map`) proves it where the entries are made, so no
later statement has to assume it.
-/

namespace Stencil

/-- A finite map from names, its entries sorted by name. -/
@[ext] structure NameMap (α : Type) where
  /-- The entries, in name order. -/
  entries : List (String × α)
  /-- Names strictly increase along the entries, so each name is bound at most once. -/
  sorted : entries.Pairwise fun a b => a.1 < b.1

namespace NameMap

variable {α : Type}

/-- The empty map. -/
def empty : NameMap α := ⟨[], List.Pairwise.nil⟩

instance : EmptyCollection (NameMap α) := ⟨empty⟩

instance : Inhabited (NameMap α) := ⟨empty⟩

/-- Inserts into a sorted entry list, replacing the value of an equal name. -/
def insertEntry (k : String) (v : α) : List (String × α) → List (String × α)
  | [] => [(k, v)]
  | (k', v') :: rest =>
    if k < k' then (k, v) :: (k', v') :: rest
    else if k = k' then (k, v) :: rest
    else (k', v') :: insertEntry k v rest

theorem mem_insertEntry {k : String} {v : α} {a : String × α} :
    ∀ {es : List (String × α)}, a ∈ insertEntry k v es → a = (k, v) ∨ a ∈ es
  | [], h => by simpa [insertEntry] using h
  | (k', v') :: rest, h => by
    simp only [insertEntry] at h
    split at h
    · simpa using h
    · split at h
      · simp only [List.mem_cons] at h
        rcases h with h | h
        · exact .inl h
        · exact .inr (List.mem_cons_of_mem _ h)
      · simp only [List.mem_cons] at h
        rcases h with h | h
        · exact .inr (h ▸ List.mem_cons_self)
        · rcases mem_insertEntry h with h | h
          · exact .inl h
          · exact .inr (List.mem_cons_of_mem _ h)

/-- Inserting into a sorted entry list keeps it sorted. -/
theorem insertEntry_sorted (k : String) (v : α) :
    ∀ {es : List (String × α)}, es.Pairwise (fun a b => a.1 < b.1) →
      (insertEntry k v es).Pairwise (fun a b => a.1 < b.1)
  | [], _ => by simp [insertEntry]
  | (k', v') :: rest, h => by
    have hrest := List.pairwise_cons.1 h
    simp only [insertEntry]
    split
    · rename_i hlt
      refine List.Pairwise.cons (fun b hb => ?_) h
      rcases List.mem_cons.1 hb with rfl | hb
      · exact hlt
      · exact String.lt_trans hlt (hrest.1 b hb)
    · split
      · rename_i e; subst e
        exact List.Pairwise.cons hrest.1 hrest.2
      · rename_i hnlt hne
        -- Neither below nor equal to `k'`, the new name goes after it.
        have hgt : k' < k := Std.lt_of_le_of_ne (String.not_lt.1 hnlt) (Ne.symm hne)
        refine List.Pairwise.cons (fun b hb => ?_) (insertEntry_sorted k v hrest.2)
        rcases mem_insertEntry hb with rfl | hb
        · exact hgt
        · exact hrest.1 b hb

/-- The map with `k` bound to `v`. -/
def insert (m : NameMap α) (k : String) (v : α) : NameMap α :=
  ⟨insertEntry k v m.entries, insertEntry_sorted k v m.sorted⟩

/-- The value bound to `k`, if any. -/
def find? (m : NameMap α) (k : String) : Option α :=
  (m.entries.find? (·.1 == k)).map (·.2)

/-- Whether `k` is bound. -/
def contains (m : NameMap α) (k : String) : Bool :=
  m.entries.any (·.1 == k)

/-- The map without `k`. -/
def erase (m : NameMap α) (k : String) : NameMap α :=
  ⟨m.entries.filter (·.1 != k), m.sorted.filter _⟩

/-- The names, in order. -/
def keys (m : NameMap α) : List String :=
  m.entries.map (·.1)

/-- The values, in name order. -/
def values (m : NameMap α) : List α :=
  m.entries.map (·.2)

/-- The number of names. -/
def size (m : NameMap α) : Nat :=
  m.entries.length

/-- The map of a list of pairs; a later pair of the same name wins. -/
def ofList (xs : List (String × α)) : NameMap α :=
  xs.foldl (fun m (k, v) => m.insert k v) empty

/-- Applies `f` to every value. -/
def map {β : Type} (f : α → β) (m : NameMap α) : NameMap β :=
  ⟨m.entries.map fun (k, v) => (k, f v), List.pairwise_map.2 m.sorted⟩

/-- Looking up the name just inserted gives its value. -/
theorem find?_insertEntry_self (k : String) (v : α) (es : List (String × α)) :
    (insertEntry k v es).find? (·.1 == k) = some (k, v) := by
  induction es with
  | nil => simp [insertEntry]
  | cons e rest ih =>
    obtain ⟨k', v'⟩ := e
    simp only [insertEntry]
    split
    · simp
    · split
      · simp
      · rename_i _ h2
        simp [ih, Ne.symm h2]

@[simp] theorem find?_insert_self (m : NameMap α) (k : String) (v : α) :
    (m.insert k v).find? k = some v := by
  simp [find?, insert, find?_insertEntry_self]

end NameMap

end Stencil

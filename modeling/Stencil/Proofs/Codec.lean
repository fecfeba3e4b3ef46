import Stencil.Cache.Read
import Stencil.Proofs.Cache
/-!
# The cache formats read back what they write

Writing a cache builds a document from the normalised cache and prints it; reading parses the
text and reads the document into the shape of a cache, field by field. The printing and parsing
of JSON and YAML texts are taken as given: each format, on the text it prints for a cache, gives
back the document it printed (`CacheFormat.ReadsBack`). From that, reading the document into the
cache shape is proved to give back the records and dependency lists written, so for a cache with
templates whose record lists name each record once (`codec_round_trip`):

* reading back the text written gives the normalised cache;
* writing again what was read gives the same text;

and every text fails to read exactly when its document does not read into the shape or holds no
templates, always as a corrupt cache.

A record reads into the value of its seven text fields (`Template.datum`), the fields it leaves out
being empty; a list is read item by item into storage that grows as it needs; a table entry by
entry.
-/

namespace Stencil

/-! ### Loops that only compute -/

section Loops

variable {m : Type → Type} [Monad m] [LawfulMonad m] {α β γ : Type}

/-- A loop over mapped items, each step of which yields without effect, folds over the items. -/
lemma forIn_map_eq_foldl (h : γ → α) (f : α → β → m (ForInStep β)) (g : β → γ → β) :
    ∀ (ps : List γ), (∀ p ∈ ps, ∀ b, f (h p) b = pure (.yield (g b p))) →
      ∀ b, forIn (ps.map h) b f = pure (ps.foldl g b)
  | [], _, b => by simp
  | p :: ps, hf, b => by
    simp only [List.map_cons, List.forIn_cons, hf p List.mem_cons_self b, pure_bind,
      List.foldl_cons]
    exact forIn_map_eq_foldl h f g ps (fun q hq => hf q (List.mem_cons_of_mem p hq)) _

/-- A loop each step of which, from a state related to the items done, yields without effect a
state related to one more item, ends in a state related to all the items. -/
lemma forIn_of_step (f : α → β → m (ForInStep β)) (R : List α → β → Prop) (l : List α)
    (hf : ∀ pre a suf b, l = pre ++ a :: suf → R pre b →
      ∃ b', f a b = pure (.yield b') ∧ R (pre ++ [a]) b') :
    ∀ suf pre b, l = pre ++ suf → R pre b → ∃ b', forIn suf b f = pure b' ∧ R l b'
  | [], pre, b, hl, hb => ⟨b, by simp, by simpa [hl] using hb⟩
  | a :: suf, pre, b, hl, hb => by
    obtain ⟨b₁, hb₁, hR₁⟩ := hf pre a suf b hl hb
    obtain ⟨b', hb', hR'⟩ := forIn_of_step f R l hf suf (pre ++ [a]) b₁ (by simp [hl]) hR₁
    refine ⟨b', ?_, hR'⟩
    rw [List.forIn_cons, hb₁, pure_bind]
    exact hb'

/-- The rule of a loop followed by more: the loop ends in a state related to all its items, from
which what follows has the property asked for. -/
lemma forIn_bind_of_step (Q : m γ → Prop) (f : α → β → m (ForInStep β)) (K : β → m γ)
    (R : List α → β → Prop) (l : List α) (b : β) (hb : R [] b)
    (hf : ∀ pre a suf b, l = pre ++ a :: suf → R pre b →
      ∃ b', f a b = pure (.yield b') ∧ R (pre ++ [a]) b')
    (hK : ∀ b', R l b' → Q (K b')) : Q (forIn l b f >>= K) := by
  obtain ⟨b', hb', hR⟩ := forIn_of_step f R l hf l [] b rfl hb
  rw [hb', pure_bind]
  exact hK b' hR

end Loops

/-! ### The value of a record -/

namespace Template

/-- The value a record reads into: its seven text fields in the order of the record shape. -/
def datum (t : Template) : Datum :=
  .record [("logicalName", .text t.name), ("displayName", .text t.displayName),
    ("sourcePath", .text t.sourcePath), ("rawContent", .text t.raw),
    ("fingerprint", .text t.fingerprint), ("compiledContent", .text t.compiled),
    ("lastRenderResult", .text t.lastRender)]

@[simp] lemma recordOf_datum (t : Template) : ViewCache.recordOf t.datum = t := rfl

/-- Setting the fields a record writes into the empty record gives its value: a field left out
is empty. -/
lemma foldl_setField_fields (t : Template) :
    t.fields.foldl (fun d p => d.setField p.1 (.text p.2)) CacheFormat.recordShape.zero =
      t.datum := by
  -- An optional field is written exactly when it is not empty; either way the record holds it.
  obtain ⟨name, displayName, sourcePath, raw, fingerprint, compiled, lastRender⟩ := t
  by_cases hs : sourcePath.isEmpty <;> by_cases hc : compiled.isEmpty <;>
    by_cases hr : lastRender.isEmpty <;>
    simp_all [fields, datum, Datum.setField, CacheFormat.recordShape, Shape.zero,
      Shape.zero.zeroFields, String.isEmpty_iff]

/-- A property of the seven field names holds of every field a record writes. -/
lemma fields_keys (t : Template) {P : String → Prop}
    (hP : P "logicalName" ∧ P "displayName" ∧ P "sourcePath" ∧ P "rawContent" ∧
      P "fingerprint" ∧ P "compiledContent" ∧ P "lastRenderResult") :
    ∀ p ∈ t.fields, P p.1 := by
  obtain ⟨h₁, h₂, h₃, h₄, h₅, h₆, h₇⟩ := hP
  intro p hp
  simp only [fields, List.mem_append, List.mem_cons, List.mem_ite_nil_left,
    List.not_mem_nil, or_false] at hp
  rcases hp with ((((h | h) | ⟨-, h⟩) | h | h) | ⟨-, h⟩) | ⟨-, h⟩ <;> subst h <;> assumption

/-- A record writes each of its fields once. -/
lemma nodup_keys (t : Template) : (t.fields.map Prod.fst).Nodup := by
  unfold fields
  split_ifs <;> simp

end Template

/-! ### Tables of values -/

namespace Datum

lemma setEntry_of_not_mem {es : List (String × Datum)} {k : String} (v : Datum)
    (hk : k ∉ es.map Prod.fst) : setEntry es k v = es ++ [(k, v)] := by
  have hany : es.any (·.1 == k) = false := by
    simpa [List.any_eq_false] using fun a b hab hak => hk (List.mem_map.2 ⟨(a, b), hab, hak⟩)
  simp [setEntry, hany]

/-- Setting a field leaves the others as they were. -/
lemma field_setField_ne (d : Datum) {k n : String} (v : Datum) (h : k ≠ n) :
    (d.setField k v).field n = d.field n := by
  cases d with
  | record fs =>
    simp only [setField, field]
    congr 1
    induction fs with
    | nil => rfl
    | cons p fs ih =>
      obtain ⟨a, b⟩ := p
      have hpair : (if (a == k) = true then (a, v) else (a, b)) =
          (a, if (a == k) = true then v else b) := by
        split <;> rfl
      simp only [List.map_cons, hpair, List.lookup_cons]
      by_cases hn : n = a
      · -- The field asked for is not the one set.
        subst hn
        have hk : (n == k) = false := by simpa using Ne.symm h
        simp [hk]
      · have hn' : (n == a) = false := by simpa using hn
        simp only [hn', ih]
  | _ => rfl

/-- Setting fields of other names leaves a field as it was. -/
lemma field_foldl_setField {α : Type} (key : α → String) (val : α → Datum) (n : String) :
    ∀ (ps : List α) (d : Datum), n ∉ ps.map key →
      (ps.foldl (fun d p => d.setField (key p) (val p)) d).field n = d.field n
  | [], _, _ => rfl
  | p :: ps, d, hn => by
    simp only [List.map_cons, List.mem_cons, not_or] at hn
    rw [List.foldl_cons, field_foldl_setField key val n ps _ hn.2,
      field_setField_ne d _ (Ne.symm hn.1)]

/-- Entries of distinct names, set one after the other, are appended in order. -/
lemma foldl_setEntry {β : Type} (V : String × β → Datum) :
    ∀ (ps : List (String × β)) (acc : List (String × Datum)),
      ((acc.map Prod.fst) ++ ps.map Prod.fst).Nodup →
      ps.foldl (fun b e => setEntry b e.1 (V e)) acc = acc ++ ps.map fun e => (e.1, V e)
  | [], acc, _ => by simp
  | p :: ps, acc, hnd => by
    have hp : p.1 ∉ acc.map Prod.fst := fun h => by
      simp only [List.map_cons] at hnd
      exact (List.nodup_append.1 hnd).2.2 p.1 h p.1 List.mem_cons_self rfl
    rw [List.foldl_cons, setEntry_of_not_mem _ hp, foldl_setEntry V ps _ (by simpa using hnd)]
    simp

end Datum

/-- Pairs of distinct names build one map whatever their order. -/
lemma NameMap.ofList_eq_of_perm {α : Type} {xs ys : List (String × α)} (hp : xs.Perm ys)
    (hnd : (xs.map Prod.fst).Nodup) : NameMap.ofList xs = NameMap.ofList ys := by
  have hnd' : (ys.map Prod.fst).Nodup := (hp.map Prod.fst).nodup_iff.1 hnd
  -- Both maps list their entries in strict name order, and hold the same entries.
  have heq : (NameMap.ofList xs).entries = (NameMap.ofList ys).entries :=
    List.Perm.eq_of_pairwise (fun _ _ _ _ hab hba => absurd hab (String.lt_asymm hba))
      (NameMap.ofList xs).sorted (NameMap.ofList ys).sorted
      ((NameMap.entries_ofList_perm hnd).trans (hp.trans (NameMap.entries_ofList_perm hnd').symm))
  exact NameMap.ext heq

namespace ViewCache

/-- The cache a value holds, its parts under the names of a format. -/
lemma ofDatum_eq (fmt : CacheFormat) (d : Datum) : ofDatum fmt d =
    { templates := (d.field fmt.partNames.1).asList.map recordOf
      compiled := (d.field fmt.partNames.2.1).asList.map recordOf
      dependencies := NameMap.ofList ((d.field fmt.partNames.2.2).asTable.map fun kv =>
        (kv.1, kv.2.asList.map Datum.asText)) } := by
  cases fmt <;> rfl

/-- The JSON document of a cache, its records and lists written field by field. -/
lemma toJsonValue_eq (c : ViewCache) : c.toJsonValue =
    .object [("ViewTemplates",
        .array (c.templates.map fun t => .object (t.fields.map fun p => (p.1, .string p.2)))),
      ("CompiledViews",
        .array (c.compiled.map fun t => .object (t.fields.map fun p => (p.1, .string p.2)))),
      ("ViewDependencies", .object (c.dependencies.entries.map fun e =>
        (e.1, .array (e.2.map .string))))] := rfl

/-- The YAML mapping of a cache, its records and lists written field by field. -/
lemma toYamlEntries_eq (c : ViewCache) : c.toYamlEntries =
    [("viewTemplates",
        .seq (c.templates.map fun t => .map (t.fields.map fun p => (p.1, .scalar p.2)))),
      ("compiledViews",
        .seq (c.compiled.map fun t => .map (t.fields.map fun p => (p.1, .scalar p.2)))),
      ("viewDependencies", .map (Yaml.sortEntries (c.dependencies.entries.map fun e =>
        (e.1, .seq (e.2.map Yaml.Node.scalar)))))] := rfl

end ViewCache

/-! ### Reading JSON documents -/

namespace Json

variable (root : String) (path : List Step)

@[simp] lemma readInto_string_text (f : Nat) (s : String) (cur : Datum) :
    readInto root (f + 1) path (.string s) .text cur = pure (.text s) := rfl

/-- Strings under the names of text fields fill a record field by field. -/
lemma readInto_textRecord (f : Nat) (ty : String) (fields : List (String × Shape))
    (ps : List (String × String)) (hps : ∀ p ∈ ps, fieldFor fields p.1 = some (p.1, .text))
    (cur : Datum) :
    readInto root (f + 2) path (.object (ps.map fun p => (p.1, .string p.2))) (.record ty fields)
      cur = pure (ps.foldl (fun d p => d.setField p.1 (.text p.2)) cur) := by
  rw [readInto]
  dsimp only
  rw [forIn_map_eq_foldl _ _ (fun d p => d.setField p.1 (.text p.2)) ps ?_ cur, pure_bind]
  intro p hp b
  simp [hps p hp]

/-- A record read from the empty record gives its value. -/
lemma readInto_record (f : Nat) (t : Template) :
    readInto root (f + 2) path (.object (t.fields.map fun p => (p.1, .string p.2)))
      CacheFormat.recordShape CacheFormat.recordShape.zero = pure t.datum := by
  rw [← t.foldl_setField_fields]
  apply readInto_textRecord
  -- Every field a record writes is a text field of the record shape.
  exact t.fields_keys (P := fun k => fieldFor _ k = some (k, .text))
    ⟨rfl, rfl, rfl, rfl, rfl, rfl, rfl⟩

/-- Storage blocks hold what they are asked for. -/
lemma le_blockFor (bytes : Nat) : bytes ≤ blockFor bytes := by
  unfold blockFor
  split
  · rename_i b hb
    simpa using List.find?_some hb
  · omega

/-- A full list always grows by at least one item. -/
lemma lt_grownCapacity (old size : Nat) : old < grownCapacity old size := by
  -- The growth by a quarter passes the size needed at its first step and stays past it.
  have hfold : ∀ (l : List Nat) (c : Nat), old + 1 ≤ c →
      old + 1 ≤ l.foldl (fun c _ => if c ≥ old + 1 then c else c + (c + 768) / 4) c := by
    intro l
    induction l with
    | nil => intro c hc; exact hc
    | cons _ l ih => intro c hc; simp only [List.foldl_cons, if_pos hc]; exact ih c hc
  have hcap : old + 1 ≤ (if old + 1 > 2 * old then old + 1 else if old < 256 then 2 * old
      else (List.range 64).foldl (fun c _ => if c ≥ old + 1 then c else c + (c + 768) / 4)
        old) := by
    split
    · exact le_rfl
    split
    · omega
    · rw [show List.range 64 = 0 :: List.range' 1 63 from rfl, List.foldl_cons, if_neg (by omega)]
      exact hfold _ _ (by omega)
  unfold grownCapacity
  dsimp only
  split
  · exact hcap
  · rename_i hsize
    have hpos : 0 < size := Nat.pos_of_ne_zero (by simpa using hsize)
    exact lt_of_lt_of_le hcap ((Nat.le_div_iff_mul_le hpos).2 (le_blockFor _))

/-- Storage holding the first `i` values and then empty ones reads empty at `i`, and setting the
next value there extends what it holds by one. -/
lemma store_step {D : List Datum} {z : Datum} {i : Nat} (n : Nat) (arr : Array Datum)
    (hi : i < D.length) (harr : arr.toList = D.take i ++ List.replicate (n + 1) z) :
    arr.getD i z = z ∧ (arr.set! i D[i]).toList = D.take (i + 1) ++ List.replicate n z := by
  have hlen : (D.take i).length = i := by simp; omega
  constructor
  · rw [Array.getD_eq_getD_getElem?, ← Array.getElem?_toList, harr,
      List.getElem?_append_right (by omega), hlen, Nat.sub_self]
    simp
  · rw [Array.set!_eq_setIfInBounds, Array.toList_setIfInBounds, harr,
      List.set_append_right _ _ (by omega), hlen, Nat.sub_self, List.replicate_succ,
      List.set_cons_zero, List.take_add_one, List.getElem?_eq_getElem hi]
    simp only [Option.toList_some, List.append_assoc, List.singleton_append]

/-- Items that each read, from the empty value of the item shape, into a value fill a list of
those values, whatever storage the list grows. -/
lemma readInto_array (f : Nat) (s : Shape) {γ : Type} (xs : List γ) (h : γ → JsonValue)
    (d : γ → Datum) (hx : ∀ x ∈ xs, ∀ path, readInto root f path (h x) s s.zero = pure (d x)) :
    ∃ v, readInto root (f + 1) path (.array (xs.map h)) (.list s) .absent = pure v ∧
      v.asList = xs.map d := by
  simp only [readInto]
  -- The storage holds the items read so far, then empty values.
  refine forIn_bind_of_step
    (Q := fun (c : StateM (Option String) Datum) => ∃ v, c = pure v ∧ v.asList = xs.map d) _ _
    (fun (pre : List JsonValue) (st : Array Datum × Nat) => st.2 = pre.length ∧ st.2 ≤ st.1.size ∧
      st.1.toList = (xs.map d).take st.2 ++ List.replicate (st.1.size - st.2) s.zero)
    _ _ ?_ ?_ ?_
  · simp
  · rintro pre a suf st hl ⟨hi, hsize, hstore⟩
    have hlen : pre.length < xs.length := by
      have h' := congrArg List.length hl
      simp only [List.length_map, List.length_append, List.length_cons] at h'
      omega
    have ha : h xs[pre.length] = a := by
      have h' := congrArg (·[pre.length]?) hl
      simpa [List.getElem?_eq_getElem hlen] using h'
    have hread := hx xs[pre.length] (List.getElem_mem hlen) (path ++ [Step.item st.2])
    rw [ha] at hread
    have hD : st.2 < (xs.map d).length := by simpa [hi] using hlen
    have hnext : (xs.map d)[st.2] = d xs[pre.length] := by simp [hi]
    split
    · -- The storage is full: it grows by empty values first.
      rename_i hfull
      have hgrow := lt_grownCapacity st.1.size (byteSize s)
      obtain ⟨hget, hset⟩ := store_step (grownCapacity st.1.size (byteSize s) - st.2 - 1)
        (st.1 ++ (List.replicate (grownCapacity st.1.size (byteSize s) - st.1.size)
          s.zero).toArray) hD (by
            rw [Array.toList_append, hstore, List.toList_toArray, List.append_assoc,
              ← List.replicate_add]
            congr 2
            omega)
      rw [hget, hread, pure_bind, ← hnext]
      refine ⟨_, rfl, by simp [hi], ?_, ?_⟩
      · simp only [Array.size_set!, Array.size_append, List.size_toArray, List.length_replicate]
        omega
      · rw [hset]
        simp only [Array.size_set!, Array.size_append, List.size_toArray, List.length_replicate]
        congr 2
        omega
    · rename_i hroom
      obtain ⟨hget, hset⟩ := store_step (st.1.size - st.2 - 1) st.1 hD (by
        rw [hstore]
        congr 2
        omega)
      rw [hget, hread, pure_bind, ← hnext]
      refine ⟨_, rfl, by simp [hi], ?_, ?_⟩
      · simp only [Array.size_set!]
        omega
      · rw [hset]
        simp only [Array.size_set!]
        congr 2
  · rintro st ⟨hi, -, hstore⟩
    simp only [List.length_map] at hi
    split
    · rename_i hzero
      refine ⟨_, rfl, ?_⟩
      have hnil : xs = [] := List.eq_nil_of_length_eq_zero (by simpa [hi] using hzero)
      simp [hnil, Datum.asList]
    · refine ⟨_, rfl, ?_⟩
      have htake : st.1.toList.take st.2 = xs.map d := by
        rw [hstore, List.take_append_of_le_length (by simp [hi]), List.take_take, Nat.min_self, hi]
        exact List.take_of_length_le (by simp)
      simpa [Datum.asList] using htake

/-- A list of records reads into the list of their values. -/
lemma readInto_records (f : Nat) (rs : List Template) :
    ∃ v, readInto root (f + 3) path
        (.array (rs.map fun t => .object (t.fields.map fun p => (p.1, .string p.2))))
        (.list CacheFormat.recordShape) .absent = pure v ∧ v.asList = rs.map Template.datum :=
  readInto_array root path (f + 2) _ rs _ _ fun t _ path => readInto_record root path f t

/-- A list of texts reads into the list of those texts. -/
lemma readInto_texts (f : Nat) (ds : List String) :
    ∃ v, readInto root (f + 2) path (.array (ds.map .string)) (.list .text) .absent = pure v ∧
      v.asList = ds.map .text :=
  readInto_array root path (f + 1) .text ds _ _ fun _ _ _ => rfl

/-- Lists of texts under distinct names read into a table of those lists. -/
lemma readInto_dependencies (f : Nat) (es : List (String × List String))
    (hnd : (es.map Prod.fst).Nodup) :
    ∃ v, readInto root (f + 3) path (.object (es.map fun e => (e.1, .array (e.2.map .string))))
        (.table (.list .text)) .absent = pure v ∧
      v.asTable.map (fun kv => (kv.1, kv.2.asList.map Datum.asText)) = es := by
  have hv : ∀ e ∈ es, ∃ v, readInto root (f + 2) (path ++ [.entry e.1])
      (.array (e.2.map .string)) (.list .text) .absent = pure v ∧ v.asList = e.2.map .text :=
    fun e _ => readInto_texts root _ f e.2
  choose! V hV hVl using hv
  refine ⟨.table (es.map fun e => (e.1, V e)), ?_, ?_⟩
  · rw [readInto]
    dsimp only
    rw [forIn_map_eq_foldl _ _ (fun b e => Datum.setEntry b e.1 (V e)) es ?_ _, pure_bind,
      Datum.foldl_setEntry V es _ (by simpa [Datum.asTable] using hnd)]
    · rfl
    · intro e he b
      simp [Shape.zero, hV e he]
  · simp only [Datum.asTable, List.map_map]
    conv_rhs => rw [← List.map_id es]
    refine List.map_congr_left fun e he => ?_
    simp [hVl e he, Function.comp_def, Datum.asText]

/-- The document of a cache reads into a value holding its records and dependency lists. -/
lemma readInto_cache (f : Nat) (c : ViewCache) (hnd : (c.dependencies.entries.map Prod.fst).Nodup) :
    ∃ d, readInto root (f + 4) path c.toJsonValue (CacheFormat.cacheShape .json)
        (CacheFormat.cacheShape .json).zero = pure d ∧
      ViewCache.ofDatum .json d =
        ⟨c.templates, c.compiled, NameMap.ofList c.dependencies.entries⟩ := by
  obtain ⟨v₁, h₁, hl₁⟩ := readInto_records root (path ++ [.field "ViewTemplates"]) f c.templates
  obtain ⟨v₂, h₂, hl₂⟩ := readInto_records root (path ++ [.field "CompiledViews"]) f c.compiled
  obtain ⟨v₃, h₃, ht₃⟩ :=
    readInto_dependencies root (path ++ [.field "ViewDependencies"]) f c.dependencies.entries hnd
  refine ⟨.record [("ViewTemplates", v₁), ("CompiledViews", v₂), ("ViewDependencies", v₃)], ?_, ?_⟩
  · rw [ViewCache.toJsonValue_eq, CacheFormat.cacheShape, readInto]
    simp only [List.forIn_cons, List.forIn_nil]
    simp [fieldFor, Shape.zero, Shape.zero.zeroFields, Datum.field, Datum.setField, List.lookup_cons,
      h₁, h₂, h₃]
  · simp [ViewCache.ofDatum_eq, CacheFormat.partNames, Datum.field, List.lookup_cons, hl₁, hl₂, ht₃,
      List.map_map,
      Function.comp_def]

/-- The text of a cache is long enough to read its four levels. -/
lemma two_le_length_document (c : ViewCache) : 2 ≤ c.toJsonValue.document.length := by
  rw [ViewCache.toJsonValue_eq]
  have hopen : "\x7b\n".length = 2 := rfl
  simp only [JsonValue.document, JsonValue.render, String.length_append, hopen]
  omega

/-- A JSON text that parses back into the document of a cache reads into a value holding its
records and dependency lists. -/
lemma decodeInto_cache (c : ViewCache) (hnd : (c.dependencies.entries.map Prod.fst).Nodup)
    (hparse : parse c.toJsonValue.document = .ok c.toJsonValue) :
    ∃ d, decodeInto c.toJsonValue.document (CacheFormat.cacheShape .json)
        (CacheFormat.cacheShape .json).zero = .ok d ∧
      ViewCache.ofDatum .json d =
        ⟨c.templates, c.compiled, NameMap.ofList c.dependencies.entries⟩ := by
  have hdepth : depthOf c.toJsonValue.document = (c.toJsonValue.document.length - 2) + 4 := by
    have hlen := two_le_length_document c
    unfold depthOf
    generalize c.toJsonValue.document.length = n at hlen ⊢
    omega
  obtain ⟨d, hd, hofd⟩ :=
    readInto_cache "domain.ViewCache" [] (c.toJsonValue.document.length - 2) c hnd
  refine ⟨d, ?_, hofd⟩
  unfold decodeInto
  rw [hparse]
  simp only [bind, Except.bind, CacheFormat.cacheShape] at hd ⊢
  rw [hdepth, hd]
  rfl

end Json

/-! ### Reading YAML documents -/

namespace Yaml

mutual
/-- Whether a parsed tree holds a document node: a text as a scalar read as a string, a sequence
item by item, and a mapping entry by entry under keys that are such scalars. -/
def Tree.holds : Tree → Node → Bool
  | .scalar v tag _, .scalar s => v == s && tag == "!!str"
  | .sequence items _ _, .seq nodes => Tree.holdsItems items nodes
  | .mapping pairs _ _, .map entries => Tree.holdsPairs pairs entries
  | _, _ => false

/-- Whether parsed trees hold document nodes, one by one. -/
def Tree.holdsItems : List Tree → List Node → Bool
  | [], [] => true
  | t :: ts, n :: ns => t.holds n && Tree.holdsItems ts ns
  | _, _ => false

/-- Whether parsed pairs hold the entries of a document mapping, one by one. -/
def Tree.holdsPairs : List (Tree × Tree) → List (String × Node) → Bool
  | [], [] => true
  | (k, t) :: ps, (s, n) :: es => k.holds (.scalar s) && t.holds n && Tree.holdsPairs ps es
  | _, _ => false
end

/-- A scalar read as a string is no merge key. -/
lemma isMergeKey_string (k : String) (line : Nat) :
    isMergeKey (.scalar k "!!str" line) = false := by
  simp [isMergeKey]

/-! #### Lists related item by item -/

section Related

variable {α β γ : Type} {R : α → β → Prop}

/-- Where a list splits, the item there is related to the item at the same place of a list
related to it item by item. -/
lemma forall₂_split {l : List α} {xs : List β} (h : List.Forall₂ R l xs) {pre suf : List α}
    {a : α} (hl : l = pre ++ a :: suf) : ∃ x rest, xs.drop pre.length = x :: rest ∧ R a x := by
  have hd := List.forall₂_drop pre.length h
  rw [hl, List.drop_left] at hd
  generalize xs.drop pre.length = ys at hd ⊢
  rcases hd with _ | ⟨hax, -⟩
  exact ⟨_, _, rfl, hax⟩

/-- The prefix of a list one item longer ends in the item after the shorter one. -/
lemma take_succ_of_drop {xs : List β} {n : Nat} {x : β} {rest : List β}
    (h : xs.drop n = x :: rest) : xs.take (n + 1) = xs.take n ++ [x] := by
  have hx : xs[n]? = some x := by rw [← List.head?_drop, h]; rfl
  simp [List.take_add_one, hx]

/-- Lists related item by item have one image under maps that agree on related items. -/
lemma forall₂_map_eq {l : List α} {xs : List β} (h : List.Forall₂ R l xs) {f : α → γ}
    {g : β → γ} (hfg : ∀ a x, R a x → f a = g x) : l.map f = xs.map g := by
  rw [← List.forall₂_eq_eq_eq, List.forall₂_map_left_iff, List.forall₂_map_right_iff]
  exact h.imp hfg

end Related

/-! #### Parsed trees holding written nodes -/

lemma Tree.holds_scalar_iff (t : Tree) (s : String) :
    t.holds (.scalar s) = true ↔ ∃ l, t = .scalar s "!!str" l := by
  cases t <;> simp [Tree.holds]

lemma Tree.holdsItems_iff : ∀ (ts : List Tree) (ns : List Node),
    Tree.holdsItems ts ns = true ↔ List.Forall₂ (fun t n => t.holds n = true) ts ns
  | [], [] => by simp [Tree.holdsItems]
  | [], _ :: _ => by simp [Tree.holdsItems]
  | _ :: _, [] => by simp [Tree.holdsItems]
  | t :: ts, n :: ns => by simp [Tree.holdsItems, Tree.holdsItems_iff ts ns]

lemma Tree.holdsPairs_iff : ∀ (ps : List (Tree × Tree)) (es : List (String × Node)),
    Tree.holdsPairs ps es = true ↔
      List.Forall₂ (fun p e => p.1.holds (.scalar e.1) = true ∧ p.2.holds e.2 = true) ps es
  | [], [] => by simp [Tree.holdsPairs]
  | [], _ :: _ => by simp [Tree.holdsPairs]
  | _ :: _, [] => by simp [Tree.holdsPairs]
  | (k, t) :: ps, (s, n) :: es => by
    simp [Tree.holdsPairs, Tree.holdsPairs_iff ps es, and_assoc]

/-- A tree holding a sequence is a sequence whose items hold its nodes. -/
lemma Tree.holds_seq {t : Tree} {ns : List Node} (h : t.holds (.seq ns) = true) :
    ∃ items tag l, t = .sequence items tag l ∧
      List.Forall₂ (fun t n => t.holds n = true) items ns := by
  cases t with
  | sequence items tag l => exact ⟨items, tag, l, rfl, (Tree.holdsItems_iff _ _).1 h⟩
  | _ => simp [Tree.holds] at h

/-- A tree holding a mapping is a mapping whose pairs hold its entries. -/
lemma Tree.holds_map {t : Tree} {es : List (String × Node)} (h : t.holds (.map es) = true) :
    ∃ pairs tag l, t = .mapping pairs tag l ∧
      List.Forall₂ (fun p e => p.1.holds (.scalar e.1) = true ∧ p.2.holds e.2 = true) pairs es := by
  cases t with
  | mapping pairs tag l => exact ⟨pairs, tag, l, rfl, (Tree.holdsPairs_iff _ _).1 h⟩
  | _ => simp [Tree.holds] at h

/-! #### Entries sorted by key -/

section SortEntries

variable {α β : Type}

/-- Moving an entry back past others compares keys only. -/
lemma sortEntries_go_map (g : α → β) (e : String × α) : ∀ ds : List (String × α),
    sortEntries.go (e.1, g e.2) (ds.map fun d => (d.1, g d.2)) =
      (sortEntries.go e ds).map fun d => (d.1, g d.2)
  | [] => rfl
  | d :: ds => by
    by_cases h : keyLess e.1 d.1 <;> simp [sortEntries.go, h, sortEntries_go_map g e ds]

/-- Sorting entries compares keys only: it commutes with a change of the values. -/
lemma sortEntries_map (g : α → β) (es : List (String × α)) :
    sortEntries (es.map fun e => (e.1, g e.2)) = (sortEntries es).map fun e => (e.1, g e.2) := by
  -- The entries sorted so far change with the values, one insertion at a time.
  suffices h : ∀ acc : List (String × α),
      (es.map fun e => (e.1, g e.2)).foldl (fun s e => sortEntries.insertBack e s)
          (acc.map fun e => (e.1, g e.2)) =
        (es.foldl (fun s e => sortEntries.insertBack e s) acc).map fun e => (e.1, g e.2) by
    exact h []
  induction es with
  | nil => intro acc; rfl
  | cons e es ih =>
    intro acc
    simp only [List.map_cons, List.foldl_cons]
    rw [← ih]
    congr 1
    simp only [sortEntries.insertBack]
    rw [← List.map_reverse, sortEntries_go_map, List.map_reverse]

/-- Moving an entry back puts it among the others. -/
lemma sortEntries_go_perm (e : String × α) : ∀ ds : List (String × α),
    (sortEntries.go e ds).Perm (e :: ds)
  | [] => .refl _
  | d :: ds => by
    unfold sortEntries.go
    split
    · exact ((sortEntries_go_perm e ds).cons d).trans (.swap e d ds)
    · exact .refl _

/-- Sorting entries only reorders them. -/
lemma sortEntries_perm (es : List (String × α)) : (sortEntries es).Perm es := by
  suffices h : ∀ acc : List (String × α),
      (es.foldl (fun s e => sortEntries.insertBack e s) acc).Perm (acc ++ es) by
    exact h []
  induction es with
  | nil => intro acc; simp
  | cons e es ih =>
    intro acc
    rw [List.foldl_cons]
    -- The entry inserted joins the sorted ones, wherever it stops.
    have hins : (sortEntries.insertBack e acc).Perm (acc ++ [e]) := by
      unfold sortEntries.insertBack
      exact (List.reverse_perm _).trans ((sortEntries_go_perm e _).trans
        (((List.reverse_perm acc).cons e).trans (List.perm_append_singleton e acc).symm))
    refine (ih _).trans ?_
    simpa using hins.append_right es

end SortEntries

/-! #### Readings that leave the state as it was -/

/-- A reading that, from any state outside a merge, gives `a` and leaves the state as it was. -/
def Clean {α : Type} (x : ReadM α) (a : α) : Prop :=
  ∀ r : Reading, r.merged = none → x.run r = .ok (a, r)

section Clean

variable {α β : Type}

lemma clean_pure (a : α) : Clean (pure a) a := fun _ _ => rfl

lemma Clean.bind {x : ReadM α} {a : α} {f : α → ReadM β} {b : β} (hx : Clean x a)
    (hf : Clean (f a) b) : Clean (x >>= f) b := by
  intro r hr
  rw [StateT.run_bind, hx r hr]
  exact hf r hr

/-- The rule of a loop whose every step reads cleanly. -/
lemma Clean.forIn (f : α → β → ReadM (ForInStep β)) (R : List α → β → Prop) (l : List α)
    (hf : ∀ pre a suf b, l = pre ++ a :: suf → R pre b →
      ∃ b', Clean (f a b) (.yield b') ∧ R (pre ++ [a]) b') :
    ∀ suf pre b, l = pre ++ suf → R pre b → ∃ b', Clean (forIn suf b f) b' ∧ R l b'
  | [], pre, b, hl, hb => ⟨b, clean_pure b, by simpa [hl] using hb⟩
  | a :: suf, pre, b, hl, hb => by
    obtain ⟨b₁, hb₁, hR₁⟩ := hf pre a suf b hl hb
    obtain ⟨b', hb', hR'⟩ := Clean.forIn f R l hf suf (pre ++ [a]) b₁ (by simp [hl]) hR₁
    refine ⟨b', ?_, hR'⟩
    rw [List.forIn_cons]
    exact hb₁.bind hb'

/-- A reading that starts from the state it is in reads cleanly when it does from every state
outside a merge. -/
lemma Clean.get_bind {f : Reading → ReadM β} {b : β}
    (hf : ∀ r, r.merged = none → (f r).run r = .ok (b, r)) : Clean (get >>= f) b := by
  intro r hr
  rw [StateT.run_bind]
  exact hf r hr

/-- A change of state that does nothing outside a merge reads cleanly. -/
lemma clean_modify (g : Reading → Reading) (hg : ∀ r, r.merged = none → g r = r) :
    Clean (modify g) () := by
  intro r hr
  simp only [StateT.run_modify, hg r hr]
  rfl

/-- The rule of a loop followed by more, every step of which reads cleanly. -/
lemma Clean.forIn_bind {γ : Type} (f : α → β → ReadM (ForInStep β)) (K : β → ReadM γ)
    (R : List α → β → Prop) (l : List α) (b : β) {c : γ} (hb : R [] b)
    (hf : ∀ pre a suf b, l = pre ++ a :: suf → R pre b →
      ∃ b', Clean (f a b) (.yield b') ∧ R (pre ++ [a]) b')
    (hK : ∀ b', R l b' → Clean (K b') c) : Clean (ForIn.forIn l b f >>= K) c := by
  obtain ⟨b', hb', hR⟩ := Clean.forIn f R l hf l [] b rfl hb
  exact hb'.bind (hK b' hR)

end Clean

section Reading

variable (doc : Document)

/-- Keys that are told apart repeat none of each other. -/
lemma repeatedKeys_eq_nil : ∀ {keys : List Tree}, (keys.map Tree.keyIdentity).Nodup →
    repeatedKeys keys = []
  | [], _ => rfl
  | k :: rest, hnd => by
    simp only [List.map_cons, List.nodup_cons, List.mem_map, not_exists, not_and] at hnd
    have hfilter : rest.filter (fun k' => k'.keyIdentity == k.keyIdentity) = [] :=
      List.filter_eq_nil_iff.2 fun k' hk' => by simpa using hnd.1 k' hk'
    have hrest := repeatedKeys_eq_nil hnd.2
    simp only [repeatedKeys] at hrest ⊢
    simp [repeatedKeys.go, hfilter, hrest]

/-- A scalar read as a string fills a text field. -/
lemma read_string (f : Nat) (seen : List Nat) (s : String) (l : Nat) (cur : Datum) :
    doc.read (f + 1) seen (.scalar s "!!str" l) .text cur = pure (true, .text s) := by
  conv_lhs => unfold Document.read
  dsimp only
  simp [resolveNode, Tree.tag, scalarInto, Tree.value]

/-- A tree holding a text reads into a text field as that text. -/
lemma read_holds_text (f : Nat) (seen : List Nat) (t : Tree) (s : String) (cur : Datum)
    (h : t.holds (.scalar s) = true) :
    Clean (doc.read (f + 1) seen t .text cur) (true, .text s) := by
  obtain ⟨l, rfl⟩ := (Tree.holds_scalar_iff t s).1 h
  rw [read_string]
  exact clean_pure _

/-- Items that each read cleanly, from the empty value of the item shape, into the values of a
list related to them item by item fill a list of those values. -/
lemma read_sequence (f : Nat) (seen : List Nat) (items : List Tree) (tag : String) (l : Nat)
    (s : Shape) (cur : Datum) {γ : Type} (xs : List γ) (D : γ → Datum)
    (h : List.Forall₂ (fun t x => Clean (doc.read f seen t s s.zero) (true, D x)) items xs) :
    Clean (doc.read (f + 1) seen (.sequence items tag l) (.list s) cur)
      (true, .list (xs.map D) []) := by
  intro r hr
  conv_lhs => unfold Document.read
  dsimp only
  revert r
  show Clean _ _
  -- The values stored so far are those of the items read so far.
  refine Clean.forIn_bind _ _
    (fun pre (out : Array Datum) => out.toList = (xs.take pre.length).map D) items _
    (by simp) ?_ ?_
  · rintro pre t suf out hl hout
    obtain ⟨x, rest, hdrop, hx⟩ := forall₂_split h hl
    refine ⟨out.push (D x), hx.bind (clean_pure _), ?_⟩
    rw [List.length_append, List.length_singleton, take_succ_of_drop hdrop]
    simp [hout]
  · intro out hout
    rw [h.length_eq, List.take_length] at hout
    rw [hout]
    exact clean_pure _

/-- Keys holding distinct strings repeat none of each other. -/
lemma repeatedKeys_of_forall₂ {γ : Type} {P : Tree × Tree → String × γ → Prop}
    {pairs : List (Tree × Tree)} {es : List (String × γ)}
    (h : List.Forall₂ (fun p e => p.1.holds (.scalar e.1) = true ∧ P p e) pairs es)
    (hnd : (es.map Prod.fst).Nodup) : repeatedKeys (pairs.map (·.1)) = [] := by
  refine repeatedKeys_eq_nil ?_
  have hid : (pairs.map (·.1)).map Tree.keyIdentity = (es.map Prod.fst).map (Prod.mk 0) := by
    simp only [List.map_map]
    refine forall₂_map_eq h fun p e hpe => ?_
    obtain ⟨l, hl⟩ := (Tree.holds_scalar_iff _ _).1 hpe.1
    simp [hl, Tree.keyIdentity]
  rw [hid]
  exact hnd.map (Prod.mk_right_injective 0)

/-- Pairs under keys holding the distinct names of entries, each value of which reads cleanly
into the shape of its field, fill a record field by field. -/
lemma read_record (f : Nat) (seen : List Nat) (pairs : List (Tree × Tree)) (tag : String)
    (l : Nat) (ty : String) (fields : List (String × Shape)) (cur : Datum) {γ : Type}
    (es : List (String × γ)) (S : String × γ → Shape) (V : String × γ → Datum)
    (hnd : (es.map Prod.fst).Nodup) (hfields : ∀ e ∈ es, fields.lookup e.1 = some (S e))
    (h : List.Forall₂ (fun p e => p.1.holds (.scalar e.1) = true ∧
      ∃ ok, Clean (doc.read (f + 1) seen p.2 (S e) (cur.field e.1)) (ok, V e)) pairs es) :
    Clean (doc.read (f + 2) seen (.mapping pairs tag l) (.record ty fields) cur)
      (true, es.foldl (fun d e => d.setField e.1 (V e)) cur) := by
  intro r hr
  conv_lhs => unfold Document.read
  dsimp only
  simp only [repeatedKeys_of_forall₂ h hnd, List.isEmpty_nil, Bool.not_true, Bool.false_eq_true,
    if_false]
  revert r
  show Clean _ _
  refine Clean.get_bind fun r hr => ?_
  rw [hr]
  refine (Clean.bind (clean_modify _ fun r hr => ?_) ?_) r hr
  · cases r
    simp_all
  -- The loop keeps out of merges and has set the fields of the entries read so far.
  refine Clean.forIn_bind _ _
    (fun pre (st : Option (List String) × Datum × Option Tree × List String) =>
      st.1 = none ∧ st.2.1 = (es.take pre.length).foldl (fun d e => d.setField e.1 (V e)) cur ∧
        st.2.2.1 = none ∧ st.2.2.2 = ((es.take pre.length).map Prod.fst).reverse)
    pairs _ ⟨rfl, rfl, rfl, rfl⟩ ?_ ?_
  · rintro pre ⟨key, val⟩ suf ⟨marks, d, source, done⟩ hl ⟨rfl, rfl, rfl, rfl⟩
    obtain ⟨e, rest, hdrop, hkey, ok, hv⟩ := forall₂_split h hl
    obtain ⟨lk, hk⟩ := (Tree.holds_scalar_iff _ _).1 hkey
    simp only at hk hv
    subst hk
    have htake := take_succ_of_drop hdrop
    -- The key is new: no entry read before has its name.
    have hnew : e.1 ∉ (es.take pre.length).map Prod.fst := by
      have hsplit := List.take_append_drop pre.length es
      rw [hdrop] at hsplit
      rw [← hsplit, List.map_append, List.map_cons] at hnd
      exact fun hm => (List.nodup_append.1 hnd).2.2 e.1 hm e.1 List.mem_cons_self rfl
    have hdone : ((es.take pre.length).map Prod.fst).reverse.contains e.1 = false := by
      simpa using hnew
    have hfield := Datum.field_foldl_setField Prod.fst V e.1 _ cur hnew
    have hlook := hfields e (List.mem_of_mem_drop (hdrop ▸ List.mem_cons_self))
    refine ⟨(none, ((es.take pre.length).foldl (fun d e => d.setField e.1 (V e)) cur).setField
      e.1 (V e), none, e.1 :: ((es.take pre.length).map Prod.fst).reverse), ?_,
      ⟨rfl, by simp [htake], rfl, by simp [htake]⟩⟩
    rw [isMergeKey_string]
    simp only [Bool.false_eq_true, if_false]
    rw [read_string]
    simp only [pure_bind, Bool.not_true, Bool.false_eq_true, if_false, Datum.asText, hlook, hdone]
    rw [hfield]
    exact hv.bind (clean_pure _)
  · rintro ⟨marks, d, source, done⟩ ⟨rfl, rfl, rfl, rfl⟩
    rw [List.take_of_length_le (le_of_eq h.length_eq.symm)]
    refine Clean.bind (clean_modify _ fun r hr => ?_) ?_
    · cases r
      simp_all
    · exact clean_pure _

/-- Pairs under keys holding the distinct names of entries, each value of which reads cleanly
into the item shape, fill a table entry by entry. -/
lemma read_table (f : Nat) (seen : List Nat) (pairs : List (Tree × Tree)) (tag : String)
    (l : Nat) (s : Shape) (cur : Datum) {γ : Type} (es : List (String × γ))
    (V : String × γ → Datum) (hnd : (es.map Prod.fst).Nodup)
    (h : List.Forall₂ (fun p e => p.1.holds (.scalar e.1) = true ∧
      Clean (doc.read (f + 1) seen p.2 s s.zero) (true, V e)) pairs es) :
    Clean (doc.read (f + 2) seen (.mapping pairs tag l) (.table s) cur)
      (true, .table (es.foldl (fun b e => Datum.setEntry b e.1 (V e)) cur.asTable)) := by
  intro r hr
  conv_lhs => unfold Document.read
  dsimp only
  simp only [repeatedKeys_of_forall₂ h hnd, List.isEmpty_nil, Bool.not_true, Bool.false_eq_true,
    if_false]
  revert r
  show Clean _ _
  refine Clean.get_bind fun r hr => ?_
  rw [hr]
  refine (Clean.bind (clean_modify _ fun r hr => ?_) ?_) r hr
  · cases r
    simp_all
  -- The loop keeps out of merges and has set the entries read so far.
  refine Clean.forIn_bind _ _
    (fun pre (st : Option (List String) × List (String × Datum) × Option Tree) =>
      st.1 = none ∧
        st.2.1 = (es.take pre.length).foldl (fun b e => Datum.setEntry b e.1 (V e)) cur.asTable ∧
        st.2.2 = none)
    pairs _ ⟨rfl, rfl, rfl⟩ ?_ ?_
  · rintro pre ⟨key, val⟩ suf ⟨marks, entries, source⟩ hl ⟨rfl, rfl, rfl⟩
    obtain ⟨e, rest, hdrop, hkey, hv⟩ := forall₂_split h hl
    obtain ⟨lk, hk⟩ := (Tree.holds_scalar_iff _ _).1 hkey
    simp only at hk hv
    subst hk
    refine ⟨(none, Datum.setEntry ((es.take pre.length).foldl
      (fun b e => Datum.setEntry b e.1 (V e)) cur.asTable) e.1 (V e), none), ?_,
      ⟨rfl, by simp [take_succ_of_drop hdrop], rfl⟩⟩
    rw [isMergeKey_string]
    simp only [Bool.false_eq_true, if_false]
    rw [read_string]
    simp only [pure_bind, Bool.not_true, Bool.false_eq_true, if_false, Datum.asText]
    exact hv.bind (clean_pure _)
  · rintro ⟨marks, entries, source⟩ ⟨rfl, rfl, rfl⟩
    rw [List.take_of_length_le (le_of_eq h.length_eq.symm)]
    refine Clean.bind (clean_modify _ fun r hr => ?_) ?_
    · cases r
      simp_all
    · exact clean_pure _

/-- A tree holding the mapping of a record reads, from the empty record, into its value. -/
lemma read_textRecord (f : Nat) (seen : List Nat) (t : Tree) (r : Template)
    (ht : t.holds (.map (r.fields.map fun p => (p.1, .scalar p.2))) = true) :
    Clean (doc.read (f + 2) seen t CacheFormat.recordShape CacheFormat.recordShape.zero)
      (true, r.datum) := by
  obtain ⟨pairs, tag, l, rfl, hpairs⟩ := Tree.holds_map ht
  rw [List.forall₂_map_right_iff] at hpairs
  rw [← r.foldl_setField_fields]
  refine read_record doc f seen pairs tag l _ _ _ r.fields (fun _ => .text) (fun p => .text p.2)
    r.nodup_keys ?_
    (hpairs.imp fun p e hpe => ⟨hpe.1, true, read_holds_text doc f seen p.2 e.2 _ hpe.2⟩)
  -- Every field a record writes is a text field of the record shape.
  exact r.fields_keys (P := fun k => List.lookup k _ = some Shape.text)
    ⟨rfl, rfl, rfl, rfl, rfl, rfl, rfl⟩

/-- A tree holding the sequence of a list of records reads into the list of their values. -/
lemma read_records (f : Nat) (seen : List Nat) (t : Tree) (cur : Datum) (rs : List Template)
    (ht : t.holds (.seq (rs.map fun r => .map (r.fields.map fun p => (p.1, .scalar p.2)))) =
      true) :
    Clean (doc.read (f + 3) seen t (.list CacheFormat.recordShape) cur)
      (true, .list (rs.map Template.datum) []) := by
  obtain ⟨items, tag, l, rfl, hitems⟩ := Tree.holds_seq ht
  rw [List.forall₂_map_right_iff] at hitems
  exact read_sequence doc (f + 2) seen items tag l _ cur rs Template.datum
    (hitems.imp fun t r htr => read_textRecord doc f seen t r htr)

/-- A tree holding the sequence of a list of texts reads into the list of those texts. -/
lemma read_texts (f : Nat) (seen : List Nat) (t : Tree) (cur : Datum) (ss : List String)
    (ht : t.holds (.seq (ss.map .scalar)) = true) :
    Clean (doc.read (f + 2) seen t (.list .text) cur) (true, .list (ss.map .text) []) := by
  obtain ⟨items, tag, l, rfl, hitems⟩ := Tree.holds_seq ht
  rw [List.forall₂_map_right_iff] at hitems
  exact read_sequence doc (f + 1) seen items tag l .text cur ss Datum.text
    (hitems.imp fun t s hts => read_holds_text doc f seen t s _ hts)

/-- A tree holding the mapping of lists of texts under distinct names reads into a table of
those lists. -/
lemma read_dependencies (f : Nat) (seen : List Nat) (t : Tree) (es : List (String × List String))
    (hnd : (es.map Prod.fst).Nodup)
    (ht : t.holds (.map (es.map fun e => (e.1, .seq (e.2.map .scalar)))) = true) :
    Clean (doc.read (f + 3) seen t (.table (.list .text)) .absent)
      (true, .table (es.map fun e => (e.1, .list (e.2.map .text) []))) := by
  obtain ⟨pairs, tag, l, rfl, hpairs⟩ := Tree.holds_map ht
  rw [List.forall₂_map_right_iff] at hpairs
  have h := read_table doc (f + 1) seen pairs tag l (.list .text) .absent es
    (fun e => .list (e.2.map .text) []) hnd
    (hpairs.imp fun p e hpe => ⟨hpe.1, read_texts doc f seen p.2 _ e.2 hpe.2⟩)
  rwa [show Datum.asTable .absent = [] from rfl, Datum.foldl_setEntry _ es [] (by simpa using hnd),
    List.nil_append] at h

/-- A tree holding the YAML mapping of a cache reads into a value holding its records and
dependency lists. -/
lemma read_cache (f : Nat) (seen : List Nat) (t : Tree) (c : ViewCache)
    (hnd : (c.dependencies.entries.map Prod.fst).Nodup)
    (ht : t.holds (.map c.toYamlEntries) = true) :
    ∃ d, Clean (doc.read (f + 4) seen t (CacheFormat.cacheShape .yaml)
        (CacheFormat.cacheShape .yaml).zero) (true, d) ∧
      ViewCache.ofDatum .yaml d =
        ⟨c.templates, c.compiled, NameMap.ofList c.dependencies.entries⟩ := by
  -- The dependency lists are written in key order, which only reorders them.
  have hsort := sortEntries_map (fun ds : List String => Node.seq (ds.map .scalar))
    c.dependencies.entries
  have hperm := sortEntries_perm c.dependencies.entries
  have hnd' : ((sortEntries c.dependencies.entries).map Prod.fst).Nodup :=
    (hperm.map Prod.fst).nodup_iff.2 hnd
  obtain ⟨pairs, tag, l, rfl, hpairs⟩ := Tree.holds_map ht
  rw [ViewCache.toYamlEntries_eq, hsort] at hpairs
  rcases hpairs with _ | ⟨⟨k₁, h₁⟩, _ | ⟨⟨k₂, h₂⟩, _ | ⟨⟨k₃, h₃⟩, _ | _⟩⟩⟩
  refine ⟨_, read_record doc (f + 2) seen _ tag l _ _ _
    [("viewTemplates", (Shape.list CacheFormat.recordShape,
        Datum.list (c.templates.map Template.datum) [])),
      ("compiledViews", (Shape.list CacheFormat.recordShape,
        Datum.list (c.compiled.map Template.datum) [])),
      ("viewDependencies", (Shape.table (.list .text), Datum.table
        ((sortEntries c.dependencies.entries).map fun e => (e.1, .list (e.2.map .text) []))))]
    (fun e => e.2.1) (fun e => e.2.2) (by simp) (by simp [List.lookup_cons])
    (.cons ⟨k₁, true, read_records doc f seen _ _ c.templates h₁⟩
      (.cons ⟨k₂, true, read_records doc f seen _ _ c.compiled h₂⟩
        (.cons ⟨k₃, true, read_dependencies doc f seen _ _ hnd' (by simpa using h₃)⟩ .nil))), ?_⟩
  have hdeps := NameMap.ofList_eq_of_perm hperm hnd'
  simp [ViewCache.ofDatum_eq, CacheFormat.partNames, CacheFormat.cacheShape, Shape.zero,
    Shape.zero.zeroFields, Datum.setField, Datum.field, List.lookup_cons, List.map_map,
    Function.comp_def, Datum.asList, Datum.asTable, Datum.asText, hdeps]

end Reading

/-- A YAML text whose document is a tree holding the mapping of a cache reads into a value
holding its records and dependency lists. -/
lemma decodeInto_cache (c : ViewCache) (hnd : (c.dependencies.entries.map Prod.fst).Nodup)
    (doc : Document) (hparse : parseDocument (document c.toYamlEntries) = .ok (some doc))
    (hroot : doc.root.holds (.map c.toYamlEntries) = true) :
    ∃ d, decodeInto (document c.toYamlEntries) (CacheFormat.cacheShape .yaml)
        (CacheFormat.cacheShape .yaml).zero = .ok d ∧
      ViewCache.ofDatum .yaml d =
        ⟨c.templates, c.compiled, NameMap.ofList c.dependencies.entries⟩ := by
  -- The fuel of a reading covers the four levels of a cache.
  obtain ⟨g, hg⟩ : ∃ g, (doc.size + 2) * (doc.size + 2) = g + 4 := by
    have h4 : 2 * 2 ≤ (doc.size + 2) * (doc.size + 2) := Nat.mul_le_mul (by omega) (by omega)
    exact ⟨_, (Nat.sub_add_cancel h4).symm⟩
  obtain ⟨d, hd, hofd⟩ := read_cache doc g [] doc.root c hnd hroot
  refine ⟨d, ?_, hofd⟩
  unfold decodeInto
  rw [hparse]
  dsimp only
  rw [hg, hd {} rfl]
  rfl

end Yaml

/-! ### What the parsers are taken to give back -/

namespace JsonValue

mutual
/-- Whether two JSON values are the same, compared node by node. -/
def same : JsonValue → JsonValue → Bool
  | .null, .null => true
  | .bool a, .bool b => a == b
  | .number a, .number b => a == b
  | .string a, .string b => a == b
  | .array xs, .array ys => sameItems xs ys
  | .object ms, .object ns => sameMembers ms ns
  | _, _ => false

/-- Whether two lists of JSON values are the same, item by item. -/
def sameItems : List JsonValue → List JsonValue → Bool
  | [], [] => true
  | x :: xs, y :: ys => same x y && sameItems xs ys
  | _, _ => false

/-- Whether two lists of members are the same, member by member. -/
def sameMembers : List (String × JsonValue) → List (String × JsonValue) → Bool
  | [], [] => true
  | (k, x) :: ms, (l, y) :: ns => k == l && same x y && sameMembers ms ns
  | _, _ => false
end

mutual
theorem eq_of_same : ∀ (v w : JsonValue), same v w = true → v = w
  | .null, w, h => by cases w <;> simp_all [same]
  | .bool a, w, h => by cases w <;> simp_all [same]
  | .number a, w, h => by cases w <;> simp_all [same]
  | .string a, w, h => by cases w <;> simp_all [same]
  | .array xs, w, h => by
    cases w with
    | array ys => rw [eq_of_sameItems xs ys (by simpa [same] using h)]
    | _ => simp [same] at h
  | .object ms, w, h => by
    cases w with
    | object ns => rw [eq_of_sameMembers ms ns (by simpa [same] using h)]
    | _ => simp [same] at h

theorem eq_of_sameItems : ∀ (xs ys : List JsonValue), sameItems xs ys = true → xs = ys
  | [], ys, h => by cases ys <;> simp_all [sameItems]
  | x :: xs, ys, h => by
    cases ys with
    | nil => simp [sameItems] at h
    | cons y ys =>
      simp only [sameItems, Bool.and_eq_true] at h
      rw [eq_of_same x y h.1, eq_of_sameItems xs ys h.2]

theorem eq_of_sameMembers : ∀ (ms ns : List (String × JsonValue)), sameMembers ms ns = true →
    ms = ns
  | [], ns, h => by cases ns <;> simp_all [sameMembers]
  | (k, x) :: ms, ns, h => by
    cases ns with
    | nil => simp [sameMembers] at h
    | cons n ns =>
      obtain ⟨l, y⟩ := n
      simp only [sameMembers, Bool.and_eq_true, beq_iff_eq] at h
      rw [h.1.1, eq_of_same x y h.1.2, eq_of_sameMembers ms ns h.2]
end

end JsonValue

namespace CacheFormat

/-- Whether the parser of a format gives back the document its printer writes for a cache: the
JSON value itself, or a YAML tree holding the YAML mapping. -/
def readsBack (fmt : CacheFormat) (c : ViewCache) : Bool :=
  match fmt with
  | .json =>
    match Json.parse (ViewCache.encode .json c) with
    | .ok v => v.same c.normalized.toJsonValue
    | .error _ => false
  | .yaml =>
    match Yaml.parseDocument (ViewCache.encode .yaml c) with
    | .ok (some doc) => doc.root.holds (.map c.normalized.toYamlEntries)
    | _ => false

/-- The value a cache text reads into in a format, or the reader's message. -/
def readValue (fmt : CacheFormat) (text : String) : Except String Datum :=
  match fmt with
  | .json => Json.decodeInto text (cacheShape .json) (cacheShape .json).zero
  | .yaml => Yaml.decodeInto text (cacheShape .yaml) (cacheShape .yaml).zero

/-- A cache the JSON parser reads back parses into the JSON value written for it. -/
lemma parse_of_readsBack_json {c : ViewCache} (h : readsBack .json c = true) :
    Json.parse (ViewCache.encode .json c) = .ok c.normalized.toJsonValue := by
  unfold readsBack at h
  generalize hp : Json.parse (ViewCache.encode .json c) = r at h
  cases r with
  | ok v => rw [JsonValue.eq_of_same v _ h]
  | error e => exact absurd h Bool.false_ne_true

/-- A cache the YAML parser reads back parses into a tree holding the mapping written for it. -/
lemma parse_of_readsBack_yaml {c : ViewCache} (h : readsBack .yaml c = true) :
    ∃ doc, Yaml.parseDocument (ViewCache.encode .yaml c) = .ok (some doc) ∧
      doc.root.holds (.map c.normalized.toYamlEntries) = true := by
  unfold readsBack at h
  generalize hp : Yaml.parseDocument (ViewCache.encode .yaml c) = r at h
  rcases r with e | _ | doc
  · exact absurd h Bool.false_ne_true
  · exact absurd h Bool.false_ne_true
  · exact ⟨doc, rfl, h⟩

lemma readValue_json (text : String) :
    readValue .json text = Json.decodeInto text (cacheShape .json) (cacheShape .json).zero := rfl

lemma readValue_yaml (text : String) :
    readValue .yaml text = Yaml.decodeInto text (cacheShape .yaml) (cacheShape .yaml).zero := rfl

end CacheFormat

/-! ### The round trip -/

namespace ViewCache

lemma encode_json (c : ViewCache) : encode .json c = c.normalized.toJsonValue.document := rfl

lemma encode_yaml (c : ViewCache) : encode .yaml c = Yaml.document c.normalized.toYamlEntries := rfl

/-- A text that does not read is a corrupt cache, with the reader's message. -/
lemma decode_of_readValue_error {fmt : CacheFormat} {text msg : String}
    (h : fmt.readValue text = .error msg) :
    decode fmt text =
      .error (((Fault.condition .cacheCorrupt).wrap msg).about "format" fmt.name) := by
  cases fmt <;> simp only [CacheFormat.readValue] at h <;> simp [decode, h]

/-- A text that reads gives its cache, normalised, unless the cache holds no templates. -/
lemma decode_of_readValue_ok {fmt : CacheFormat} {text : String} {d : Datum}
    (h : fmt.readValue text = .ok d) :
    decode fmt text = if (ofDatum fmt d).templates.isEmpty then
      .error (((Fault.condition .cacheCorrupt).wrap "cache holds no templates").about "format"
        fmt.name)
    else .ok (ofDatum fmt d).normalized := by
  cases fmt <;> simp only [CacheFormat.readValue] at h <;> simp [decode, h]

/-- Normalising a cache whose record lists name each record once is idempotent. -/
lemma normalized_normalized {c : ViewCache} (ht : (c.templates.map (·.name)).Nodup)
    (hc : (c.compiled.map (·.name)).Nodup) : c.normalized.normalized = c.normalized := by
  simp [normalized, sortRecords_sortRecords ht, sortRecords_sortRecords hc]

/-- Writing the normalised cache writes the same text as the cache. -/
lemma encode_normalized (fmt : CacheFormat) {c : ViewCache} (ht : (c.templates.map (·.name)).Nodup)
    (hc : (c.compiled.map (·.name)).Nodup) : encode fmt c.normalized = encode fmt c := by
  cases fmt <;> simp only [encode_json, encode_yaml, normalized_normalized ht hc]

/-- A text its format's parser reads back reads into a value holding the records of the
normalised cache and its dependency lists. -/
lemma readValue_encode (fmt : CacheFormat) (c : ViewCache)
    (hnd : (c.dependencies.entries.map Prod.fst).Nodup) (h : fmt.readsBack c = true) :
    ∃ d, fmt.readValue (encode fmt c) = .ok d ∧
      ofDatum fmt d = ⟨c.normalized.templates, c.normalized.compiled,
        NameMap.ofList c.dependencies.entries⟩ := by
  cases fmt with
  | json =>
    have hparse := CacheFormat.parse_of_readsBack_json h
    rw [encode_json] at hparse
    rw [CacheFormat.readValue_json, encode_json]
    exact Json.decodeInto_cache c.normalized hnd hparse
  | yaml =>
    obtain ⟨doc, hdoc, hroot⟩ := CacheFormat.parse_of_readsBack_yaml h
    rw [encode_yaml] at hdoc
    rw [CacheFormat.readValue_yaml, encode_yaml]
    exact Yaml.decodeInto_cache c.normalized hnd doc hdoc hroot

/-- The cache formats read back what they write. Take a cache with templates. Suppose its
record lists name each record once. Suppose too that the parser of the format gives back the document its printer writes. Then reading the
text written gives the normalised cache, and writing what was read gives the same text. Every
text fails to read exactly when its document does not read into the shape of a cache or holds
no templates, and then always as a corrupt cache. -/
theorem codec_round_trip (fmt : CacheFormat) :
    (∀ c : ViewCache, c.templates ≠ [] → (c.templates.map (·.name)).Nodup →
      (c.compiled.map (·.name)).Nodup → fmt.readsBack c = true →
        decode fmt (encode fmt c) = .ok c.normalized ∧
          encode fmt <$> decode fmt (encode fmt c) = .ok (encode fmt c)) ∧
    ∀ text : String,
      ((∃ fault, decode fmt text = .error fault) ↔
        (∃ msg, fmt.readValue text = .error msg) ∨
          ∃ d, fmt.readValue text = .ok d ∧ (ofDatum fmt d).templates = []) ∧
      ∀ fault, decode fmt text = .error fault → fault.involves .cacheCorrupt = true := by
  refine ⟨fun c hne ht hc hback => ?_, fun text => ?_⟩
  · have hnd : (c.dependencies.entries.map Prod.fst).Nodup := c.dependencies.keys_nodup
    obtain ⟨d, hd, hofd⟩ := readValue_encode fmt c hnd hback
    -- Sorting keeps the templates there.
    have hsorted : (sortRecords c.templates).isEmpty = false := by
      rw [List.isEmpty_eq_false_iff, ← List.length_pos_iff, (sortRecords_spec _).1.length_eq]
      exact List.length_pos_iff.2 hne
    have hdec : decode fmt (encode fmt c) = .ok c.normalized := by
      rw [decode_of_readValue_ok hd, hofd]
      simp [normalized, hsorted, sortRecords_sortRecords ht, sortRecords_sortRecords hc,
        NameMap.ofList_entries]
    refine ⟨hdec, ?_⟩
    rw [hdec]
    exact congrArg Except.ok (encode_normalized fmt ht hc)
  · cases hr : fmt.readValue text with
    | error msg =>
      rw [decode_of_readValue_error hr]
      simp [Fault.about, Fault.withDetail, Fault.wrap, Fault.involves]
    | ok d =>
      rw [decode_of_readValue_ok hr]
      by_cases he : (ofDatum fmt d).templates = []
      · simp [he, Fault.about, Fault.withDetail, Fault.wrap, Fault.involves]
      · simp [he]

/-- Two caches read back from their texts into their normalised form, and writing what was read
gives the same text: in JSON, a cache of two templates out of name order, a compiled view and two
dependency lists; in YAML, a cache of one template and one dependency list. -/
theorem greeting_cache_reads_back :
    let home : Template := { name := "Home", displayName := "Home", raw := "<p>", fingerprint := "f1" }
    let nav : Template := { name := "Nav", displayName := "Nav", raw := "<a>", fingerprint := "f2" }
    let site : ViewCache :=
      ⟨[nav, home], [{ home with compiled := "<p>" }], ⟨[("Home", ["Nav"]), ("Nav", [])], by decide⟩⟩
    let greeting : ViewCache := ⟨[home], [], ⟨[("Home", ["Nav"])], by decide⟩⟩
    (CacheFormat.readsBack .json site = true ∧
      decode .json (encode .json site) = .ok site.normalized ∧
      encode .json <$> decode .json (encode .json site) = .ok (encode .json site)) ∧
    (CacheFormat.readsBack .yaml greeting = true ∧
      decode .yaml (encode .yaml greeting) = .ok greeting.normalized ∧
      encode .yaml <$> decode .yaml (encode .yaml greeting) = .ok (encode .yaml greeting)) := by
  intro home nav site greeting
  have hsite : CacheFormat.readsBack .json site = true := by decide +kernel
  have hgreeting : CacheFormat.readsBack .yaml greeting = true := by decide +kernel
  exact ⟨⟨hsite, (codec_round_trip .json).1 site (by simp [site]) (by decide) (by decide) hsite⟩,
    ⟨hgreeting, (codec_round_trip .yaml).1 greeting (by simp [greeting]) (by decide) (by decide)
      hgreeting⟩⟩

end ViewCache

end Stencil

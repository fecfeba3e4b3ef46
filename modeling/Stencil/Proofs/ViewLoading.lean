import Stencil.Files.Loader
import Stencil.Proofs.Paths
import Stencil.Proofs.NameMap
import Stencil.Proofs.Codec
/-!
# Loading one template and loading them all

A full load reads, root after root, the template files each root's walk lists (`scanned`), and
keeps the first record of each logical name (`loadAll_eq`). A single load reads a path from the
first root it lies strictly inside (`load_eq`). In a tree as a file system has it
(`FileTree.WellFormed`), a walk lists every file below its top that no passed-over directory
hides (`FileTree.mem_walkFiles`), so the file a single load reads is among those a full load
reads, under the same root (`mem_scanned`). The two loads then agree on the file's logical name
exactly when no template read before it has that name (`load_agrees_unless_shadowed`).

Otherwise they disagree: a file of a later root, or one of the same root whose path sorts first
(`A.HTML` before `A.html`), shadows it; and a file below a passed-over directory is read by a
single load and never seen by a full load (`load_disagrees_with_loadAll`).
-/

namespace Stencil

open Stencil.Path

namespace FileTree

/-- A tree as a file system has it: every file at a clean absolute path, and no file below
another. -/
structure WellFormed (t : FileTree) : Prop where
  clean_abs : ∀ p ∈ t.files.keys, clean p = p ∧ isAbs p = true
  no_file_below_file : ∀ p ∈ t.files.keys, ∀ q ∈ t.files.keys, isBelow p q = false

variable {t : FileTree}

lemma entry_of_find? {p c : String} (hp : clean p = p) (h : t.files.find? p = some c) :
    t.entry p = .file c := by
  simp only [entry, hp, h]

lemma entry_of_isDir {p : String} (hp : clean p = p) (h : t.files.find? p = none)
    (hd : t.isDir p = true) : t.entry p = .directory := by
  simp only [entry, hp, h, hd, if_true]

/-- A path that a file lies below is a directory, in a tree as a file system has it. -/
lemma entry_of_below (ht : t.WellFormed) {d p : String} (hd : clean d = d)
    (hp : p ∈ t.files.keys) (hb : isBelow d p = true) : t.entry d = .directory := by
  refine entry_of_isDir hd ?_ ?_
  · rw [NameMap.find?_eq_none_iff]
    intro hk
    exact absurd hb (by rw [ht.no_file_below_file d hk p hp]; decide)
  · simp only [isDir, Bool.or_eq_true, List.any_eq_true]
    exact .inr ⟨p, hp, hb⟩

variable {ignores : List String}

/-- Every path a walk lists is a file. -/
lemma file_of_mem_go : ∀ (fuel : Nat) (d q : String), q ∈ walkFiles.go t ignores fuel d →
    ∃ c, t.entry q = .file c
  | 0, d, q, h => by simp [walkFiles.go] at h
  | fuel + 1, d, q, h => by
    rw [walkFiles.go, List.mem_flatMap] at h
    obtain ⟨name, -, hq⟩ := h
    dsimp only at hq
    cases he : t.entry (Path.append d name) with
    | file c =>
      rw [he, List.mem_singleton] at hq
      exact ⟨c, hq ▸ he⟩
    | directory =>
      simp only [he] at hq
      split at hq
      · simp at hq
      · exact file_of_mem_go fuel _ q hq
    | absent => simp [he] at hq
    | belowFile => simp [he] at hq

lemma file_of_mem_walkFiles {root : String} {ps : List String}
    (h : t.walkFiles root ignores = .ok ps) : ∀ q ∈ ps, ∃ c, t.entry q = .file c := by
  intro q hq
  rw [walkFiles] at h
  cases he : t.entry root with
  | file c =>
    simp only [he, Except.ok.injEq] at h
    subst h
    exact ⟨c, List.mem_singleton.1 hq ▸ he⟩
  | directory =>
    simp only [he, Except.ok.injEq] at h
    subst h
    exact file_of_mem_go _ _ q hq
  | absent => simp [he] at h
  | belowFile => simp [he] at h

/-- A walk of an existing path succeeds. -/
lemma walkFiles_ok {root : String} (h : t.entry root ≠ .absent ∧ t.entry root ≠ .belowFile) :
    ∃ ps, t.walkFiles root ignores = .ok ps := by
  rw [walkFiles]
  cases he : t.entry root with
  | file c => exact ⟨_, rfl⟩
  | directory => exact ⟨_, rfl⟩
  | absent => exact absurd he h.1
  | belowFile => exact absurd he h.2

/-- **A walk reaches every file below it** that no passed-over directory hides, given fuel for
the file's depth below the walk's top. The induction runs down the names from the top to the
file: each name but the last is a directory, since no file lies below a file. -/
lemma mem_go (ht : t.WellFormed) (rest : List String) :
    ∀ (ns : List String) (c : String) (fuel : Nat),
      (∀ m ∈ ns ++ c :: rest, NormalName m) → (c :: rest).length ≤ fuel →
      ofNames (ns ++ c :: rest) ∈ t.files.keys →
      (∀ n ∈ (c :: rest).dropLast, (skippedDirs.contains n || ignores.contains n) = false) →
      ofNames (ns ++ c :: rest) ∈ walkFiles.go t ignores fuel (ofNames ns) := by
  induction rest with
  | nil =>
    intro ns c fuel hnorm hlen hp _
    obtain ⟨f, rfl⟩ : ∃ f, fuel = f + 1 := ⟨fuel - 1, by simp at hlen; omega⟩
    obtain ⟨hns, hc⟩ := List.forall_mem_append.1 hnorm
    have hc' : NormalName c := List.forall_mem_singleton.1 hc
    obtain ⟨content, hcontent⟩ := NameMap.find?_of_mem_keys hp
    rw [walkFiles.go, List.mem_flatMap]
    refine ⟨c, mem_children hns hc' (by simp) hp, ?_⟩
    dsimp only
    rw [append_ofNames hns hc', entry_of_find? (clean_ofNames hnorm) hcontent]
    exact List.mem_singleton_self _
  | cons c' rest ih =>
    intro ns c fuel hnorm hlen hp hopen
    obtain ⟨f, rfl⟩ : ∃ f, fuel = f + 1 := ⟨fuel - 1, by simp at hlen; omega⟩
    -- Below the directory `c` the file has the names `c' :: rest`.
    have hsplit : ns ++ c :: c' :: rest = (ns ++ [c]) ++ c' :: rest := by simp
    have hnorm' : ∀ m ∈ (ns ++ [c]) ++ c' :: rest, NormalName m := hsplit ▸ hnorm
    have hp' : ofNames ((ns ++ [c]) ++ c' :: rest) ∈ t.files.keys := hsplit ▸ hp
    obtain ⟨hnsc, hrest⟩ := List.forall_mem_append.1 hnorm'
    obtain ⟨hns, hc⟩ := List.forall_mem_append.1 hnsc
    have hc' : NormalName c := List.forall_mem_singleton.1 hc
    -- The name `c` is a directory on the way down, and not passed over.
    have hdir : t.entry (ofNames (ns ++ [c])) = .directory :=
      entry_of_below ht (clean_ofNames hnsc) hp' (isBelow_ofNames hnsc hrest (List.cons_ne_nil _ _))
    have hc_open : (skippedDirs.contains c || ignores.contains c) = false := hopen c (by simp)
    rw [walkFiles.go, List.mem_flatMap]
    refine ⟨c, mem_children hns hc' hrest hp, ?_⟩
    dsimp only
    rw [append_ofNames hns hc', hdir]
    simp only [hc_open, Bool.false_eq_true, if_false]
    rw [hsplit]
    exact ih (ns ++ [c]) c' f hnorm' (by simp at hlen ⊢; omega) hp'
      (fun n hn => hopen n (by simp [List.dropLast_cons_of_ne_nil, hn]))

lemma le_foldl_add_length : ∀ (l : List String) (init : Nat),
    init ≤ l.foldl (fun n p => n + p.length) init
  | [], _ => le_rfl
  | p :: l, init => le_trans (Nat.le_add_right _ _) (le_foldl_add_length l (init + p.length))

/-- No file is deeper than the fuel of a walk. -/
lemma length_lt_walkDepth {p : String} (hp : p ∈ t.files.keys) : p.length < t.walkDepth := by
  rw [walkDepth]
  suffices ∀ (l : List String) (init : Nat), p ∈ l →
      init + p.length ≤ l.foldl (fun n p => n + p.length) init by
    have := this _ 1 hp
    omega
  intro l
  induction l with
  | nil => simp
  | cons q l ih =>
    intro init hpl
    rcases List.mem_cons.1 hpl with rfl | hpl
    · exact le_foldl_add_length l _
    · exact le_trans (by omega) (ih (init + q.length) hpl)

/-- A walk from a directory lists every file below it that no passed-over directory hides, in a
tree as a file system has it. -/
lemma mem_walkFiles (ht : t.WellFormed) {ns rest : List String} {c : String}
    (hnorm : ∀ m ∈ ns ++ c :: rest, NormalName m) (hp : ofNames (ns ++ c :: rest) ∈ t.files.keys)
    (hopen : ∀ n ∈ (c :: rest).dropLast, (skippedDirs.contains n || ignores.contains n) = false) :
    ∃ ps, t.walkFiles (ofNames ns) ignores = .ok ps ∧ ofNames (ns ++ c :: rest) ∈ ps := by
  have hns : ∀ m ∈ ns, NormalName m := fun m hm => hnorm m (List.mem_append_left _ hm)
  have hdir : t.entry (ofNames ns) = .directory :=
    entry_of_below ht (clean_ofNames hns) hp
      (isBelow_ofNames hns (fun m hm => hnorm m (List.mem_append_right _ hm))
        (List.cons_ne_nil _ _))
  refine ⟨_, by rw [walkFiles, hdir], mem_go ht rest ns c _ hnorm ?_ hp hopen⟩
  have h₁ := length_lt_walkDepth hp
  have h₂ := length_le_length_ofNames (ns ++ c :: rest)
  simp only [List.length_append] at h₂ ⊢
  omega

end FileTree

/-! ### Paths strictly inside a root -/

lemma prefix_of_takeWhile_zip (P : String × String → Bool) (hP : ∀ x y, P (x, y) = true → x = y) :
    ∀ (bs ts : List String), bs.length ≤ ((bs.zip ts).takeWhile P).length → bs <+: ts
  | [], ts, _ => List.nil_prefix
  | b :: bs, [], h => by simp at h
  | b :: bs, t :: ts, h => by
    rw [List.zip_cons_cons, List.takeWhile_cons] at h
    split at h
    · rename_i hbt
      obtain rfl := hP b t hbt
      exact List.cons_prefix_cons.2 ⟨rfl, prefix_of_takeWhile_zip P hP bs ts (by simpa using h)⟩
    · simp at h

/-- A path that first climbs out of its base is never inside it. -/
lemma climbs_out (L : List String) :
    ("/".intercalate (".." :: L) == "." || "/".intercalate (".." :: L) == ".." ||
      ("/".intercalate (".." :: L)).startsWith "../") = true := by
  cases L with
  | nil => decide
  | cons x L =>
    rw [String.intercalate_cons_cons]
    have : (".." ++ "/" ++ "/".intercalate (x :: L)).startsWith "../" = true := by
      rw [String.startsWith_string_iff, String.toList_append]
      exact ⟨_, rfl⟩
    simp only [this, Bool.or_true]

/-- A clean path lies strictly inside a clean directory only below it: the directory's names
come first in the path's, and more follow. -/
lemma exists_of_relativeInside {ns ms : List String} (hns : ∀ n ∈ ns, NormalName n)
    (hms : ∀ n ∈ ms, NormalName n) (h : (relativeInside (ofNames ns) (ofNames ms)).isSome) :
    ∃ rest, rest ≠ [] ∧ ms = ns ++ rest := by
  unfold relativeInside rel at h
  simp only [clean_ofNames hns, clean_ofNames hms, isAbs_ofNames, names_ofNames hns,
    names_ofNames hms] at h
  by_cases heq : ns = ms
  · subst heq
    simp at h
  have hne : (ofNames ns == ofNames ms) = false :=
    beq_eq_false_iff_ne.2 fun h => heq (ofNames_injective hns hms h)
  -- The base has no names left past the common front, else the path climbs out with `..`.
  have hprefix : ns.length ≤ (List.takeWhile (fun x => x.1 == x.2) (ns.zip ms)).length := by
    generalize hk : (List.takeWhile (fun x => x.1 == x.2) (ns.zip ms)).length = k at h
    cases hd : ns.drop k with
    | nil => exact List.drop_eq_nil_iff.1 hd
    | cons b bs =>
      have hb : NormalName b := hns b (List.mem_of_mem_drop (hd ▸ List.mem_cons_self))
      have hbdot : (some b == some "..") = false := by simpa using hb.ne_dotDot
      simp only [hne, hd, List.head?_cons, hbdot, Bool.false_eq_true, if_false, bne_self_eq_false,
        List.map_cons, List.cons_append, climbs_out] at h
      simp at h
  obtain ⟨rest, rfl⟩ := prefix_of_takeWhile_zip _ (by simp) ns ms hprefix
  exact ⟨rest, fun hr => heq (by simp [hr]), rfl⟩

/-- The names of the directories between a root and a path below it. -/
def namesBetween (root p : String) : List String :=
  ((Path.names p).drop (Path.names root).length).dropLast

namespace ViewLoader

/-- The records a full load reads below one root: the template files of the root's walk, in
walking order. -/
def scanOf (t : FileTree) (root : String) : List Template :=
  (((t.walkFiles root [cacheDirName]).toOption.getD []).filter isTemplatePath).filterMap
    fun p => (read t root p).toOption

/-- The records a full load reads, in order: root after root. -/
def scanned (l : ViewLoader) (t : FileTree) : List Template :=
  l.roots.flatMap (scanOf t)

/-- Keeps a record unless one of its logical name is kept already. -/
def keepNew (kept : List Template) (r : Template) : List Template :=
  if (kept.map (·.name)).contains r.name then kept else kept ++ [r]

/-- The first record of each logical name, in order. -/
def firstOfEachName (rs : List Template) : List Template := rs.foldl keepNew []

lemma firstOfEachName_append_singleton (rs : List Template) (r : Template) :
    firstOfEachName (rs ++ [r]) = keepNew (firstOfEachName rs) r := by
  rw [firstOfEachName, firstOfEachName, List.foldl_append, List.foldl_cons, List.foldl_nil]

/-- Keeping the first of each name finds, for every name, what the whole list finds first. -/
lemma find?_foldl_keepNew (n : String) (rs : List Template) :
    ∀ kept, (rs.foldl keepNew kept).find? (·.name == n) = (kept ++ rs).find? (·.name == n) := by
  induction rs with
  | nil => simp
  | cons r rs ih =>
    intro kept
    rw [List.foldl_cons, ih, keepNew]
    split
    · rename_i hseen
      rw [List.find?_append, List.find?_append, List.find?_cons]
      cases hk : kept.find? (·.name == n) with
      | some k => rfl
      | none =>
        -- A record whose name is kept already is not the first of the name sought.
        have hr : (r.name == n) = false := by
          rw [List.find?_eq_none] at hk
          obtain ⟨k, hk', hkr⟩ := List.mem_map.1 (List.contains_iff_mem.1 hseen)
          simpa [← hkr] using hk k hk'
        simp [hr]
    · simp

lemma find?_firstOfEachName (n : String) (rs : List Template) :
    (firstOfEachName rs).find? (·.name == n) = rs.find? (·.name == n) := by
  rw [firstOfEachName, find?_foldl_keepNew, List.nil_append]

/-- A full load keeps one record of each logical name. -/
lemma nodup_names_firstOfEachName (rs : List Template) :
    ((firstOfEachName rs).map (·.name)).Nodup := by
  rw [firstOfEachName]
  suffices ∀ kept, (kept.map (·.name)).Nodup → ((rs.foldl keepNew kept).map (·.name)).Nodup from
    this [] List.nodup_nil
  induction rs with
  | nil => exact fun _ h => h
  | cons r rs ih =>
    intro kept hkept
    rw [List.foldl_cons]
    apply ih
    rw [keepNew]
    split
    · exact hkept
    · rename_i hseen
      rw [List.map_append, List.nodup_append]
      refine ⟨hkept, List.nodup_singleton _, ?_⟩
      intro a ha b hb hab
      rw [List.map_cons, List.map_nil, List.mem_singleton] at hb
      rw [hab, hb] at ha
      exact hseen (List.contains_iff_mem.2 ha)

/-- The record kept of a name read is the first one read of that name. -/
lemma find?_firstOfEachName_of_mem {rs : List Template} {r : Template} (hr : r ∈ rs) :
    ∃ q, (firstOfEachName rs).find? (·.name == r.name) = some q ∧
      (q = r ↔ ∃ pre suf, rs = pre ++ r :: suf ∧ ∀ s ∈ pre, s.name ≠ r.name) := by
  have hfind : (rs.find? (·.name == r.name)).isSome := List.find?_isSome.2 ⟨r, hr, beq_self_eq_true _⟩
  obtain ⟨q, hq⟩ := Option.isSome_iff_exists.1 hfind
  refine ⟨q, (find?_firstOfEachName r.name rs).trans hq, ⟨?_, ?_⟩⟩
  · rintro rfl
    obtain ⟨-, pre, suf, hsplit, hpre⟩ := List.find?_eq_some_iff_append.1 hq
    exact ⟨pre, suf, hsplit, fun s hs => by simpa using hpre s hs⟩
  · rintro ⟨pre, suf, hsplit, hpre⟩
    have hfirst : rs.find? (·.name == r.name) = some r :=
      List.find?_eq_some_iff_append.2
        ⟨beq_self_eq_true _, pre, suf, hsplit, fun s hs => by simpa using hpre s hs⟩
    exact Option.some_inj.1 (hq.symm.trans hfirst)

lemma isEmpty_firstOfEachName_of_mem {rs : List Template} {r : Template} (hr : r ∈ rs) :
    (firstOfEachName rs).isEmpty = false := by
  obtain ⟨q, hq, -⟩ := find?_firstOfEachName_of_mem hr
  cases h : firstOfEachName rs with
  | nil => rw [h] at hq; exact absurd hq (by simp)
  | cons _ _ => rfl

variable {l : ViewLoader} {t : FileTree}

lemma read_of_entry {root p c : String} (h : t.entry p = .file c) :
    read t root p = .ok (templateAt root p c) := by
  simp [read, FileTree.read, h]

/-- The state of a full load after reading some records: the records kept, the first of each
name, and the names seen, latest first. -/
def Loaded (rs : List Template) (s : List String × Array Template) : Prop :=
  s.2.toList = firstOfEachName rs ∧ s.1 = (s.2.toList.map (·.name)).reverse

/-- One record read: the load keeps it exactly when its name is new. -/
lemma Loaded.keep {rs : List Template} {s : List String × Array Template} (h : Loaded rs s)
    (r : Template) :
    Loaded (rs ++ [r])
      (if s.1.contains r.name = true then (s.1, s.2) else (r.name :: s.1, s.2.push r)) := by
  obtain ⟨h₁, h₂⟩ := h
  have hseen : s.1.contains r.name = ((firstOfEachName rs).map (·.name)).contains r.name := by
    rw [h₂, h₁, List.contains_reverse]
  rw [hseen]
  unfold Loaded
  rw [firstOfEachName_append_singleton, keepNew]
  split
  · exact ⟨h₁, h₂⟩
  · refine ⟨by simp [h₁], ?_⟩
    simp [h₁, h₂]

/-- **A full load keeps the first record of each logical name it reads.** When every root can be
walked, a full load fails only when it reads no template, and otherwise gives the first record of
each logical name in the order it reads them: root after root, each in walking order. The loop
over the roots and the loop over each root's walk keep `Loaded` of the records read so far. -/
lemma loadAll_eq (hwalk : ∀ root ∈ l.roots, ∃ ps, t.walkFiles root [cacheDirName] = .ok ps) :
    l.loadAll t = if (firstOfEachName (l.scanned t)).isEmpty then
      .error (((Fault.condition .noTemplatesFound).wrap "empty view roots").about "roots"
        (",".intercalate l.roots))
      else .ok (firstOfEachName (l.scanned t)) := by
  unfold loadAll
  apply forIn_bind_of_step (fun x => x = _) _ _
    (fun pre s => Loaded (pre.flatMap (scanOf t)) s) l.roots _ ⟨rfl, rfl⟩
  · intro pre root suf s hl hs
    obtain ⟨ps, hps⟩ := hwalk root (by simp [hl])
    have hfiles := FileTree.file_of_mem_walkFiles hps
    have hscan : scanOf t root =
        (ps.filter isTemplatePath).filterMap fun p => (read t root p).toOption := by
      rw [scanOf, hps]
      rfl
    simp only [hps, pure_bind]
    apply forIn_bind_of_step
      (fun x => ∃ b', x = pure (ForInStep.yield b') ∧ Loaded ((pre ++ [root]).flatMap (scanOf t)) b')
      _ _ (fun preP s' => Loaded (pre.flatMap (scanOf t) ++
        (preP.filter isTemplatePath).filterMap fun p => (read t root p).toOption) s') ps _
      (by simpa using hs)
    · intro preP p sufP s'' hpsplit hR'
      have hp : p ∈ ps := by simp [hpsplit]
      by_cases htpl : isTemplatePath p = true
      · -- A template file of the walk reads without failing.
        obtain ⟨c, hc⟩ := hfiles p hp
        have hread : read t root p = pure (templateAt root p c) := read_of_entry hc
        have hsome : (read t root p).toOption = some (templateAt root p c) := by
          rw [hread]
          rfl
        have hlist : pre.flatMap (scanOf t) ++
            ((preP ++ [p]).filter isTemplatePath).filterMap (fun p => (read t root p).toOption) =
            pre.flatMap (scanOf t) ++
              (preP.filter isTemplatePath).filterMap (fun p => (read t root p).toOption) ++
              [templateAt root p c] := by
          simp [List.filter_append, htpl, hsome]
        refine ⟨_, ?_, hlist ▸ hR'.keep (templateAt root p c)⟩
        simp only [htpl, Bool.not_true, Bool.false_eq_true, if_false, hread, pure_bind]
        split <;> rfl
      · refine ⟨(s''.1, s''.2), by simp [htpl], ?_⟩
        simpa [List.filter_append, htpl] using hR'
    · intro s' hR
      refine ⟨(s'.1, s'.2), rfl, ?_⟩
      simpa [hscan] using hR
  · intro b' hb'
    have hempty : b'.2.isEmpty = (firstOfEachName (l.scanned t)).isEmpty := by
      rw [scanned, ← hb'.1, Array.isEmpty_toList]
    simp only [hempty]
    split
    · rfl
    · rw [scanned, ← hb'.1]
      rfl

lemma load_eq {p r : String} (hp : clean p = p)
    (hr : l.roots.find? (fun root => (relativeInside root p).isSome) = some r) :
    l.load t p = read t r p := by
  simp only [load, hp, hr]

/-- A loader made from absolute roots holds their clean forms, paths of clean names. -/
lemma exists_ofNames_of_make {roots : List String} (hl : make roots = .ok l)
    (habs : ∀ root ∈ roots, isAbs root = true) {r : String} (hr : r ∈ l.roots) :
    ∃ ns, (∀ n ∈ ns, NormalName n) ∧ r = ofNames ns := by
  rw [make] at hl
  split at hl
  · exact absurd hl (by simp)
  · obtain rfl := (Except.ok.inj hl).symm
    obtain ⟨root, hroot, rfl⟩ := List.mem_map.1 hr
    exact exists_ofNames_of_isAbs (habs root hroot)

/-- A full load reads the template file a single load reads, under the same root, when no
directory between the root and the file is passed over. -/
lemma mem_scanned {roots : List String} (hl : make roots = .ok l)
    (habs : ∀ root ∈ roots, isAbs root = true) (ht : t.WellFormed) {p c r : String}
    (hp : t.files.find? p = some c) (htpl : isTemplatePath p = true)
    (hr : l.roots.find? (fun root => (relativeInside root p).isSome) = some r)
    (hopen : ∀ n ∈ namesBetween r p, n ∉ cacheDirName :: skippedDirs) :
    templateAt r p c ∈ l.scanned t := by
  have hkey : p ∈ t.files.keys := NameMap.mem_keys_of_find? hp
  obtain ⟨hpclean, hpabs⟩ := ht.clean_abs p hkey
  -- The root and the file are paths of clean names, the root's names first in the file's.
  have hrmem : r ∈ l.roots := List.mem_of_find?_eq_some hr
  obtain ⟨ns, hns, rfl⟩ := exists_ofNames_of_make hl habs hrmem
  obtain ⟨ms, hms, hpms⟩ := exists_ofNames_of_isAbs hpabs
  rw [hpclean] at hpms
  subst hpms
  obtain ⟨rest, hrest, rfl⟩ := exists_of_relativeInside hns hms (by simpa using List.find?_some hr)
  obtain ⟨c', rest', rfl⟩ := List.exists_cons_of_ne_nil hrest
  have hopen' : ∀ n ∈ (c' :: rest').dropLast,
      (skippedDirs.contains n || [cacheDirName].contains n) = false := by
    intro n hn
    have := hopen n (by rwa [namesBetween, names_ofNames hms, names_ofNames hns, List.drop_left])
    simpa [List.contains_iff_mem, not_or, and_comm] using this
  obtain ⟨ps, hwalk, hps⟩ := FileTree.mem_walkFiles ht hms hkey hopen'
  refine List.mem_flatMap.2 ⟨_, hrmem, ?_⟩
  rw [scanOf, hwalk]
  refine List.mem_filterMap.2 ⟨_, List.mem_filter.2 ⟨hps, htpl⟩, ?_⟩
  rw [read_of_entry (FileTree.entry_of_find? hpclean hp)]
  rfl

end ViewLoader

open ViewLoader in
/-- **A single load agrees with a full load unless an earlier template shadows it.** For a loader
made from absolute roots over a tree as a file system has it, with every root present: a single
load of a template file inside some root succeeds, with the record read from the first root the
file lies inside. When no directory between that root and the file is passed over by a walk, a
full load succeeds with one record of each logical name, among them one of the single load's
name, and that record is the single load's exactly when no template read before it, root after
root in walking order, has that name. -/
theorem load_agrees_unless_shadowed (roots : List String) (l : ViewLoader) (t : FileTree)
    (hl : make roots = .ok l) (habs : ∀ root ∈ roots, isAbs root = true) (ht : t.WellFormed)
    (hexist : ∀ root ∈ l.roots, t.entry root ≠ .absent ∧ t.entry root ≠ .belowFile)
    (p c r : String) (hp : t.files.find? p = some c) (htpl : isTemplatePath p = true)
    (hr : l.roots.find? (fun root => (relativeInside root p).isSome) = some r) :
    l.load t p = .ok (templateAt r p c) ∧
      ((∀ n ∈ namesBetween r p, n ∉ cacheDirName :: skippedDirs) →
        ∃ rs, l.loadAll t = .ok rs ∧ (rs.map (·.name)).Nodup ∧
          ∃ q, rs.find? (·.name == (templateAt r p c).name) = some q ∧
            (q = templateAt r p c ↔ ∃ pre suf, l.scanned t = pre ++ templateAt r p c :: suf ∧
              ∀ s ∈ pre, s.name ≠ (templateAt r p c).name)) := by
  obtain ⟨hpclean, -⟩ := ht.clean_abs p (NameMap.mem_keys_of_find? hp)
  refine ⟨by rw [load_eq hpclean hr]; exact read_of_entry (FileTree.entry_of_find? hpclean hp),
    fun hopen => ?_⟩
  -- The file is among the records read, and the full load keeps the first of its name.
  have hmem := mem_scanned hl habs ht hp htpl hr hopen
  have hall : ∀ root ∈ l.roots, ∃ ps, t.walkFiles root [cacheDirName] = .ok ps :=
    fun root hroot => FileTree.walkFiles_ok (hexist root hroot)
  obtain ⟨q, hq, hiff⟩ := find?_firstOfEachName_of_mem hmem
  exact ⟨_, by rw [loadAll_eq hall, isEmpty_firstOfEachName_of_mem hmem]; rfl,
    nodup_names_firstOfEachName _, q, hq, hiff⟩

/-- A site's views: a home page and a shared layout. -/
def siteViews : FileTree :=
  ⟨⟨[("/site/Views/Home/Index.html", "<h1>Home</h1>"), ("/site/Views/Shared/Layout.html", "%%View%%")],
    by decide⟩, []⟩

/-- The home page loads alone as the full load keeps it: no template is read before it. -/
theorem home_page_loads_alike :
    (ViewLoader.mk ["/site/Views"]).load siteViews "/site/Views/Home/Index.html" =
        .ok (ViewLoader.templateAt "/site/Views" "/site/Views/Home/Index.html" "<h1>Home</h1>") ∧
      ∃ rs, (ViewLoader.mk ["/site/Views"]).loadAll siteViews = .ok rs ∧ (rs.map (·.name)).Nodup ∧
        ∃ q, rs.find? (·.name == (ViewLoader.templateAt "/site/Views" "/site/Views/Home/Index.html"
            "<h1>Home</h1>").name) = some q ∧
          (q = ViewLoader.templateAt "/site/Views" "/site/Views/Home/Index.html" "<h1>Home</h1>" ↔
            ∃ pre suf, (ViewLoader.mk ["/site/Views"]).scanned siteViews =
                pre ++ ViewLoader.templateAt "/site/Views" "/site/Views/Home/Index.html"
                  "<h1>Home</h1>" :: suf ∧
              ∀ s ∈ pre, s.name ≠ (ViewLoader.templateAt "/site/Views" "/site/Views/Home/Index.html"
                "<h1>Home</h1>").name) :=
  have h := load_agrees_unless_shadowed ["/site/Views"] ⟨["/site/Views"]⟩ siteViews
    (by rw [ViewLoader.make, if_neg (by decide),
      show ["/site/Views"].map Path.clean = ["/site/Views"] by decide +kernel])
    (by decide +kernel) ⟨by decide +kernel, by decide +kernel⟩ (by decide +kernel)
    "/site/Views/Home/Index.html" "<h1>Home</h1>" "/site/Views" rfl (by decide +kernel)
    (by decide +kernel)
  ⟨h.1, h.2 (by decide +kernel)⟩

/-- Two roots with a template `A` each, and a third with a template below `node_modules`. -/
def shadowedViews : FileTree :=
  ⟨⟨[("/v1/A.html", "one"), ("/v2/A.html", "two"), ("/v3/node_modules/B.html", "three")], by decide⟩,
    []⟩

/-- **A single load can disagree with the full load.** Loading `/v2/A.html` alone gives the
logical name `A` with the second root's file, while the full load keeps the first root's `A`; and
loading the file below `node_modules` gives a name the full load never holds. -/
theorem load_disagrees_with_loadAll :
    ((ViewLoader.mk ["/v1", "/v2", "/v3"]).load shadowedViews "/v2/A.html").toOption.map
        (fun r => (r.name, r.sourcePath, r.raw)) = some ("A", "/v2/A.html", "two") ∧
      ((ViewLoader.mk ["/v1", "/v2", "/v3"]).load shadowedViews "/v3/node_modules/B.html").toOption.map
        (fun r => (r.name, r.sourcePath, r.raw)) =
          some ("node_modules/B", "/v3/node_modules/B.html", "three") ∧
      ((ViewLoader.mk ["/v1", "/v2", "/v3"]).loadAll shadowedViews).toOption.map
        (·.map fun r => (r.name, r.sourcePath, r.raw)) = some [("A", "/v1/A.html", "one")] := by
  decide +kernel

end Stencil

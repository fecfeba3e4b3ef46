import Stencil.Files.Tree
import Mathlib.Data.List.Infix
/-!
# Clean absolute paths as lists of names

A clean absolute path is `/` followed by its names joined with `/` (`Path.ofNames`), each name
neither empty, nor `.` or `..`, nor holding a slash (`Path.NormalName`). Cleaning any absolute
path gives such a path (`Path.exists_ofNames_of_isAbs`), and on such paths the operations of the
file model read as operations on the names: cleaning changes nothing, the names are read back,
appending a name appends it, a path lies below each of its fronts, and a directory lists the
first name of every file below it (`FileTree.mem_children`).

Cutting at `/` is the library's `List.splitOn`, whose inverse on pieces without the separator is
`List.intercalate`.
-/

namespace Stencil

namespace Text

/-- Cutting at a single character, with the piece so far reversed in hand, is the library's
split with that piece in front. -/
lemma splitEvery_eq_splitOnPPrepend (c : Char) (s : List Char) :
    ∀ cur, splitEvery c [] cur s = s.splitOnPPrepend (· == c) cur := by
  induction s with
  | nil => intro cur; rw [splitEvery]; rfl
  | cons x xs ih =>
    intro cur
    rw [splitEvery, List.splitOnPPrepend_cons_eq_if]
    by_cases hx : x = c
    · subst hx
      simp [ih]
    · have : (c == x) = false := by simpa using Ne.symm hx
      simp [List.isPrefixOf, this, hx, ih]

lemma splitOn_single (c : Char) (s : List Char) : splitOn [c] s = s.splitOn c := by
  show splitEvery c [] [] s = _
  rw [splitEvery_eq_splitOnPPrepend]
  rfl

end Text

namespace Path

/-- A name a clean absolute path holds: not empty, neither `.` nor `..`, and without a slash. -/
structure NormalName (n : String) : Prop where
  ne_empty : n ≠ ""
  ne_dot : n ≠ "."
  ne_dotDot : n ≠ ".."
  no_slash : '/' ∉ n.toList

/-- The absolute path of a list of names. -/
def ofNames (ns : List String) : String := "/" ++ "/".intercalate ns

@[simp] lemma ofNames_nil : ofNames [] = "/" := by simp [ofNames]

lemma ofNames_append {ns rest : List String} (hns : ns ≠ []) (hrest : rest ≠ []) :
    ofNames (ns ++ rest) = ofNames ns ++ "/" ++ "/".intercalate rest := by
  rw [ofNames, ofNames, String.intercalate_append_of_ne_nil hns hrest]
  simp only [String.append_assoc]

lemma ofNames_ne_empty (ns : List String) : ofNames ns ≠ "" := by
  intro h
  exact absurd (String.append_eq_empty_iff.1 h).1 (by decide)

lemma isAbs_ofNames (ns : List String) : isAbs (ofNames ns) = true := by
  rw [isAbs, String.startsWith_string_iff, ofNames, String.toList_append]
  exact List.prefix_append _ _

lemma intercalate_ne_empty {n : String} {ns : List String} (hn : n ≠ "") :
    "/".intercalate (n :: ns) ≠ "" := by
  cases ns with
  | nil => simpa using hn
  | cons m ms =>
    rw [String.intercalate_cons_cons]
    intro h
    exact hn (String.append_eq_empty_iff.1 (String.append_eq_empty_iff.1 h).1).1

/-- The root is the only clean absolute path without names. -/
lemma ofNames_eq_root_iff {ns : List String} (hns : ∀ n ∈ ns, NormalName n) :
    ofNames ns = "/" ↔ ns = [] := by
  refine ⟨fun h => ?_, fun h => by simp [h]⟩
  cases ns with
  | nil => rfl
  | cons n ns =>
    exfalso
    apply intercalate_ne_empty (hns n (by simp)).ne_empty
    have h' : "/" ++ "/".intercalate (n :: ns) = "/" ++ "" := h
    exact (String.append_right_inj "/").1 h'

lemma ofNames_cons_beq_root {m : String} {ms : List String} (hns : ∀ n ∈ m :: ms, NormalName n) :
    (ofNames (m :: ms) == "/") = false :=
  beq_eq_false_iff_ne.2 fun h => List.cons_ne_nil _ _ ((ofNames_eq_root_iff hns).1 h)

/-- A path has at least as many characters as names. -/
lemma length_le_length_intercalate : ∀ ns : List String, ns.length ≤ ("/".intercalate ns).length + 1
  | [] => by simp
  | [n] => by simp
  | n :: m :: ms => by
    have ih := length_le_length_intercalate (m :: ms)
    rw [String.intercalate_cons_cons, String.length_append, String.length_append]
    simp only [List.length_cons] at ih ⊢
    have : "/".length = 1 := rfl
    omega

lemma length_le_length_ofNames (ns : List String) : ns.length ≤ (ofNames ns).length := by
  have h := length_le_length_intercalate ns
  rw [ofNames, String.length_append]
  have : "/".length = 1 := rfl
  omega

/-! ### Cutting at slashes -/

lemma pieces_eq (p : String) : pieces p = (p.toList.splitOn '/').map String.ofList := by
  rw [pieces, Text.cut, show "/".toList = ['/'] from rfl, Text.splitOn_single]

lemma not_mem_of_mem_splitOn {c : Char} : ∀ {s w : List Char}, w ∈ s.splitOn c → c ∉ w
  | [], w, hw => by simp_all
  | x :: xs, w, hw => by
    rw [List.splitOn_cons_eq_if_modifyHead] at hw
    split at hw
    · rcases List.mem_cons.1 hw with rfl | hw
      · simp
      · exact not_mem_of_mem_splitOn hw
    · rename_i hx
      obtain ⟨v, vs, hv⟩ := List.exists_cons_of_ne_nil (List.splitOn_ne_nil c xs)
      rw [hv, List.modifyHead_cons] at hw
      rcases List.mem_cons.1 hw with rfl | hw
      · have hv' : c ∉ v := not_mem_of_mem_splitOn (hv ▸ List.mem_cons_self)
        simp only [beq_iff_eq] at hx
        simp [Ne.symm hx, hv']
      · exact not_mem_of_mem_splitOn (hv ▸ List.mem_cons_of_mem _ hw)

lemma no_slash_of_mem_pieces {p n : String} (h : n ∈ pieces p) : '/' ∉ n.toList := by
  rw [pieces_eq] at h
  obtain ⟨w, hw, rfl⟩ := List.mem_map.1 h
  simpa using not_mem_of_mem_splitOn hw

lemma pieces_intercalate {ns : List String} (hns : ∀ n ∈ ns, '/' ∉ n.toList) (hne : ns ≠ []) :
    pieces ("/".intercalate ns) = ns := by
  rw [pieces_eq, String.toList_intercalate, show "/".toList = ['/'] from rfl,
    List.splitOn_intercalate '/' (by simpa using hns) (by simpa using hne)]
  simp

lemma pieces_ofNames {ns : List String} (hns : ∀ n ∈ ns, '/' ∉ n.toList) (hne : ns ≠ []) :
    pieces (ofNames ns) = "" :: ns := by
  have h := pieces_intercalate hns hne
  rw [pieces_eq] at h ⊢
  rw [ofNames, String.toList_append, show "/".toList = ['/'] from rfl, List.singleton_append,
    List.splitOn_cons_eq_if_modifyHead, if_pos (by simp), List.map_cons, h]

/-! ### Cleaning -/

lemma keptNames_cons_empty (r : Bool) (xs : List String) :
    keptNames r ("" :: xs) = keptNames r xs := by
  simp [keptNames]

/-- Clean names pass through the stack of kept names unchanged. -/
lemma keptNames_of_normal {ns : List String} (hns : ∀ n ∈ ns, NormalName n) :
    keptNames true ns = ns := by
  induction ns using List.reverseRecOn with
  | nil => rfl
  | append_singleton ns n ih =>
    have h := hns n (by simp)
    have ih' := ih (fun m hm => hns m (by simp [hm]))
    rw [keptNames, List.foldl_append] at *
    rw [← List.reverse_reverse (List.foldl _ [] ns), ih']
    simp [h.ne_empty, h.ne_dot, h.ne_dotDot]

/-- The names a rooted path keeps are clean names, when no name has a slash in it: the stack
never holds `..`, since at the root `..` is dropped. -/
lemma normal_of_mem_keptNames {xs : List String} (hxs : ∀ x ∈ xs, '/' ∉ x.toList) :
    ∀ n ∈ keptNames true xs, NormalName n := by
  rw [keptNames]
  simp only [List.mem_reverse]
  induction xs using List.reverseRecOn with
  | nil => simp
  | append_singleton xs x ih =>
    have ih' := ih (fun y hy => hxs y (by simp [hy]))
    have hx := hxs x (by simp)
    rw [List.foldl_append, List.foldl_cons, List.foldl_nil]
    generalize List.foldl _ [] xs = stk at ih'
    split
    · exact ih'
    · split
      · split
        · rename_i _ top rest
          have htop := ih' top (by simp)
          have : (top == "..") = false := by simpa using htop.ne_dotDot
          simp only [this, Bool.false_eq_true, if_false]
          exact fun n hn => ih' n (by simp [hn])
        · simp
      · rename_i h1 h2
        simp only [Bool.or_eq_true, beq_iff_eq, not_or] at h1 h2
        intro n hn
        rcases List.mem_cons.1 hn with rfl | hn
        · exact ⟨h1.1, h1.2, h2, hx⟩
        · exact ih' n hn

lemma keptNames_pieces_ofNames {ns : List String} (hns : ∀ n ∈ ns, NormalName n) :
    keptNames true (pieces (ofNames ns)) = ns := by
  cases ns with
  | nil => decide +kernel
  | cons n ns =>
    rw [pieces_ofNames (fun n hn => (hns n hn).no_slash) (List.cons_ne_nil _ _),
      keptNames_cons_empty, keptNames_of_normal hns]

lemma clean_of_isAbs {p : String} (h : isAbs p = true) :
    clean p = ofNames (keptNames true (pieces p)) := by
  have hne : p.isEmpty = false := by
    rw [String.isEmpty_eq_false_iff]
    rintro rfl
    exact absurd h (by decide)
  simp only [clean, hne, h, if_true, Bool.false_eq_true, if_false]
  rfl

/-- Cleaning an absolute path gives the path of clean names. -/
lemma exists_ofNames_of_isAbs {p : String} (h : isAbs p = true) :
    ∃ ns, (∀ n ∈ ns, NormalName n) ∧ clean p = ofNames ns :=
  ⟨_, normal_of_mem_keptNames fun _ => no_slash_of_mem_pieces, clean_of_isAbs h⟩

@[simp] lemma clean_ofNames {ns : List String} (hns : ∀ n ∈ ns, NormalName n) :
    clean (ofNames ns) = ofNames ns := by
  rw [clean_of_isAbs (isAbs_ofNames ns), keptNames_pieces_ofNames hns]

lemma names_ofNames {ns : List String} (hns : ∀ n ∈ ns, NormalName n) :
    names (ofNames ns) = ns := by
  have hdot : (ofNames ns == ".") = false := by
    rw [beq_eq_false_iff_ne]
    intro h
    have := congrArg (fun s => s.toList.head?) h
    simp [ofNames] at this
  cases ns with
  | nil => decide +kernel
  | cons n ns =>
    rw [names, hdot, pieces_ofNames (fun m hm => (hns m hm).no_slash) (List.cons_ne_nil _ _)]
    simp only [Bool.false_eq_true, if_false]
    rw [List.filter_cons_of_neg (by decide), List.filter_eq_self.2]
    intro m hm
    simpa [String.isEmpty_eq_false_iff] using (hns m hm).ne_empty

lemma ofNames_injective {ns ms : List String} (hns : ∀ n ∈ ns, NormalName n)
    (hms : ∀ n ∈ ms, NormalName n) (h : ofNames ns = ofNames ms) : ns = ms := by
  rw [← names_ofNames hns, ← names_ofNames hms, h]

/-- Appending a clean name to a clean path appends it to the names. -/
lemma append_ofNames {ns : List String} (hns : ∀ m ∈ ns, NormalName m) {n : String}
    (hn : NormalName n) : append (ofNames ns) n = ofNames (ns ++ [n]) := by
  have hjoin : append (ofNames ns) n = clean (ofNames ns ++ "/" ++ n) := by
    have h₁ : (ofNames ns).isEmpty = false := String.isEmpty_eq_false_iff.2 (ofNames_ne_empty ns)
    have h₂ : n.isEmpty = false := String.isEmpty_eq_false_iff.2 hn.ne_empty
    simp only [append, join, List.filter_cons, h₁, h₂, Bool.not_false, if_true, List.filter_nil]
    rw [String.intercalate_cons_cons, String.intercalate_singleton]
  rw [hjoin]
  cases ns with
  | nil =>
    -- Below the root the joined text starts with two slashes, the first name being empty.
    have hsplit : ofNames [] ++ "/" ++ n = ofNames ["", n] := by
      rw [ofNames, ofNames, String.intercalate_nil, String.intercalate_cons_cons,
        String.intercalate_singleton, String.append_empty, String.empty_append, String.append_assoc]
    have hns' : ∀ m ∈ ["", n], '/' ∉ m.toList := by simpa using hn.no_slash
    rw [hsplit, clean_of_isAbs (isAbs_ofNames _), pieces_ofNames hns' (by simp),
      keptNames_cons_empty, keptNames_cons_empty, keptNames_of_normal (by simpa using hn)]
    rfl
  | cons m ms =>
    have hsplit : ofNames (m :: ms) ++ "/" ++ n = ofNames (m :: ms ++ [n]) := by
      rw [ofNames_append (List.cons_ne_nil _ _) (List.cons_ne_nil _ _), String.intercalate_singleton]
    rw [hsplit]
    exact clean_ofNames (List.forall_mem_append.2 ⟨hns, List.forall_mem_singleton.2 hn⟩)

end Path

namespace FileTree

open Stencil.Path

variable {ns rest : List String}

/-- A path lies below each of its fronts. -/
lemma isBelow_ofNames (hns : ∀ m ∈ ns, NormalName m) (hrest : ∀ m ∈ rest, NormalName m)
    (hne : rest ≠ []) : isBelow (ofNames ns) (ofNames (ns ++ rest)) = true := by
  cases ns with
  | nil =>
    have hroot : ofNames rest ≠ "/" := fun h => hne ((ofNames_eq_root_iff hrest).1 h)
    have habs := isAbs_ofNames rest
    rw [isAbs] at habs
    simp [isBelow, hroot, habs]
  | cons m ms =>
    rw [isBelow, ofNames_cons_beq_root hns, if_neg Bool.false_ne_true, ofNames_append (List.cons_ne_nil _ _) hne,
      String.startsWith_string_iff]
    exact ⟨_, String.toList_append.symm⟩

/-- What follows a directory in the path of something below it. -/
lemma drop_ofNames_append (hns : ∀ m ∈ ns, NormalName m) (hne : rest ≠ []) :
    (ofNames (ns ++ rest)).toList.drop
        (if ofNames ns == "/" then 1 else (ofNames ns).length + 1) =
      ("/".intercalate rest).toList := by
  cases ns with
  | nil => simp [ofNames]
  | cons m ms =>
    have hlen : ((ofNames (m :: ms)).toList ++ ['/']).length = (ofNames (m :: ms)).length + 1 := by
      rw [List.length_append, String.length_toList, List.length_singleton]
    rw [ofNames_cons_beq_root hns, if_neg Bool.false_ne_true,
      ofNames_append (List.cons_ne_nil _ _) hne, String.toList_append, String.toList_append,
      show "/".toList = ['/'] from rfl, ← hlen,
      List.drop_left]

/-- Adding names not yet held keeps every name held or met. -/
lemma mem_foldl_addNew {x : String} : ∀ (l acc : List String), x ∈ acc ∨ x ∈ l →
    x ∈ l.foldl (fun acc n => if acc.contains n then acc else acc ++ [n]) acc
  | [], acc, h => by simpa using h
  | y :: l, acc, h => by
    rw [List.foldl_cons]
    apply mem_foldl_addNew l
    rcases h with h | h
    · left
      split <;> simp [h]
    · rcases List.mem_cons.1 h with rfl | h
      · left
        split
        · rename_i hx
          simpa using hx
        · simp
      · exact .inr h

/-- A directory lists the first name below it of every file below it, at any depth. -/
lemma mem_children {t : FileTree} {c : String} (hns : ∀ m ∈ ns, NormalName m)
    (hc : NormalName c) (hrest : ∀ m ∈ rest, NormalName m)
    (hp : ofNames (ns ++ c :: rest) ∈ t.files.keys) : c ∈ t.children (ofNames ns) := by
  have hcrest : ∀ m ∈ c :: rest, NormalName m := by simpa using ⟨hc, hrest⟩
  -- The file's path after the directory's names is its first name, then the rest.
  have hfirst : (Text.cut (String.ofList ((ofNames (ns ++ c :: rest)).toList.drop
      (if ofNames ns == "/" then 1 else (ofNames ns).length + 1))) "/").headD
      (String.ofList ((ofNames (ns ++ c :: rest)).toList.drop
        (if ofNames ns == "/" then 1 else (ofNames ns).length + 1))) = c := by
    rw [drop_ofNames_append hns (List.cons_ne_nil _ _), String.ofList_toList, ← pieces,
      pieces_intercalate (fun m hm => (hcrest m hm).no_slash) (List.cons_ne_nil _ _)]
    rfl
  rw [children, List.mem_mergeSort]
  apply mem_foldl_addNew
  right
  refine List.mem_map.2 ⟨_, List.mem_filter.2 ⟨List.mem_append_left _ hp, ?_⟩, hfirst⟩
  exact isBelow_ofNames hns hcrest (List.cons_ne_nil _ _)

end FileTree

end Stencil

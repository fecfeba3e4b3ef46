import Stencil.Dashboard
import Mathlib.Data.List.Infix
/-!
# The dashboard's rows follow the reloads

The dashboard keeps one row per reload it hears of. A start adds a running row. A finish settles
the latest running row of its path, completed or failed, with the views rebuilt and the failure's
text; when no row of its path is running (its start was missed, or every start of it has already
finished), it adds a settled row of its own. Every other message leaves the rows alone.

From one step to a whole run of messages (`Dashboard.receive`):

* the rows are the rows before and then one per start and per finish that found no running row of
  its path, in the order the messages came (`receive_pathNames`);
* a finish settles exactly the latest running row of its path, or its own new row, and changes
  no other row (`finish_cases`, `LatestRunning.unique`);
* a settled row never changes again (`receive_keeps_settled`);
* the screen lists the latest rows that fit under the heading, and all of them when the window's
  height is unknown (`view_shows_latest`).

The finish finds its row by searching the rows with their positions from the end;
`findSome?_latest` says that search answers the latest running row of the path.
-/

namespace Stencil

namespace ReloadRow

/-- A row of a reload of `path` that is still running. -/
def RunningOf (path : String) (r : ReloadRow) : Prop :=
  r.path = path ∧ r.status = .running

instance (path : String) : DecidablePred (RunningOf path) :=
  fun r => inferInstanceAs (Decidable (r.path = path ∧ r.status = .running))

lemma runningOf_iff_check {path : String} {r : ReloadRow} :
    r.RunningOf path ↔ (r.path == path && r.status == .running) = true := by
  simp [RunningOf]

/-- A row once its reload finished: completed, or failed with the failure's text, with the views
rebuilt. -/
def settle (views : List String) (failure : Option String) (r : ReloadRow) : ReloadRow :=
  { r with status := if failure.isSome then .failed else .completed, views, failure := failure.getD "" }

@[simp] lemma settle_path (views : List String) (failure : Option String) (r : ReloadRow) :
    (r.settle views failure).path = r.path := rfl

@[simp] lemma settle_name (views : List String) (failure : Option String) (r : ReloadRow) :
    (r.settle views failure).name = r.name := rfl

end ReloadRow

open ReloadRow

/-- Row `i` is `r`, a running row of `path`, and no later row is a running row of `path`. -/
def LatestRunning (rows : List ReloadRow) (path : String) (i : Nat) (r : ReloadRow) : Prop :=
  rows[i]? = some r ∧ r.RunningOf path ∧ ∀ j r', i < j → rows[j]? = some r' → ¬ r'.RunningOf path

/-- There is one latest running row of a path. -/
lemma LatestRunning.unique {rows : List ReloadRow} {path : String} {i j : Nat} {r r' : ReloadRow}
    (h : LatestRunning rows path i r) (h' : LatestRunning rows path j r') : i = j ∧ r = r' := by
  obtain ⟨hi, hr, hlater⟩ := h
  obtain ⟨hj, hr', hlater'⟩ := h'
  -- Of two different positions, the later one would be a running row after the other.
  have hij : i = j := by
    rcases Nat.lt_trichotomy i j with hlt | heq | hgt
    · exact absurd hr' (hlater j r' hlt hj)
    · exact heq
    · exact absurd hr (hlater' i r hgt hi)
  subst hij
  exact ⟨rfl, Option.some.inj (hi.symm.trans hj)⟩

/-- Changing an element into one that `f` takes to the same value keeps the list's image under
`f`. -/
lemma map_set_of_eq {α β : Type} (f : α → β) {l : List α} {i : Nat} {a b : α} (hi : l[i]? = some a)
    (hab : f b = f a) : (l.set i b).map f = l.map f := by
  apply List.ext_getElem?
  intro j
  rw [List.getElem?_map, List.getElem?_map, List.getElem?_set]
  split
  · rename_i hij
    subst hij
    obtain ⟨hlen, hla⟩ := List.getElem?_eq_some_iff.1 hi
    simp [hlen, hla, hab]
  · rfl

/-- The positions of rows with one more row at the end. -/
lemma zip_range_concat (rows : List ReloadRow) (x : ReloadRow) :
    (rows ++ [x]).zip (List.range (rows ++ [x]).length) =
      rows.zip (List.range rows.length) ++ [(x, rows.length)] := by
  rw [List.length_append, List.length_singleton, List.range_succ, List.zip_append (by simp)]
  rfl

section Search

variable {path : String} {g : ReloadRow × Nat → Option Nat}

/-- The search of a finish, through the rows with their positions from the end, answers the
position of the latest running row of the path, and nothing when no row of it is running. -/
lemma findSome?_latest
    (hg : ∀ r i, g (r, i) = if (r.path == path && r.status == .running) = true then some i else none) :
    ∀ rows : List ReloadRow,
      (∀ i, (rows.zip (List.range rows.length)).reverse.findSome? g = some i →
        ∃ r, LatestRunning rows path i r) ∧
      ((rows.zip (List.range rows.length)).reverse.findSome? g = none →
        ∀ r ∈ rows, ¬ r.RunningOf path) := by
  -- The search starts from the last row, so the induction adds rows at the end.
  intro rows
  induction rows using List.reverseRecOn with
  | nil => exact ⟨fun i h => by simp at h, fun _ _ hr => by simp at hr⟩
  | append_singleton rows x ih =>
    rw [zip_range_concat, List.reverse_append, List.reverse_singleton, List.singleton_append,
      List.findSome?_cons, hg]
    by_cases hx : (x.path == path && x.status == .running) = true
    · -- The last row is a running row of the path: it is the latest.
      rw [if_pos hx]
      refine ⟨fun i h => ?_, fun h => by simp at h⟩
      cases h
      refine ⟨x, List.getElem?_concat_length, runningOf_iff_check.2 hx, fun j r' hj hr' => ?_⟩
      have : (rows ++ [x]).length ≤ j := by simp; omega
      simp [List.getElem?_eq_none this] at hr'
    · -- The last row is not: the search goes on among the rows before it.
      rw [if_neg hx]
      have hxr : ¬ x.RunningOf path := fun h => hx (runningOf_iff_check.1 h)
      refine ⟨fun i h => ?_, fun h r hr => ?_⟩
      · obtain ⟨r, hi, hr, hlater⟩ := ih.1 i h
        have hlen : i < rows.length := (List.getElem?_eq_some_iff.1 hi).1
        refine ⟨r, by rw [List.getElem?_append_left hlen]; exact hi, hr, fun j r' hj hr' => ?_⟩
        rcases Nat.lt_or_ge j rows.length with hjl | hjl
        · rw [List.getElem?_append_left hjl] at hr'
          exact hlater j r' hj hr'
        · rw [List.getElem?_append_right hjl] at hr'
          obtain ⟨hj0, hx'⟩ := List.getElem?_eq_some_iff.1 hr'
          simp only [List.length_singleton] at hj0
          simp only [List.getElem_singleton] at hx'
          exact hx' ▸ hxr
      · rcases List.mem_append.1 hr with hr | hr
        · exact ih.2 h r hr
        · rw [List.mem_singleton.1 hr]; exact hxr

end Search

namespace Dashboard

section Step

variable (d : Dashboard) (path : String) (views : List String) (failure : Option String)

/-- What a finish does to the rows: it settles the latest running row of its path, or, when no row
of its path is running, adds a settled row of its own. -/
lemma finish_cases :
    (∃ i r, LatestRunning d.rows path i r ∧
      (d.finish path views failure).rows = d.rows.set i (r.settle views failure)) ∨
    ((∀ r ∈ d.rows, ¬ r.RunningOf path) ∧
      (d.finish path views failure).rows =
        d.rows ++ [settle views failure { path, name := d.displayName path, status := .running }]) := by
  unfold finish
  dsimp only
  split
  · rename_i i hsearch
    obtain ⟨r, hlatest⟩ := (findSome?_latest (fun _ _ => rfl) d.rows).1 i hsearch
    refine .inl ⟨i, r, hlatest, ?_⟩
    rw [List.modify_eq_set_getElem?, hlatest.1]
    rfl
  · rename_i hsearch
    exact .inr ⟨(findSome?_latest (fun _ _ => rfl) d.rows).2 hsearch, rfl⟩

/-- A finish keeps the roots. -/
@[simp] lemma finish_roots : (d.finish path views failure).roots = d.roots := by
  unfold finish
  dsimp only
  split <;> rfl

/-- A finish settles the latest running row of its path and changes no other row. -/
lemma finish_rows_of_latest {i : Nat} {r : ReloadRow} (h : LatestRunning d.rows path i r) :
    (d.finish path views failure).rows = d.rows.set i (r.settle views failure) := by
  rcases finish_cases d path views failure with ⟨i', r', h', hrows⟩ | ⟨hnone, -⟩
  · obtain ⟨rfl, rfl⟩ := h.unique h'
    exact hrows
  · exact absurd h.2.1 (hnone r (List.mem_of_getElem? h.1))

/-! ### One message -/

/-- The path of the row a message adds: a start adds one, and so does a finish that finds no
running row of its path. -/
def rowAdded : DashboardMessage → Option String
  | .news (.started path) => some path
  | .news (.finished path _ _) => if ∃ r ∈ d.rows, r.RunningOf path then none else some path
  | _ => none

variable (m : DashboardMessage)

/-- No message changes the roots. -/
@[simp] lemma update_roots : (d.update m).1.roots = d.roots := by
  cases m with
  | news e => cases e <;> simp [update]
  | _ => rfl

/-- Rows are named by the roots alone. -/
lemma displayName_of_roots {d d' : Dashboard} (h : d'.roots = d.roots) :
    d'.displayName = d.displayName := by
  unfold displayName
  rw [h]

/-- After a message, the rows keep their paths and names, and the row it adds, if any, comes
last. -/
lemma update_pathNames :
    (d.update m).1.rows.map (fun r => (r.path, r.name)) =
      d.rows.map (fun r => (r.path, r.name)) ++
        ((d.rowAdded m).toList.map fun p => (p, d.displayName p)) := by
  cases m with
  | news e =>
    cases e with
    | started p => simp [update, rowAdded]
    | finished p vs f =>
      show (d.finish p vs f).rows.map _ = _
      rcases finish_cases d p vs f with ⟨i, r, hl, hrows⟩ | ⟨hnone, hrows⟩
      · -- The settled row keeps its path and name.
        have hrun : ∃ r ∈ d.rows, r.RunningOf p := ⟨r, List.mem_of_getElem? hl.1, hl.2.1⟩
        rw [hrows, map_set_of_eq _ hl.1 (by simp), rowAdded, if_pos hrun]
        simp
      · have hnot : ¬ ∃ r ∈ d.rows, r.RunningOf p := fun ⟨r, hr, hrun⟩ => hnone r hr hrun
        rw [hrows, rowAdded, if_neg hnot]
        simp
  | _ => simp [update, rowAdded]

/-- A row that is no longer running stays as it is after any message. -/
lemma update_keeps_settled {i : Nat} {r : ReloadRow} (hi : d.rows[i]? = some r)
    (hr : r.status ≠ .running) : (d.update m).1.rows[i]? = some r := by
  have hlen : i < d.rows.length := (List.getElem?_eq_some_iff.1 hi).1
  cases m with
  | news e =>
    cases e with
    | started p => simp [update, List.getElem?_append_left hlen, hi]
    | finished p vs f =>
      show (d.finish p vs f).rows[i]? = some r
      rcases finish_cases d p vs f with ⟨j, r', hl, hrows⟩ | ⟨-, hrows⟩
      · -- The settled row was running, so it is another row.
        have hji : j ≠ i := by
          rintro rfl
          rw [hl.1] at hi
          cases hi
          exact hr hl.2.1.2
        rw [hrows, List.getElem?_set_ne hji, hi]
      · rw [hrows, List.getElem?_append_left hlen, hi]
  | _ => exact hi

end Step

/-! ### A run of messages -/

/-- The dashboard after taking messages in order. -/
def receive (d : Dashboard) (ms : List DashboardMessage) : Dashboard :=
  ms.foldl (fun d m => (d.update m).1) d

/-- The paths of the rows a run of messages adds, in order. -/
def addedPaths (d : Dashboard) : List DashboardMessage → List String
  | [] => []
  | m :: ms => (d.rowAdded m).toList ++ (d.update m).1.addedPaths ms

variable (d : Dashboard)

@[simp] lemma receive_nil : d.receive [] = d := rfl

lemma receive_cons (m : DashboardMessage) (ms : List DashboardMessage) :
    d.receive (m :: ms) = (d.update m).1.receive ms := rfl

lemma receive_append (ms ms' : List DashboardMessage) :
    d.receive (ms ++ ms') = (d.receive ms).receive ms' :=
  List.foldl_append

@[simp] lemma receive_roots (ms : List DashboardMessage) : (d.receive ms).roots = d.roots := by
  induction ms generalizing d with
  | nil => rfl
  | cons m ms ih => rw [receive_cons, ih, update_roots]

/-- After a run, the rows are those before and then one per start and per finish that found no
running row of its path, in the order the messages came. -/
lemma receive_pathNames (ms : List DashboardMessage) :
    (d.receive ms).rows.map (fun r => (r.path, r.name)) =
      d.rows.map (fun r => (r.path, r.name)) ++
        (d.addedPaths ms).map fun p => (p, d.displayName p) := by
  induction ms generalizing d with
  | nil => simp [addedPaths]
  | cons m ms ih =>
    -- Names are given by the roots, which no message changes.
    have hname := displayName_of_roots (update_roots d m)
    rw [receive_cons, ih, update_pathNames, hname, addedPaths, List.map_append, List.append_assoc]

/-- A row that is no longer running stays as it is for the rest of any run. -/
lemma receive_keeps_settled (ms : List DashboardMessage) {i : Nat} {r : ReloadRow}
    (hi : d.rows[i]? = some r) (hr : r.status ≠ .running) : (d.receive ms).rows[i]? = some r := by
  induction ms generalizing d with
  | nil => exact hi
  | cons m ms ih => exact ih _ (update_keeps_settled d m hi hr)

/-! ### The screen -/

/-- The screen lists the heading, then the latest rows that fit under it: with a known height, as
many as the lines below the heading, and all of them otherwise. -/
lemma view_shows_latest :
    let k := if 0 < d.height then min d.rows.length (d.height - 1).toNat else d.rows.length
    ∃ shown, shown <:+ d.rows ∧ shown.length = k ∧
      d.view = "watching " ++ ", ".intercalate d.roots ++ "\n" ++
        (if d.rows.isEmpty then "waiting for changes, press q to quit\n"
         else String.join (shown.map fun r => d.rowText r ++ "\n")) := by
  intro k
  have hk : k ≤ d.rows.length := by simp only [k]; split <;> omega
  refine ⟨d.rows.drop (d.rows.length - k), List.drop_suffix _ _, by simp; omega, ?_⟩
  unfold view
  dsimp only
  split
  · rfl
  · -- The rows shown are those past the first `length - k`.
    have hshown : (if (decide (d.height > 0) && decide ((d.rows.length : Int) > d.height - 1)) = true
        then d.rows.drop (d.rows.length - (d.height - 1).toNat) else d.rows) =
          d.rows.drop (d.rows.length - k) := by
      by_cases hh : 0 < d.height
      · by_cases hfit : (d.rows.length : Int) > d.height - 1
        · simp only [hh, hfit, decide_true, Bool.and_self, if_true, k, if_pos hh]
          congr 1
          omega
        · simp only [hfit, decide_false, Bool.and_false, k, if_pos hh]
          rw [show d.rows.length - min d.rows.length (d.height - 1).toNat = 0 by omega, List.drop_zero]
          rfl
      · simp only [hh, decide_false, Bool.false_and, k, if_neg hh, Nat.sub_self, List.drop_zero]
        rfl
    rw [hshown]

/-- The dashboard's rows follow the reloads over every run of messages. The rows are those before
and then one per start and per finish that found no running row of its path, in the order the
messages came. A finish settles the latest running row of its path, completed or failed with its
views and failure, or else a row of its own, and changes no other row. A row that is no longer
running never changes again. The screen lists the latest rows that fit under the heading when the
window's height is known, and all rows otherwise. -/
theorem rows_track_reloads (d : Dashboard) (ms : List DashboardMessage) :
    (d.receive ms).rows.map (fun r => (r.path, r.name)) =
      d.rows.map (fun r => (r.path, r.name)) ++
        (d.addedPaths ms).map (fun p => (p, d.displayName p)) ∧
    (∀ path views failure,
      (∃ i r, LatestRunning (d.receive ms).rows path i r ∧
        (d.receive (ms ++ [.news (.finished path views failure)])).rows =
          (d.receive ms).rows.set i (r.settle views failure)) ∨
      ((∀ r ∈ (d.receive ms).rows, ¬ r.RunningOf path) ∧
        (d.receive (ms ++ [.news (.finished path views failure)])).rows =
          (d.receive ms).rows ++
            [settle views failure { path, name := d.displayName path, status := .running }])) ∧
    (∀ (later : List DashboardMessage) (i : Nat) (r : ReloadRow),
      (d.receive ms).rows[i]? = some r → r.status ≠ .running →
      (d.receive (ms ++ later)).rows[i]? = some r) ∧
    (let s := d.receive ms
     ∃ shown, shown <:+ s.rows ∧
      shown.length = (if 0 < s.height then min s.rows.length (s.height - 1).toNat else s.rows.length) ∧
      s.view = "watching " ++ ", ".intercalate d.roots ++ "\n" ++
        (if s.rows.isEmpty then "waiting for changes, press q to quit\n"
         else String.join (shown.map fun r => s.rowText r ++ "\n"))) := by
  refine ⟨receive_pathNames d ms, fun path views failure => ?_, fun later i r hi hr => ?_, ?_⟩
  · -- The finish is the last message; its row is named under the roots, which no message changes.
    have hcases := finish_cases (d.receive ms) path views failure
    rw [displayName_of_roots (receive_roots d ms)] at hcases
    rwa [receive_append]
  · rw [receive_append]
    exact receive_keeps_settled _ later hi hr
  · simpa using view_shows_latest (d.receive ms)

end Dashboard

end Stencil

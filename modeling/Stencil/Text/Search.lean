/-!
# Searching and replacing literal text

Literal search over character lists: the first occurrence of a pattern, replacing the first or
every occurrence, and cutting a text at every occurrence of a separator. An empty pattern occurs
before every character and at the end, so replacing it inserts the replacement at those places.
-/

namespace Stencil.Text

/-- Cuts `s` at the first occurrence of `pat`: the text before it and the text after it. -/
def breakOn (pat : List Char) : List Char → Option (List Char × List Char)
  | [] => if pat.isEmpty then some ([], []) else none
  | c :: cs =>
    if pat.isPrefixOf (c :: cs) then some ([], (c :: cs).drop pat.length)
    else (breakOn pat cs).map fun (a, b) => (c :: a, b)

/-- Whether `pat` occurs somewhere in `s`. -/
def occursIn (pat s : List Char) : Bool :=
  (breakOn pat s).isSome

/-- Replaces the first occurrence of `pat` in `s` by `rep`. -/
def replaceFirst (pat rep s : List Char) : List Char :=
  match breakOn pat s with
  | none => s
  | some (a, b) => a ++ rep ++ b

/-- Dropping a positive count from a nonempty list shortens it. -/
theorem length_drop_succ_lt {α} (x : α) (xs : List α) (n : Nat) :
    ((x :: xs).drop (n + 1)).length < (x :: xs).length := by
  simp only [List.drop_succ_cons, List.length_drop, List.length_cons]; omega

/-- Replaces every occurrence of the nonempty pattern `p :: ps`, scanning left to right. -/
def replaceEvery (p : Char) (ps rep : List Char) : List Char → List Char
  | [] => []
  | c :: cs =>
    if (p :: ps).isPrefixOf (c :: cs) then
      rep ++ replaceEvery p ps rep ((c :: cs).drop (ps.length + 1))
    else c :: replaceEvery p ps rep cs
termination_by s => s.length
decreasing_by
  · exact length_drop_succ_lt _ _ _
  · simp

/-- Replaces every occurrence of `pat` in `s` by `rep`; an empty pattern matches before every
character and at the end. -/
def replaceAll (pat rep s : List Char) : List Char :=
  match pat with
  | [] => rep ++ s.flatMap fun c => c :: rep
  | p :: ps => replaceEvery p ps rep s

/-- Cuts `s` at every occurrence of the nonempty separator `p :: ps`; `cur` holds the piece read
so far, reversed. -/
def splitEvery (p : Char) (ps : List Char) (cur : List Char) : List Char → List (List Char)
  | [] => [cur.reverse]
  | c :: cs =>
    if (p :: ps).isPrefixOf (c :: cs) then
      cur.reverse :: splitEvery p ps [] ((c :: cs).drop (ps.length + 1))
    else splitEvery p ps (c :: cur) cs
termination_by s => s.length
decreasing_by
  · exact length_drop_succ_lt _ _ _
  · simp

/-- Cuts `s` at every occurrence of `sep`; an empty separator cuts between characters. -/
def splitOn (sep s : List Char) : List (List Char) :=
  match sep with
  | [] => s.map fun c => [c]
  | p :: ps => splitEvery p ps [] s

/-- The first occurrence of `pat` in the text `s`, as the texts before and after it. -/
def breakAt (s pat : String) : Option (String × String) :=
  (Text.breakOn pat.toList s.toList).map fun (a, b) => (String.ofList a, String.ofList b)

/-- Replaces the first occurrence of `pat` in `s` by `rep`. -/
def replaceOnce (s pat rep : String) : String :=
  String.ofList (Text.replaceFirst pat.toList rep.toList s.toList)

/-- Replaces every occurrence of `pat` in `s` by `rep`. -/
def replaceEach (s pat rep : String) : String :=
  String.ofList (Text.replaceAll pat.toList rep.toList s.toList)

/-- Cuts `s` at every occurrence of `sep`. -/
def cut (s sep : String) : List String :=
  (Text.splitOn sep.toList s.toList).map String.ofList

/-- Whether `pat` occurs in `s`. -/
def mentions (s pat : String) : Bool :=
  Text.occursIn pat.toList s.toList

/-- Whether `s` ends in `suffix`. -/
def endsWith (s suffix : String) : Bool :=
  suffix.toList.reverse.isPrefixOf s.toList.reverse

end Stencil.Text

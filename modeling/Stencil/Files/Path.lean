import Stencil.Text.Search
/-!
# Slash-separated paths

Paths are texts of names separated by `/`; an absolute path starts with `/`. A path is made
*clean* by reading it lexically: repeated slashes collapse, `.` names drop out, a `..` removes
the name before it (and nothing at the root), and a trailing slash goes. The empty path cleans
to `.`. Joining, taking the directory, the last name, the extension, or a path relative to a
base all work on clean paths, without looking at any file.
-/

namespace Stencil.Path

/-- The names of a path between its slashes, empty ones included. -/
def pieces (p : String) : List String := Text.cut p "/"

/-- Whether a path is absolute. -/
def isAbs (p : String) : Bool := p.startsWith "/"

/-- The names a clean path keeps, in order, given whether it is rooted. -/
def keptNames (rooted : Bool) (names : List String) : List String :=
  (names.foldl (fun stk e =>
    if e == "" || e == "." then stk
    else if e == ".." then
      match stk with
      | top :: rest => if top == ".." then ".." :: stk else rest
      | [] => if rooted then [] else [".."]
    else e :: stk) []).reverse

/-- The clean form of a path. -/
def clean (p : String) : String :=
  if p.isEmpty then "."
  else
    let rooted := isAbs p
    let names := keptNames rooted (pieces p)
    if rooted then "/" ++ "/".intercalate names
    else if names.isEmpty then "."
    else "/".intercalate names

/-- The paths joined by slashes and cleaned; empty parts are passed over, and no parts at all
give the empty path. -/
def join (parts : List String) : String :=
  match parts.filter (!·.isEmpty) with
  | [] => ""
  | ps => clean ("/".intercalate ps)

/-- Joins two paths. -/
def append (a b : String) : String := join [a, b]

/-- Everything but the last name of a path, cleaned; `.` when there is no slash. -/
def dir (p : String) : String :=
  let cs := p.toList
  match cs.reverse.findIdx? (· == '/') with
  | none => "."
  | some j => clean (String.ofList (cs.take (cs.length - j)))

/-- The last name of a path, trailing slashes ignored; `.` for the empty path and `/` for the
root. -/
def base (p : String) : String :=
  if p.isEmpty then "."
  else
    let cs := p.toList.reverse.dropWhile (· == '/')
    if cs.isEmpty then "/"
    else String.ofList (cs.takeWhile (· != '/')).reverse

/-- The extension of a path: its last name from the last `.` on, or empty. -/
def ext (p : String) : String :=
  let name := (p.toList.reverse.takeWhile (· != '/')).reverse
  match name.reverse.findIdx? (· == '.') with
  | none => ""
  | some j => String.ofList (name.drop (name.length - 1 - j))

/-- The names of a clean path, without the root. -/
def names (p : String) : List String :=
  if p == "." then [] else (pieces p).filter (!·.isEmpty)

/-- The path that leads from a base to a target: `..` for each name of the base past their
common front, then the rest of the target. Fails when one is absolute and the other is not, or
when the base climbs out of the common front with `..`. -/
def rel (basePath target : String) : Except String String :=
  let b := clean basePath
  let t := clean target
  let refuse : Except String String :=
    .error ("Rel: can't make " ++ target ++ " relative to " ++ basePath)
  if b == t then .ok "."
  else if isAbs b != isAbs t then refuse
  else
    let bs := names b
    let ts := names t
    let common := ((bs.zip ts).takeWhile fun (x, y) => x == y).length
    let bRest := bs.drop common
    let tRest := ts.drop common
    if bRest.head? == some ".." then refuse
    else .ok ("/".intercalate (bRest.map (fun _ => "..") ++ tRest))

/-- Whether a path lies within a directory, or is it: its path from the directory neither is
`..` nor starts with `../`. -/
def within (directory p : String) : Bool :=
  match rel directory p with
  | .ok r => r != ".." && !r.startsWith "../"
  | .error _ => false

end Stencil.Path

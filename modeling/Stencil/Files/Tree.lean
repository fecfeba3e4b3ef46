import Stencil.Files.Path
import Stencil.Data.NameMap
/-!
# A tree of files

The files a program works on, as a finite tree: every file by its absolute clean path with its
text, and the directories made without any file in them. A directory exists when it was made or
holds a file at any depth; the root always exists. A path below a file exists as nothing, and
using it reports that a part of it is not a directory.

Failures are reported the way the operating system words them: the operation, the path, and
`no such file or directory`, `is a directory` or `not a directory`.
-/

namespace Stencil

/-- Why an operation on a path failed. -/
inductive FileError where
  | missing
  | isDirectory
  | notDirectory
  | notEmpty
deriving DecidableEq, Repr

/-- The words of a failure. -/
def FileError.text : FileError → String
  | .missing => "no such file or directory"
  | .isDirectory => "is a directory"
  | .notDirectory => "not a directory"
  | .notEmpty => "directory not empty"

/-- A failure of an operation on a path, worded `op path: reason`. -/
def FileError.describe (e : FileError) (op path : String) : String :=
  op ++ " " ++ path ++ ": " ++ e.text

/-- What stands at a path. -/
inductive Entry where
  | file (content : String)
  | directory
  | absent
  | belowFile
deriving DecidableEq, Repr

/-- Files by absolute path, and the directories made on their own. -/
structure FileTree where
  files : NameMap String := NameMap.empty
  dirs : List String := []
deriving Inhabited

namespace FileTree

/-- Whether `p` lies strictly below directory `d`. -/
def isBelow (d p : String) : Bool :=
  if d == "/" then p != "/" && p.startsWith "/" else p.startsWith (d ++ "/")

/-- The directories a path lies in, from the root down, the path itself excluded. -/
def ancestors (p : String) : List String :=
  let names := Path.names p
  (List.range names.length).map fun i => "/" ++ "/".intercalate (names.take i)

/-- Whether a directory exists. -/
def isDir (t : FileTree) (p : String) : Bool :=
  p == "/" || t.dirs.any (fun d => d == p || isBelow p d) || t.files.keys.any (isBelow p)

/-- What stands at an absolute path. -/
def entry (t : FileTree) (p : String) : Entry :=
  let p := Path.clean p
  match t.files.find? p with
  | some c => .file c
  | none =>
    if t.isDir p then .directory
    else if (ancestors p).any t.files.contains then .belowFile
    else .absent

/-- The text of a file, or why it cannot be read. -/
def read (t : FileTree) (p : String) : Except FileError String :=
  match t.entry p with
  | .file c => .ok c
  | .directory => .error .isDirectory
  | .absent => .error .missing
  | .belowFile => .error .notDirectory

/-- Makes a directory and the ones it lies in. -/
def makeDirs (t : FileTree) (p : String) : FileTree :=
  let p := Path.clean p
  if t.isDir p then t else { t with dirs := t.dirs ++ [p] }

/-- Makes a directory and the ones it lies in, failing at the first of them from the root that
is a file. -/
def makeAll (t : FileTree) (p : String) : Except String FileTree :=
  let p := Path.clean p
  match (ancestors p ++ [p]).find? t.files.contains with
  | some f => .error (FileError.notDirectory.describe "mkdir" f)
  | none => .ok (t.makeDirs p)

/-- Removes a file or an empty directory, with the failure a removal reports. -/
def removeEntry (t : FileTree) (p : String) : Except FileError FileTree :=
  let p := Path.clean p
  match t.entry p with
  | .file _ => .ok { t with files := t.files.erase p }
  | .directory =>
    if t.files.keys.any (isBelow p) || t.dirs.any (isBelow p) then .error .notEmpty
    else .ok { t with dirs := t.dirs.filter (· != p) }
  | .absent => .error .missing
  | .belowFile => .error .notDirectory

/-- Writes a file, making the directories it lies in. -/
def write (t : FileTree) (p content : String) : FileTree :=
  let p := Path.clean p
  { t with files := t.files.insert p content }

/-- Removes a file, or a directory with nothing in it; tells whether anything went. -/
def remove (t : FileTree) (p : String) : FileTree × Bool :=
  let p := Path.clean p
  if t.files.contains p then ({ t with files := t.files.erase p }, true)
  else if t.dirs.contains p && !t.files.keys.any (isBelow p) && !t.dirs.any (isBelow p) then
    ({ t with dirs := t.dirs.filter (· != p) }, true)
  else (t, false)

/-- The names directly inside a directory, sorted. -/
def children (t : FileTree) (d : String) : List String :=
  let below := (t.files.keys ++ t.dirs).filter (isBelow d)
  let firsts := below.map fun p =>
    let rest := String.ofList (p.toList.drop (if d == "/" then 1 else d.length + 1))
    (Text.cut rest "/").headD rest
  (firsts.foldl (fun acc n => if acc.contains n then acc else acc ++ [n]) []).mergeSort
    fun a b => decide (a ≤ b)

/-- The files below a directory, as paths relative to it, sorted. -/
def filesBelow (t : FileTree) (d : String) : List String :=
  (t.files.keys.filter (isBelow d)).map fun p =>
    String.ofList (p.toList.drop (if d == "/" then 1 else d.length + 1))

/-- Every directory of the tree but the root, each once: those made on their own and those a file
or a made directory lies in. -/
def allDirs (t : FileTree) : List String :=
  ((t.dirs ++ (t.files.keys ++ t.dirs).flatMap ancestors).filter (· != "/")).eraseDups

/-- Whether `p` is `d` or lies below it. -/
def isAtOrBelow (d p : String) : Bool :=
  p == d || isBelow d p

/-- The files and directories at or below a path. -/
def entriesAtOrBelow (t : FileTree) (p : String) : List String :=
  (t.files.keys ++ t.allDirs).filter (isAtOrBelow p)

/-- Removes a path and everything below it. -/
def removeAll (t : FileTree) (p : String) : FileTree :=
  let p := Path.clean p
  { files := (t.files.keys.filter (isAtOrBelow p)).foldl NameMap.erase t.files,
    dirs := t.dirs.filter fun d => !isAtOrBelow p d }

/-- Moves a file, or a directory with everything below it, to another path. -/
def move (t : FileTree) (src dst : String) : FileTree :=
  let src := Path.clean src
  let dst := Path.clean dst
  let rebase (p : String) : String := dst ++ String.ofList (p.toList.drop src.length)
  match t.entry src with
  | .file c => { t with files := (t.files.erase src).insert dst c }
  | .directory =>
    let moved := t.files.keys.filter (isAtOrBelow src)
    let files := moved.foldl (fun m p => (m.erase p).insert (rebase p) ((t.files.find? p).getD ""))
      t.files
    { files, dirs := (t.dirs.map fun d => if isAtOrBelow src d then rebase d else d) ++ [dst] }
  | _ => t

end FileTree

end Stencil

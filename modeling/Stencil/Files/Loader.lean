import Stencil.Files.Tree
import Stencil.Config.Basic
import Stencil.Template.Record
import Stencil.Fault
/-!
# Loading view templates from files

View templates are the files ending in `.html` (in any case) below the view roots. A root is
walked depth first with the names of each directory in byte order, passing over the directories
`.git`, `.jj`, `node_modules` and the cache directory below the root (the root itself is always
walked). A template's logical name is its path from its root without the extension, and its
display name the last part of that. When two roots hold templates of one logical name, the
first root's wins.

A single template may be loaded by its path, from the first root the path lies strictly inside.
-/

namespace Stencil

/-- The directories a walk passes over, besides those given. -/
def skippedDirs : List String := [".git", ".jj", "node_modules"]

namespace FileTree

/-- A depth no walk goes past: a file lies fewer names below a directory than its path has
characters. -/
def walkDepth (t : FileTree) : Nat :=
  t.files.keys.foldl (fun n p => n + p.length) 1

/-- The files below a path in walking order: the names of each directory in byte order, depth
first, passing over the skipped directories below the top. A path that is a file is its own
walk; a missing one fails as a look-up of the path does. -/
def walkFiles (t : FileTree) (root : String) (ignores : List String) : Except String (List String) :=
  match t.entry root with
  | .absent => .error (FileError.missing.describe "lstat" root)
  | .belowFile => .error (FileError.notDirectory.describe "lstat" root)
  | .file _ => .ok [root]
  | .directory => .ok (go t.walkDepth root)
where
  go : Nat → String → List String
    | 0, _ => []
    | fuel + 1, d =>
      (t.children d).flatMap fun name =>
        let p := Path.append d name
        match t.entry p with
        | .file _ => [p]
        | .directory =>
          if skippedDirs.contains name || ignores.contains name then [] else go fuel p
        | _ => []

end FileTree

/-- Whether a path names a template: its extension is `.html` in any case. -/
def isTemplatePath (p : String) : Bool :=
  (Path.ext p).toLower == templateExt

/-- The path of a file from a root it lies strictly inside. -/
def relativeInside (root p : String) : Option String :=
  match Path.rel root p with
  | .ok r => if r == "." || r == ".." || r.startsWith "../" then none else some r
  | .error _ => none

/-- Loads templates from a list of view roots. -/
structure ViewLoader where
  roots : List String
deriving Inhabited

namespace ViewLoader

/-- A loader over view roots; there must be at least one. -/
def make (roots : List String) : Except Fault ViewLoader :=
  if roots.isEmpty then .error (.condition .notConfigured) else .ok ⟨roots.map Path.clean⟩

/-- The record of a template with its text, at a path below a root: its logical name is its path
from the root without the extension. -/
def templateAt (root p content : String) : Template :=
  let rel := (relativeInside root p).getD ""
  let name := String.ofList (rel.toList.take (rel.length - (Path.ext rel).length))
  { name, displayName := Path.base name, sourcePath := p, raw := content,
    fingerprint := Digest.fingerprint content }

/-- Reads the template at a path below a root. -/
def read (t : FileTree) (root p : String) : Except Fault Template :=
  match t.read p with
  | .error e =>
    let op := if e == .isDirectory then "read" else "open"
    .error (((Fault.foreign (e.describe op p)).wrap (Condition.text .templateReadFailed)).about
      "path" p)
  | .ok content => .ok (templateAt root p content)

/-- Loads every template below the roots, the first of each logical name. -/
def loadAll (l : ViewLoader) (t : FileTree) : Except Fault (List Template) := do
  let mut seen : List String := []
  let mut records : Array Template := #[]
  for root in l.roots do
    let paths ← match t.walkFiles root [cacheDirName] with
      | .ok ps => pure ps
      | .error e => throw (((Fault.foreign e).wrap "failed to scan view root").about "root" root)
    for p in paths do
      if !isTemplatePath p then continue
      let r ← read t root p
      if seen.contains r.name then continue
      seen := r.name :: seen
      records := records.push r
  if records.isEmpty then
    throw (((Fault.condition .noTemplatesFound).wrap "empty view roots").about "roots"
      (",".intercalate l.roots))
  return records.toList

/-- Loads the template at a path, from the first root it lies inside. -/
def load (l : ViewLoader) (t : FileTree) (p : String) : Except Fault Template :=
  let abs := Path.clean p
  match l.roots.find? (fun root => (relativeInside root abs).isSome) with
  | some root => read t root abs
  | none => .error (((Fault.condition .templateOutsideRoots).wrap "cannot load template").about
      "path" abs)

end ViewLoader

end Stencil

import Stencil.Files.Loader
/-!
# Watching template files

A watcher follows the template files below a set of view roots. It watches directories: each root
that is a directory, and every directory below it but `.git`, `.jj`, `node_modules` and the cache
directory (a root is watched whatever its name). A root that is missing or a file watches nothing.

A change to the files reaches the watcher as *notices*, the way the system reports them: each
about an entry directly inside a watched directory, or about a watched directory itself. The
notices of one change are those the directories watched before it give. The watcher takes them
in order, looking at the files as they are once the change is done:

* a created entry that is a directory is watched with the directories below it, and tells
  nothing more, unless its name is one never watched;
* a watched directory that is removed or moved away is no longer watched, nor is anything below
  it;
* any other notice about a template path (ending in `.html` in any case) is a change: written,
  created (also by moving in), removed, or renamed (moved away); a change of mode tells nothing.

While paused, the watcher drops the changes, though it still watches new directories; pauses
nest, and a resume beyond the last pause does nothing. Once stopped, it takes no more notices.
-/

namespace Stencil.Watch

/-- What happened to a template file. -/
inductive ChangeKind where
  | create
  | write
  | remove
  | rename
deriving DecidableEq, Repr

/-- The word for a kind of change. -/
def ChangeKind.name : ChangeKind → String
  | .create => "create"
  | .write => "write"
  | .remove => "remove"
  | .rename => "rename"

/-- A change to a template file. -/
structure Change where
  kind : ChangeKind
  path : String
deriving DecidableEq, Repr

/-- What a notice says about its entry. -/
inductive NoticeKind where
  /-- The entry was made, or moved in. -/
  | created
  /-- The file was written to. -/
  | written
  /-- The entry was removed. -/
  | removed
  /-- The entry was moved away. -/
  | movedAway
  /-- The mode of the entry changed. -/
  | changedMode
  /-- A watched directory itself was removed. -/
  | vanished
  /-- A watched directory itself was moved away. -/
  | departed
deriving DecidableEq, Repr

/-- A notice from the system about one entry. -/
structure Notice where
  kind : NoticeKind
  path : String
deriving DecidableEq, Repr

/-- Whether a notice is about a watched directory itself rather than an entry inside one. -/
def NoticeKind.aboutSelf : NoticeKind → Bool
  | .vanished | .departed => true
  | _ => false

/-- The change a notice tells of, whatever its path. -/
def NoticeKind.change? : NoticeKind → Option ChangeKind
  | .created => some .create
  | .written => some .write
  | .removed | .vanished => some .remove
  | .movedAway | .departed => some .rename
  | .changedMode => none

/-- The names of directories never watched below a root. -/
def unwatchedNames : List String := skippedDirs ++ [cacheDirName]

/-- The directories watched for a root: the root itself when it is a directory, and every
directory below it with no part of its path from the root named as one never watched. -/
def dirsFrom (t : FileTree) (root : String) : List String :=
  if t.entry root != .directory then []
  else
    root :: t.allDirs.filter fun d =>
      FileTree.isBelow root d &&
        !(Path.pieces (String.ofList (d.toList.drop (root.length + 1)))).any unwatchedNames.contains

/-- A watcher: the directories it watches, how many pauses are in force, and whether it was
stopped. -/
structure FileWatch where
  watched : List String := []
  paused : Nat := 0
  stopped : Bool := false
deriving Repr

namespace FileWatch

/-- A watcher of the given roots. -/
def start (t : FileTree) (roots : List String) : FileWatch :=
  { watched := (roots.flatMap fun r => dirsFrom t (Path.clean r)).eraseDups }

/-- Drops changes until a matching resume. -/
def pause (w : FileWatch) : FileWatch := { w with paused := w.paused + 1 }

/-- Undoes one pause, if there is one. -/
def resume (w : FileWatch) : FileWatch := { w with paused := w.paused - 1 }

/-- Stops the watcher for good. -/
def stop (w : FileWatch) : FileWatch := { w with stopped := true }

/-- Whether the system gives a notice to a watcher with these directories watched. -/
def hears (w : FileWatch) (n : Notice) : Bool :=
  if n.kind.aboutSelf then w.watched.contains n.path
  else w.watched.contains (Path.dir n.path)

/-- Takes one notice, the files being `t`: the watcher after it, and the change it reports. -/
def take (w : FileWatch) (t : FileTree) (n : Notice) : FileWatch × Option Change :=
  if w.stopped then (w, none)
  else if n.kind == .created && t.entry n.path == .directory then
    if unwatchedNames.contains (Path.base n.path) then (w, none)
    else ({ w with watched := (w.watched ++ dirsFrom t n.path).eraseDups }, none)
  else
    let w := if n.kind.aboutSelf then
        { w with watched := w.watched.filter fun d => !FileTree.isAtOrBelow n.path d }
      else w
    match n.kind.change? with
    | some k => (w, if isTemplatePath n.path && w.paused == 0 then some ⟨k, n.path⟩ else none)
    | none => (w, none)

/-- Takes the notices of one change to the files, `t` being the files after it: those the
directories watched before the change give, in order. -/
def takeAll (w : FileWatch) (t : FileTree) (notices : List Notice) : FileWatch × List Change :=
  (notices.filter w.hears).foldl (fun (w, changes) n =>
    let (w, c) := w.take t n
    (w, changes ++ c.toList)) (w, [])

end FileWatch

/-- A change made to the files. -/
inductive FileOp where
  /-- Writes a file from scratch, making the directories it lies in. -/
  | write (path content : String)
  /-- Adds to the end of a file, making it and the directories it lies in. -/
  | append (path content : String)
  /-- Makes a directory and the ones it lies in. -/
  | makeDir (path : String)
  /-- Removes a path and everything below it. -/
  | remove (path : String)
  /-- Moves a path to another. -/
  | rename (src dst : String)
  /-- Changes the mode of a path. -/
  | chmod (path : String)

/-- The directories a path needs made, from the root down, the path itself included. -/
def missingDirs (t : FileTree) (p : String) : List String :=
  (FileTree.ancestors p ++ [p]).filter fun d => d != "/" && !t.isDir d

/-- Writing to a file: the files after, and the notices, or why the file could not be opened. The
directories it lies in are made first. Opening a file from scratch that is there empties it,
which counts as writing to it; writing nothing writes nothing. -/
def writeFile (t : FileTree) (p content : String) (fresh : Bool) :
    Except String (FileTree × List Notice) := do
  let dirs := missingDirs t (Path.dir p)
  let made ← t.makeAll (Path.dir p)
  match made.entry p with
  | .file old =>
    return (made.write p (if fresh then content else old ++ content),
      if fresh || !content.isEmpty then [⟨.written, p⟩] else [])
  | .absent =>
    return (made.write p content,
      dirs.map (⟨.created, ·⟩) ++ [⟨.created, p⟩] ++ if content.isEmpty then [] else [⟨.written, p⟩])
  | .directory => throw (FileError.isDirectory.describe "open" p)
  | .belowFile => throw (FileError.notDirectory.describe "open" p)

/-- Makes a change to the files: the files after it and the notices the system gives, or the
failure the system reports. -/
def FileOp.apply (t : FileTree) : FileOp → Except String (FileTree × List Notice)
  | .write p content => writeFile t (Path.clean p) content true
  | .append p content => writeFile t (Path.clean p) content false
  | .makeDir p => do
    let p := Path.clean p
    let made ← t.makeAll p
    return (made, (missingDirs t p).map (⟨.created, ·⟩))
  | .remove p =>
    let p := Path.clean p
    let entries := t.entriesAtOrBelow p
    let dirs := entries.filter t.isDir
    .ok (t.removeAll p, entries.map (⟨.removed, ·⟩) ++ dirs.map (⟨.vanished, ·⟩))
  | .rename src dst =>
    let src := Path.clean src
    let dst := Path.clean dst
    let failed (e : FileError) : String := "rename " ++ src ++ " " ++ dst ++ ": " ++ e.text
    match t.entry src, t.entry (Path.dir dst) with
    | .file _, .directory | .directory, .directory =>
      let self := if t.isDir src then [⟨.departed, src⟩] else []
      .ok (t.move src dst, [⟨.movedAway, src⟩, ⟨.created, dst⟩] ++ self)
    | .belowFile, _ => .error (failed .notDirectory)
    | .absent, _ | _, .absent => .error (failed .missing)
    | _, _ => .error (failed .notDirectory)
  | .chmod p =>
    let p := Path.clean p
    match t.entry p with
    | .file _ | .directory => .ok (t, [⟨.changedMode, p⟩])
    | .belowFile => .error (FileError.notDirectory.describe "chmod" p)
    | _ => .error (FileError.missing.describe "chmod" p)

/-- Makes a change to the files under a watcher: the files after it, the watcher, and the changes
it reports, with the failure of the change if it failed. A failed change leaves the files as
they were. -/
def observe (t : FileTree) (w : FileWatch) (op : FileOp) :
    FileTree × FileWatch × List Change × Option String :=
  match op.apply t with
  | .ok (t', notices) =>
    let (w', changes) := w.takeAll t' notices
    (t', w', changes, none)
  | .error e => (t, w, [], some e)

end Stencil.Watch

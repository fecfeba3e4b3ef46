import Stencil.Cli.Run
import Stencil.Antiforgery
/-!
# The command line

The program run on the real files. A run works on a tree of files, so the files it can touch are
read first: the project files from the settings directory upwards, then the view roots and the
cache the settings name. Once the run is done, every file it wrote is written back and every file
it removed is removed. The output, the error stream followed by the log, and the exit status are
those of the run.

The environment is read for the variables the program consults only, and the log is written
without a time, since no clock is read.
-/

namespace Stencil.CommandLine

/-- The variables of the environment the program consults. -/
def consulted : List String :=
  ["MONTAUK_ROOT", "MONTAUK_VIEWS", "MONTAUK_DEBUG", "MONTAUK_RESOURCES", "MONTAUK_CACHE_BACKEND",
   "MONTAUK_CACHE_FORMAT", "MONTAUK_CACHE_PATH", "MONTAUK_WATCH_INTERVAL", "MONTAUK_WATCH_ATTEMPTS",
   "MONTAUK_WATCH_DEBOUNCE", "MONTAUK_BUNDLES", "NO_COLOR", "CLICOLOR_FORCE"]

/-- The directory the settings are looked up from: the one the command line names, read against
the working directory, else the working directory. -/
def settingsDir (cwd : String) (args : List String) : String :=
  match Cli.program.resolve args with
  | .run _ vs _ =>
    let d := vs.text "dir"
    if d.isEmpty then cwd else if Path.isAbs d then Path.clean d else Path.append cwd d
  | _ => cwd

/-- The places a project file may be, from a directory upwards. -/
def projectFilePlaces (dir : String) : List String :=
  (FileTree.ancestors dir ++ [dir]).map (Path.append · configFileName)

/-- The places a run may touch once the project file is read: the view roots and the cache. -/
def projectPlaces (t : FileTree) (env : Environment) (dir : String) : List String :=
  match (loadConfig t env dir).1 with
  | .ok c => c.viewRootPaths ++ [c.cachePath]
  | .error _ => []

/-- The files a run wrote or changed, with their text. -/
def written (before after : FileTree) : List (String × String) :=
  after.files.entries.filter fun (p, c) => before.files.find? p != some c

/-- The files a run removed. -/
def removed (before after : FileTree) : List String :=
  before.files.keys.filter fun p => !after.files.contains p

/-- Reads a file, or everything below a directory but the directories a walk passes over, into
the tree; what cannot be read is left out. -/
partial def absorb (t : FileTree) (p : String) : IO FileTree := do
  let some full ← (try pure (some (← IO.FS.realPath p)) catch _ => pure none) | return t
  if ← full.isDir then
    let entries ← try full.readDir catch _ => pure #[]
    entries.foldlM (fun t e =>
      if skippedDirs.contains e.fileName then pure t else absorb t (Path.append p e.fileName))
      (t.makeDirs p)
  else
    try return t.write p (← IO.FS.readFile p) catch _ => return t

/-- Writes back what a run changed in the tree. -/
def writeBack (before after : FileTree) : IO Unit := do
  for (p, c) in written before after do
    IO.FS.createDirAll (Path.dir p)
    IO.FS.writeFile p c
  for p in removed before after do
    try IO.FS.removeFile p catch _ => pure ()

end Stencil.CommandLine

open Stencil Stencil.CommandLine in
/-- Runs the program on the command line and the real files. -/
def main (args : List String) : IO UInt32 := do
  let cwd := (← IO.currentDir).toString
  let env ← consulted.filterMapM fun n => do return (← IO.getEnv n).map (n, ·)
  let dir := settingsDir cwd args
  let t ← (projectFilePlaces dir).foldlM absorb ({ dirs := [] } : FileTree)
  let t ← (projectPlaces t env dir).foldlM absorb t
  let seed ← IO.monoNanosNow
  let proj : Project := { env, workDir := cwd, tokens := some (IdSupply.splitMix seed.toUInt64).tokens }
  let (o, h) := (Cli.run Cli.program {} proj cwd true true args).run { files := t, elapsed := "0s" }
  IO.print o.stdout
  (← IO.getStderr).putStr (o.stderr ++ o.logText h.log.toList false "")
  writeBack t h.files
  return o.exitCode.toUInt32
